import RouteLoom.Interception.Interceptor

/-!
# Built-in strategies

Three strategies are woven around every route of a context that enables them, directly around the
route's own nodes. Each is enabled by exactly one bean of its reserved type, and the tracer and the
delayer by an attribute of the context as well.
-/

namespace RouteLoom

inductive Strategy
  | debugger (bean : String)
  | tracer (bean formatter : Option String)
  | delayer (bean : Option String) (millis : Option Nat)
deriving DecidableEq, Repr

namespace Strategy

def debuggerType : String := "routeweave:Debugger"

def tracerType : String := "routeweave:Tracer"

def formatterType : String := "routeweave:TraceFormatter"

def delayerType : String := "routeweave:Delayer"

def name : Strategy → String
  | .debugger _ => "debugger"
  | .tracer _ _ => "tracer"
  | .delayer _ _ => "delayer"

def endpoint : Strategy → String
  | .debugger bean => "bean:" ++ bean ++ "?method=breakpoint"
  | .tracer none none => "log:trace"
  | .tracer none (some formatter) => "log:trace?formatter=" ++ formatter
  | .tracer (some bean) none => "bean:" ++ bean ++ "?method=trace"
  | .tracer (some bean) (some formatter) =>
    "bean:" ++ bean ++ "?method=trace&formatter=" ++ formatter
  | .delayer none none => "delay:0"
  | .delayer none (some millis) => "delay:" ++ toString millis
  | .delayer (some bean) none => "bean:" ++ bean ++ "?method=delay"
  | .delayer (some bean) (some millis) =>
    "bean:" ++ bean ++ "?method=delay&millis=" ++ toString millis

instance : Interceptor Strategy where
  name := Strategy.name
  prepare _ s := .ok s
  body s := [Node.step s.endpoint, Node.marker]

/-! ### Which strategies a context enables -/

/-- The single bean of a type. That there is none is no fault. -/
def optionalBean (registry : Registry) (strategy type : String) : Except Fault (Option String) :=
  match registry.lookupType type with
  | .ok bean => .ok (some bean)
  | .error (.dependencyNotFound _) => .ok none
  | .error f => .error (.configuration strategy f.message)

def findDebugger (registry : Registry) : Except Fault (List Strategy) := do
  match ← optionalBean registry "debugger" debuggerType with
  | some bean => return [.debugger bean]
  | none => return []

/-- The tracer is on if the attribute says so, and if it says nothing, by its bean. A formatter is
looked for only then. -/
def findTracer (registry : Registry) (trace : Option Bool) : Except Fault (List Strategy) := do
  if trace = some false then return []
  let bean ← optionalBean registry "tracer" tracerType
  if bean.isNone && trace ≠ some true then return []
  let formatter ← optionalBean registry "tracer" formatterType
  return [.tracer bean formatter]

def findDelayer (registry : Registry) (delay : Option Nat) : Except Fault (List Strategy) := do
  let bean ← optionalBean registry "delayer" delayerType
  if bean.isNone && delay.isNone then return []
  return [.delayer bean delay]

def discover (registry : Registry) (trace : Option Bool) (delay : Option Nat) :
    Except Fault (List Strategy) := do
  let debugger ← findDebugger registry
  let tracer ← findTracer registry trace
  let delayer ← findDelayer registry delay
  return debugger ++ tracer ++ delayer

end Strategy

end RouteLoom
