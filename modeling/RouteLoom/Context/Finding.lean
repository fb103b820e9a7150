import RouteLoom.Context.Basic

/-!
# Findings

Before it is assembled, a context is examined under nine rules, and what they find comes in the
order of the rules. An error among the findings keeps the context from being assembled; the others
are advice.
-/

namespace RouteLoom

inductive Severity
  | error
  | warning
  | info
deriving DecidableEq, Repr

inductive Rule
  | proceedMarker
  | singleProceed
  | proceedPlacement
  | declaredProxy
  | duplicateRouteId
  | duplicateInterceptId
  | exceptionTypes
  | requirementShape
  | emptyRoute
deriving DecidableEq, Repr

structure Finding where
  rule : Rule
  severity : Severity
  message : String
  route : Option String := none
  intercept : Option String := none
  fix : Option String := none
deriving DecidableEq, Repr

namespace Rule

def name : Rule → String
  | .proceedMarker => "proceed_marker"
  | .singleProceed => "single_proceed"
  | .proceedPlacement => "proceed_placement"
  | .declaredProxy => "declared_proxy"
  | .duplicateRouteId => "duplicate_route_id"
  | .duplicateInterceptId => "duplicate_intercept_id"
  | .exceptionTypes => "exception_types"
  | .requirementShape => "requirement_shape"
  | .emptyRoute => "empty_route"

def all : List Rule :=
  [.proceedMarker, .singleProceed, .proceedPlacement, .declaredProxy, .duplicateRouteId,
    .duplicateInterceptId, .exceptionTypes, .requirementShape, .emptyRoute]

/-! ### Intercepts and their markers -/

/-- An intercept without a proceed marker is as bad as the policy makes it. -/
def checkProceedMarker (c : Context) : List Finding :=
  (c.intercepts.filter fun i => Forest.markerCount i.template = 0).map fun i =>
    { rule := .proceedMarker
      severity := match c.options.missingProceed with
        | .reject => .error
        | .drop => .warning
      message :=
        "Intercept '" ++ i.id ++ "' has no proceed marker; the routes it wraps would be lost"
      intercept := some i.id
      fix := some ("Add a \x7b\"kind\": \"proceed\"\x7d node where the wrapped route should continue") }

def checkSingleProceed (c : Context) : List Finding :=
  (c.intercepts.filter fun i => 1 < Forest.markerCount i.template).map fun i =>
    { rule := .singleProceed
      severity := .warning
      message :=
        "Intercept '" ++ i.id ++ "' has " ++ toString (Forest.markerCount i.template)
          ++ " proceed markers; only the first one continues into the route"
      intercept := some i.id }

def filledMarker (n : Node) : Bool := n.isMarker && !n.outputs.isEmpty

def checkProceedPlacement (c : Context) : List Finding :=
  ((c.routes.filter fun r => Forest.any Node.isMarker r.outputs).map fun r =>
    { rule := .proceedPlacement
      severity := .warning
      message := "Route '" ++ r.id ++ "' declares a proceed marker outside any intercept"
      route := some r.id })
  ++ ((c.clauses.filter fun e => Forest.any Node.isMarker e.outputs).map fun e =>
    { rule := .proceedPlacement
      severity := .warning
      message :=
        "Exception clause for [" ++ ", ".intercalate e.exceptions
          ++ "] declares a proceed marker" })
  ++ ((c.intercepts.filter fun i => Forest.any filledMarker i.template).map fun i =>
    { rule := .proceedPlacement
      severity := .info
      message :=
        "Intercept '" ++ i.id
          ++ "' declares outputs inside its proceed marker; they run before the wrapped route"
      intercept := some i.id })

/-! ### Proxies -/

def checkDeclaredProxy (c : Context) : List Finding :=
  ((c.routes.filter fun r => Forest.any Node.isProxy r.outputs).map fun r =>
    { rule := .declaredProxy
      severity := .error
      message := "Route '" ++ r.id ++ "' declares a proxy node directly"
      route := some r.id
      fix := some "Declare an intercept instead; proxies are created during assembly" })
  ++ ((c.intercepts.filter fun i => Forest.any Node.isProxy i.template).map fun i =>
    { rule := .declaredProxy
      severity := .error
      message := "Intercept '" ++ i.id ++ "' declares a proxy node directly"
      intercept := some i.id })

/-! ### Ids -/

/-- Every occurrence of an id that occurred before, where `seen` holds the ids in front. -/
def repeated (seen : List String) : List String → List String
  | [] => []
  | id :: rest => if id ∈ seen then id :: repeated seen rest else repeated (id :: seen) rest

/-- Each id once, at its first occurrence, except those in `seen`. -/
def distinct (seen : List String) : List String → List String
  | [] => []
  | id :: rest => if id ∈ seen then distinct seen rest else id :: distinct (id :: seen) rest

/-- A route id is reported once, however often it is repeated. -/
def checkDuplicateRouteId (c : Context) : List Finding :=
  let ids := (c.routes.map Route.id).filter (· ≠ "")
  (distinct [] (repeated [] ids)).map fun id =>
    { rule := .duplicateRouteId
      severity := .error
      message := "Route id '" ++ id ++ "' is declared more than once"
      route := some id }

def checkDuplicateInterceptId (c : Context) : List Finding :=
  (repeated [] (c.intercepts.map Intercept.id)).map fun id =>
    { rule := .duplicateInterceptId
      severity := .warning
      message := "Intercept id '" ++ id ++ "' is declared more than once"
      intercept := some id }

/-! ### Clauses, requirements, routes -/

def emptyClause (n : Node) : Bool :=
  match n.kind with
  | .onException exceptions _ => exceptions.isEmpty
  | _ => false

def checkExceptionTypes (c : Context) : List Finding :=
  let declared := (c.clauses.filter fun e => e.exceptions.isEmpty).length
  let inRoutes := (c.routes.map fun r => Forest.count emptyClause r.outputs).foldr (· + ·) 0
  if declared + inRoutes = 0 then []
  else
    [{ rule := .exceptionTypes
       severity := .error
       message := toString (declared + inRoutes) ++ " exception clause(s) name no exception types"
       fix := some "List at least one exception type in \"exceptions\"" }]

def checkRequirementShape (c : Context) : List Finding :=
  c.intercepts.flatMap fun i =>
    (i.requirements.filter fun r => !r.wellFormed).map fun r =>
      { rule := .requirementShape
        severity := .error
        message :=
          "Requirement '" ++ r.var ++ "' of intercept '" ++ i.id
            ++ "' must set exactly one of 'bean' or 'type'"
        intercept := some i.id }

/-- An unnamed route is told by its place. -/
def checkEmptyRoute (c : Context) : List Finding :=
  (c.routes.zipIdx.filter fun (r, _) => r.outputs.isEmpty).map fun (r, i) =>
    let shown := if r.id = "" then "#" ++ toString (i + 1) else r.id
    { rule := .emptyRoute
      severity := .warning
      message := "Route '" ++ shown ++ "' has no outputs"
      route := if r.id = "" then none else some r.id }

def check : Rule → Context → List Finding
  | .proceedMarker => checkProceedMarker
  | .singleProceed => checkSingleProceed
  | .proceedPlacement => checkProceedPlacement
  | .declaredProxy => checkDeclaredProxy
  | .duplicateRouteId => checkDuplicateRouteId
  | .duplicateInterceptId => checkDuplicateInterceptId
  | .exceptionTypes => checkExceptionTypes
  | .requirementShape => checkRequirementShape
  | .emptyRoute => checkEmptyRoute

end Rule

namespace Context

def findings (c : Context) : List Finding := Rule.all.flatMap fun rule => rule.check c

/-- The findings on a context, or the fault of the first error among them. -/
def validate (c : Context) : Except Fault (List Finding) :=
  match c.findings.find? fun f => f.severity = .error with
  | some f => .error (.validation ("[" ++ f.rule.name ++ "] " ++ f.message))
  | none => .ok c.findings

end Context

end RouteLoom
