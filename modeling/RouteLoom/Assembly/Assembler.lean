import RouteLoom.Assembly.Event
import RouteLoom.Assembly.RouteIds
import RouteLoom.Context.Finding
import RouteLoom.Interception.Any
import RouteLoom.Weaving.Weaver

/-!
# Assembling a context

A pass over a context validates it, looks up its error handler and the built-in strategies, gives
every route an id, and weaves the routes in order. Events are sent from the moment the routes have
their ids.
-/

namespace RouteLoom

structure Assembled where
  id : String
  routes : List Route
  reports : List Report
  errorHandler : Option String
  findings : List Finding
deriving DecidableEq, Repr

namespace Assembled

def route? (a : Assembled) (id : String) : Option Route := a.routes.find? (·.id = id)

def report? (a : Assembled) (id : String) : Option Report := a.reports.find? (·.route = id)

end Assembled

structure Pass where
  events : List Event
  outcome : Except Fault Assembled

/-! ### Events -/

def layerEvents (route : String) (l : Layer) : List Event :=
  .applied route l.intercept l.wrapped ::
    if 0 < l.dropped then [.dropped route l.intercept l.dropped] else []

def reportEvents (r : Report) : List Event :=
  r.layers.flatMap (layerEvents r.route) ++ [.woven r.route r.clauses r.layers.length]

/-! ### The routes -/

/-- Weaves routes in order, up to the first fault. -/
def Weaver.runAll (w : Weaver) (interceptors : List Interception) :
    List Route → List Event × Except Fault (List (Route × Report))
  | [] => ([], .ok [])
  | r :: rest =>
    let woven := w.run r interceptors
    match woven.fault with
    | some f => ([.failed r.id f.message], .error (.assembly r.id f))
    | none =>
      let (events, outcome) := w.runAll interceptors rest
      (reportEvents woven.report ++ events, outcome.map ((woven.route, woven.report) :: ·))

namespace Context

def registry (c : Context) (parents : List Bindings) : Registry := ⟨c.beans, parents⟩

/-- What is settled before the first event: the findings, the error handler, and the built-in
strategies. -/
def settle (c : Context) (registry : Registry) :
    Except Fault (List Finding × Option String × List Strategy) := do
  let findings ← c.validate
  let handler ← c.errorHandler.mapM registry.lookupName
  let strategies ← Strategy.discover registry c.trace c.delay
  return (findings, handler, strategies)

/-- Assembles a context; `parents` are consulted for what its own beans do not settle. -/
def assemble (c : Context) (parents : List Bindings) : Pass :=
  let registry := c.registry parents
  match c.settle registry with
  | .error f => ⟨[], .error f⟩
  | .ok (findings, handler, strategies) =>
    let interceptors := strategies.map .builtIn ++ c.intercepts.map .declared
    let routes := assignIds c.routes
    let weaver : Weaver := ⟨registry, c.clauseNodes, c.options⟩
    let (events, outcome) := weaver.runAll interceptors routes
    let started := Event.started c.id routes.length interceptors.length
    match outcome with
    | .error f => ⟨started :: events, .error f⟩
    | .ok woven =>
      { events := started :: events ++ [.completed c.id woven.length]
        outcome := .ok
          { id := c.id
            routes := woven.map Prod.fst
            reports := woven.map Prod.snd
            errorHandler := handler
            findings := findings } }

end Context

end RouteLoom
