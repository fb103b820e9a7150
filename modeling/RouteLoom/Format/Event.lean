import RouteLoom.Assembly.Event
import RouteLoom.Json.Record

/-!
# The written form of events

An event is an object with one member, whose key tells the event and whose value has its parts.
-/

namespace RouteLoom

namespace Event

def name : Event → String
  | .started _ _ _ => "AssemblyStarted"
  | .applied _ _ _ => "InterceptApplied"
  | .dropped _ _ _ => "OutputsDropped"
  | .woven _ _ _ => "RouteWoven"
  | .failed _ _ => "AssemblyFailed"
  | .completed _ _ => "AssemblyCompleted"

def members : Event → List (String × Json)
  | .started context routes intercepts =>
    [("context_id", .text context), ("route_count", .natural routes),
      ("intercept_count", .natural intercepts)]
  | .applied route intercept wrapped =>
    [("route_id", .text route), ("intercept_id", .text intercept), ("wrapped", .natural wrapped)]
  | .dropped route intercept count =>
    [("route_id", .text route), ("intercept_id", .text intercept), ("count", .natural count)]
  | .woven route clauses layers =>
    [("route_id", .text route), ("exception_handlers", .natural clauses),
      ("layers", .natural layers)]
  | .failed route message => [("route_id", .text route), ("error", .text message)]
  | .completed context routes => [("context_id", .text context), ("route_count", .natural routes)]

def toJson (e : Event) : Json := .object [(e.name, .object e.members)]

def partsBinder (variant : String) (r : Record Event) : String × Binder Event :=
  (variant, Record.binder ("struct variant AssemblyEvent::" ++ variant) r)

def binder : Binder Event :=
  let text (name : String) := Record.required name Binder.text
  let count (name : String) := Record.required name Binder.count
  Binder.partsVariant
    [partsBinder "AssemblyStarted"
        (started <$> text "context_id" <*> count "route_count" <*> count "intercept_count"),
      partsBinder "InterceptApplied"
        (applied <$> text "route_id" <*> text "intercept_id" <*> count "wrapped"),
      partsBinder "OutputsDropped"
        (dropped <$> text "route_id" <*> text "intercept_id" <*> count "count"),
      partsBinder "RouteWoven"
        (woven <$> text "route_id" <*> count "exception_handlers" <*> count "layers"),
      partsBinder "AssemblyFailed" (failed <$> text "route_id" <*> text "error"),
      partsBinder "AssemblyCompleted"
        (completed <$> text "context_id" <*> count "route_count")]

end Event

end RouteLoom
