import RouteLoom.Route.Basic

/-!
# The outline of a route

An outline shows one line for the route and one for every node in pre-order, each indented by two
blanks for every level of its depth. A top-level output has depth one.
-/

namespace RouteLoom

mutual

def Node.outline (depth : Nat) : Node → List (Nat × String)
  | ⟨kind, id, outputs⟩ => (depth, Node.text ⟨kind, id, []⟩) :: Forest.outline (depth + 1) outputs

def Forest.outline (depth : Nat) : Forest → List (Nat × String)
  | [] => []
  | n :: rest => n.outline depth ++ Forest.outline depth rest

end

def indented (depth : Nat) (text : String) : String :=
  String.ofList (List.replicate (2 * depth) ' ') ++ text ++ "\n"

namespace Route

def outline (r : Route) : List (Nat × String) :=
  (0, "route " ++ r.id) :: Forest.outline 1 r.outputs

def render (r : Route) : String :=
  String.join (r.outline.map fun (depth, text) => indented depth text)

end Route

end RouteLoom
