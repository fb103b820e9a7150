import RouteLoom.Route.Basic

/-!
# Ids for unnamed routes

An unnamed route is named after its place, counted from one, and underscores are added to that name
until no declared id equals it. The declared ids are finitely many, so one underscore more than
there are declared ids is never needed.
-/

namespace RouteLoom

/-- The first of `name`, `name_`, `name__`, and so on that is not taken; `spare` bounds the number of
underscores added. -/
def freeName (taken : List String) : (spare : Nat) → (name : String) → String
  | 0, name => name
  | spare + 1, name => if name ∈ taken then freeName taken spare (name ++ "_") else name

def declaredIds (routes : List Route) : List String := (routes.map Route.id).filter (· ≠ "")

/-- The id of a route that stands at the index `i`. -/
def assignedId (taken : List String) (r : Route) (i : Nat) : String :=
  if r.id = "" then freeName taken taken.length ("route" ++ toString (i + 1)) else r.id

def assignIds (routes : List Route) : List Route :=
  routes.zipIdx.map fun (r, i) => { r with id := assignedId (declaredIds routes) r i }

end RouteLoom
