import RouteLoom.Fault

/-!
# Routes

A route has an id and the forest of its top-level outputs. An unnamed route has the empty id.
-/

namespace RouteLoom

structure Route where
  id : String
  outputs : Forest
deriving DecidableEq, Repr

namespace Route

def addOutputs (r : Route) (more : Forest) : Route := { r with outputs := r.outputs ++ more }

def at? (r : Route) (a : Address) : Option Node := Forest.at? a r.outputs

/-- The route with another node in the place of the one at an address, if there is one. -/
def replaceAt (r : Route) (a : Address) (n : Node) : Option Route :=
  (Forest.update (fun _ => n) a r.outputs).map fun outputs => { r with outputs }

def appendAt (r : Route) (a : Address) (n : Node) : Except Fault Route :=
  match Forest.appendAt a [n] r.outputs with
  | some outputs => .ok { r with outputs }
  | none => .error (.invalidAddress r.id a)

end Route

end RouteLoom
