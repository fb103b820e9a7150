import RouteLoom.Interception.Interceptor
import RouteLoom.Route.Basic
import RouteLoom.Weaving.Report

/-!
# Weaving

A weaver adds its exception clauses to a route, moves all clauses of the top level to the front, and
nests the interceptors' proxies around the other nodes, the first one innermost. If a proxy has no
marker for the wrapped nodes, the policy decides between a fault and dropping them. A fault stops
the nesting where it stands.
-/

namespace RouteLoom

/-- A finished layer, and the place in its marker at which the wrapped nodes begin. -/
structure Seam where
  layer : Layer
  offset : Nat
deriving DecidableEq, Repr

/-- The body with the wrapped nodes behind the outputs of its first proceed marker, the marker's
address, and the number of those outputs. -/
def Forest.embed (wrapped body : Forest) : Option (Forest × Address × Nat) := do
  let marker ← body.firstMarker
  let n ← Forest.at? marker body
  let filled ← Forest.appendAt marker wrapped body
  return (filled, marker, n.outputs.length)

/-- A proxy around the wrapped nodes, with its seam, unless the marker is missing and the policy
rejects that. -/
def Policy.wrap (p : Policy) (name : String) (body wrapped : Forest) : Option (Node × Seam) :=
  match Forest.embed wrapped body with
  | some (filled, marker, offset) =>
    some (Node.proxy name filled, ⟨⟨name, some marker, wrapped.length, 0⟩, offset⟩)
  | none =>
    match p with
    | .reject => none
    | .drop => some (Node.proxy name body, ⟨⟨name, none, wrapped.length, wrapped.length⟩, 0⟩)

structure Nest (ι : Type) where
  nodes : Forest
  seams : List Seam
  fault : Option Fault
  interceptors : List ι

structure Weaver where
  registry : Registry
  clauses : Forest
  options : Options

namespace Weaver

variable {ι : Type} [Interceptor ι]

def nest (w : Weaver) (route : String) : List ι → Forest → Nest ι
  | [], wrapped => ⟨wrapped, [], none, []⟩
  | i :: rest, wrapped =>
    match Interceptor.prepare w.registry i with
    | .error f => ⟨wrapped, [], some f, i :: rest⟩
    | .ok i =>
      match w.options.missingProceed.wrap (Interceptor.name i) (Interceptor.body i) wrapped with
      | none => ⟨wrapped, [], some (.missingProceed route (Interceptor.name i)), i :: rest⟩
      | some (proxy, seam) =>
        let outer := nest w route rest [proxy]
        { outer with seams := seam :: outer.seams, interceptors := i :: outer.interceptors }

end Weaver

/-- The addresses of the markers, outermost first, where the outermost proxy has the address
`proxy`. What lies within a proxy without a marker is unreachable. -/
def markerAddresses (proxy : Address) : List Seam → List Address
  | [] => []
  | s :: rest =>
    match s.layer.marker with
    | none => []
    | some relative =>
      let marker := proxy ++ relative
      marker :: markerAddresses (marker.child s.offset) rest

/-- The insertion points of a route with so many clauses in front; the seams go from the innermost
to the outermost. -/
def insertionPoints (clauses : Nat) (seams : List Seam) : InsertionPoints :=
  ⟨markerAddresses [clauses] seams.reverse⟩

structure Woven (ι : Type) where
  route : Route
  report : Report
  fault : Option Fault
  interceptors : List ι

namespace Weaver

variable {ι : Type} [Interceptor ι]

def run (w : Weaver) (route : Route) (interceptors : List ι) : Woven ι :=
  let (clauses, own) := (route.outputs ++ w.clauses).partition Node.isClause
  let nest := w.nest route.id interceptors own
  { route := { route with outputs := clauses ++ nest.nodes }
    report :=
      { route := route.id
        clauses := clauses.length
        layers := nest.seams.map Seam.layer
        points := insertionPoints clauses.length nest.seams }
    fault := nest.fault
    interceptors := nest.interceptors }

end Weaver

end RouteLoom
