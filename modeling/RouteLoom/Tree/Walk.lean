import RouteLoom.Tree.Address

/-!
# Walks over a forest

A walk keeps a stack of the nodes that it has still to go into, and gives one node at a time. The
search for a proceed marker keeps a single address: it adds an index where it goes into a tree and
takes it off where it leaves the tree again.
-/

namespace RouteLoom

/-! ### With a stack -/

/-- The nodes to go into, the next one last. -/
structure Walk where
  stack : List Node

def Node.walk (n : Node) : Walk := ⟨[n]⟩

namespace Walk

/-- The next node, and the walk behind it. The node's outputs go onto the stack from the last to the
first, so the first of them comes next. -/
def next (w : Walk) : Option (Node × Walk) :=
  w.stack.getLast?.map fun n => (n, ⟨w.stack.dropLast ++ n.outputs.reverse⟩)

def size (w : Walk) : Nat := (w.stack.flatMap Node.preorder).length

theorem size_of_next {w rest : Walk} {n : Node} (taken : w.next = some (n, rest)) :
    rest.size < w.size := by
  obtain ⟨m, top, same⟩ := Option.map_eq_some_iff.mp taken
  obtain ⟨rfl, rfl⟩ := Prod.mk.inj same
  obtain ⟨below, hstack⟩ := List.getLast?_eq_some_iff.mp top
  have pushed : (m.outputs.reverse.flatMap Node.preorder).length =
      (m.outputs.flatMap Node.preorder).length :=
    ((List.reverse_perm m.outputs).flatMap_right _).length_eq
  rw [size, size, hstack, List.dropLast_concat, List.flatMap_append, List.flatMap_append,
    List.length_append, List.length_append, pushed, List.flatMap_singleton, Node.preorder_eq,
    Forest.preorder_eq_flatMap, List.length_cons]
  omega

def toList (w : Walk) : List Node :=
  match _taken : w.next with
  | none => []
  | some (n, rest) => n :: rest.toList
termination_by w.size
decreasing_by exact size_of_next _taken

end Walk

/-- The nodes of a forest as the walks over its trees give them, one walk after the other. -/
def Forest.walked (f : Forest) : List Node := f.flatMap fun n => n.walk.toList

/-! ### With one address -/

mutual

def Node.seek : Node → StateM Address Bool
  | ⟨kind, _, outputs⟩ => if kind = .proceed then return true else Forest.seek 0 outputs

/-- Whether there is a proceed marker in trees of which the first has the index `i`. If so, the
address is led on to the first marker, and if not, it is what it was. -/
def Forest.seek (i : Nat) : Forest → StateM Address Bool
  | [] => return false
  | n :: rest => do
    modify (·.child i)
    if ← n.seek then return true
    modify List.dropLast
    Forest.seek (i + 1) rest

end

def Forest.seekMarker (f : Forest) : Option Address :=
  match (Forest.seek 0 f).run [] with
  | (true, a) => some a
  | (false, _) => none

end RouteLoom
