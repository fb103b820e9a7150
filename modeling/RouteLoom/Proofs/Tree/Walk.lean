import RouteLoom.Tree.Walk
import RouteLoom.Proofs.FirstFault
import RouteLoom.Proofs.Tree.Count
import RouteLoom.Proofs.Tree.FirstMarker
import RouteLoom.Proofs.Tree.Located
import Mathlib.Data.Set.Card

/-!
# Every traversal meets the same nodes in the same order

The list of the nodes with their addresses tells what every traversal does. The walks with a stack
give its nodes, the count of markers is that of its markers, and both searches for the first marker,
the one that puts the address together on its way back and the one that keeps an address in hand,
end at the first marker that it has.
-/

namespace RouteLoom

variable {a : Address} {f : Forest}

/-! ### The walk -/

theorem Walk.toList_eq (w : Walk) : w.toList = w.stack.reverse.flatMap Node.preorder := by
  fun_induction Walk.toList w with
  | case1 w ends =>
    have empty : w.stack = [] := by simpa [Walk.next] using ends
    rw [empty]
    rfl
  | case2 w n rest taken ih =>
    obtain ⟨m, top, same⟩ := Option.map_eq_some_iff.mp taken
    obtain ⟨rfl, rfl⟩ := Prod.mk.inj same
    obtain ⟨below, hstack⟩ := List.getLast?_eq_some_iff.mp top
    rw [ih, hstack, List.dropLast_concat, List.reverse_append, List.reverse_reverse,
      List.reverse_concat, List.flatMap_append, List.flatMap_cons, ← Forest.preorder_eq_flatMap,
      Node.preorder_eq, List.cons_append]

theorem Node.toList_walk (n : Node) : n.walk.toList = n.preorder := by
  rw [Walk.toList_eq, Node.walk, List.reverse_singleton, List.flatMap_singleton]

theorem Forest.walked_eq (f : Forest) : Forest.walked f = Forest.preorder f := by
  rw [Forest.walked, Forest.preorder_eq_flatMap]
  simp only [Node.toList_walk]

/-! ### The searches -/

mutual

theorem Node.firstMarker_eq_find? (n : Node) :
    n.firstMarker = (n.located.find? fun e => e.2.isMarker).map Prod.fst := by
  cases hn : n.isMarker with
  | true =>
    rw [Node.firstMarker_of_isMarker hn, Node.located_eq, List.find?_cons_of_pos (by exact hn),
      Option.map_some]
  | false =>
    rw [Node.firstMarker_of_not_isMarker hn, Node.located_eq, List.find?_cons_of_neg (by simp [hn])]
    cases n with
    | mk kind id outputs => exact Forest.firstMarker_eq_find? outputs
termination_by sizeOf n

theorem Forest.firstMarker_eq_find? (f : Forest) :
    Forest.firstMarker f = ((Forest.located f).find? fun e => e.2.isMarker).map Prod.fst := by
  cases f with
  | nil => simp [Forest.located]
  | cons n rest =>
    have first := Node.firstMarker_eq_find? n
    have later := Forest.firstMarker_eq_find? rest
    have kept (g : Address → Address) :
        (fun e : Address × Node => e.2.isMarker) ∘ Prod.map g id = fun e => e.2.isMarker := rfl
    rw [Forest.located, List.find?_append, List.find?_map, List.find?_map, kept, kept]
    cases found : n.located.find? fun e => e.2.isMarker with
    | some e =>
      rw [found] at first
      rw [Forest.firstMarker_cons_of_some first]
      rfl
    | none =>
      rw [found] at first
      rw [Forest.firstMarker_cons_of_none first, later, Option.map_none, Option.none_or,
        Option.map_map, Option.map_map]
      rfl
termination_by sizeOf f

end

/-- The address in a forest that has `i` more trees in front. -/
def Address.shiftBy (i : Nat) : Address → Address
  | [] => []
  | j :: rest => (i + j) :: rest

theorem Address.shiftBy_zero : Address.shiftBy 0 = id := by
  funext a
  cases a with
  | nil => rfl
  | cons j rest => rw [shiftBy, Nat.zero_add, id]

theorem Address.shiftBy_shift (i : Nat) (a : Address) : a.shift.shiftBy i = a.shiftBy (i + 1) := by
  cases a with
  | nil => rfl
  | cons j rest => rw [shift, shiftBy, shiftBy, Nat.add_right_comm, Nat.add_assoc]

theorem Address.run_bind {α β : Type} {step : StateM Address α} {x : α} {a b : Address}
    (done : step.run a = (x, b)) (next : α → StateM Address β) :
    (step >>= next).run a = (next x).run b := by
  rw [StateT.run_bind, done]
  rfl

/-- The address in hand after a search that came to this result. -/
def Address.led (path : Address) (found : Option Address) : Bool × Address :=
  match found with
  | none => (false, path)
  | some a => (true, path ++ a)

mutual

theorem Node.run_seek (n : Node) (path : Address) :
    n.seek.run path = path.led n.firstMarker := by
  cases n with
  | mk kind id outputs =>
    rw [Node.seek, Node.firstMarker]
    split
    next => exact congrArg (Prod.mk true) (List.append_nil path).symm
    next => rw [Forest.run_seek outputs 0 path, Address.shiftBy_zero, Option.map_id_fun, id_eq]
termination_by sizeOf n

/-- What was added to the address on the way is taken off again where there is no marker. -/
theorem Forest.run_seek (f : Forest) (i : Nat) (path : Address) :
    (Forest.seek i f).run path = path.led ((Forest.firstMarker f).map (Address.shiftBy i)) := by
  cases f with
  | nil => rw [Forest.seek, Forest.firstMarker_nil]; rfl
  | cons n rest =>
    have first := Node.run_seek n (path.child i)
    have later := Forest.run_seek rest (i + 1) path
    rw [Forest.seek]
    have entered : (modify (·.child i) : StateM Address PUnit).run path = ((), path.child i) := rfl
    rw [Address.run_bind entered]
    cases hn : n.firstMarker with
    | some a =>
      rw [hn, Address.led] at first
      rw [Address.run_bind first, Forest.firstMarker_cons_of_some hn, Option.map_some, Address.led,
        Address.shiftBy, Nat.add_zero, List.append_cons]
      rfl
    | none =>
      rw [hn, Address.led] at first
      have left : (modify List.dropLast : StateM Address PUnit).run (path.child i) = ((), path) :=
        congrArg (Prod.mk ()) List.dropLast_concat
      have restored : (Forest.firstMarker (n :: rest)).map (Address.shiftBy i) =
          (Forest.firstMarker rest).map (Address.shiftBy (i + 1)) := by
        rw [Forest.firstMarker_cons_of_none hn, Option.map_map]
        congr 1
        funext a
        exact Address.shiftBy_shift i a
      rw [Address.run_bind first, if_neg Bool.false_ne_true, Address.run_bind left, later, restored]
termination_by sizeOf f

end

theorem Forest.seekMarker_eq (f : Forest) : Forest.seekMarker f = Forest.firstMarker f := by
  rw [Forest.seekMarker, Forest.run_seek, Address.shiftBy_zero, Option.map_id_fun, id]
  cases Forest.firstMarker f with
  | none => rfl
  | some a => rfl

/-! ### All of them together -/

namespace Forest

/-- The addresses that lead to a proceed marker. -/
def markers (f : Forest) : Set Address := {a | ∃ m, at? a f = some m ∧ m.isMarker = true}

theorem encard_markers (f : Forest) : (markers f).encard = markerCount f := by
  let listed := ((located f).filter fun e => e.2.isMarker).map Prod.fst
  have once : listed.Nodup :=
    (enumerates_located f).1.sublist (List.filter_sublist.map Prod.fst)
  have same : markers f = listed.toFinset := by
    ext a
    simp [markers, listed, mem_located_iff]
  have counted : listed.length = markerCount f := by
    rw [List.length_map, ← List.countP_eq_length_filter, markerCount, count, ← map_snd_located,
      List.countP_map]
    rfl
  rw [same, Set.encard_coe_eq_coe_finsetCard, List.toFinset_card_of_nodup once, counted]

/-- The search stops at the first marker of the list, and this has the least address. -/
theorem least_of_seekMarker (found : seekMarker f = some a) :
    ∃ m, IsFirst (fun e => e.2.isMarker = false) (a, m) (located f) ∧ m.isMarker = true ∧
      ∀ b ∈ markers f, a = b ∨ a.Before b := by
  rw [seekMarker_eq, firstMarker_eq_find?, Option.map_eq_some_iff] at found
  obtain ⟨⟨a, m⟩, found, rfl⟩ := found
  obtain ⟨first, marker⟩ := find?_eq_some_iff_isFirst.mp found
  refine ⟨m, first, marker, ?_⟩
  obtain ⟨front, back, split, unmarked⟩ := first
  rintro b ⟨n, there, another⟩
  have listed : (b, n) ∈ located f := (mem_located_iff f b n).mpr there
  have ascending := pairwise_located f
  rw [split] at listed ascending
  rcases List.mem_append.mp listed with before | here
  · have missed : n.isMarker = false := unmarked (b, n) before
    rw [missed] at another
    cases another
  · rcases List.mem_cons.mp here with same | behind
    · exact .inl (congrArg Prod.fst same).symm
    · have tail := (List.pairwise_append.mp ascending).2.1
      exact .inr ((List.pairwise_cons.mp tail).1 (b, n) behind)

/-- The walk over a tree gives its nodes in pre-order, each address once. The markers that the walks
meet are as many as the addresses that lead to one, and the search finds none exactly if there is
none. What it finds leads to the first marker that the walks meet, and no other address of a marker
is before it. The search and the count that weaving and validation use are these. -/
theorem traversals_agree (f : Forest) :
    (∀ n ∈ f, n.walk.toList = n.preorder ∧ n.walk.toList = n.located.map Prod.snd ∧
      Enumerates n.located (Node.at? · n)) ∧
    (walked f = (located f).map Prod.snd ∧ Enumerates (located f) (at? · f)) ∧
    ((walked f).countP Node.isMarker = markerCount f ∧
      (markers f).encard = (walked f).countP Node.isMarker) ∧
    (seekMarker f = firstMarker f ∧
      (seekMarker f = none ↔ (walked f).countP Node.isMarker = 0)) ∧
    ∀ a, seekMarker f = some a →
      ∃ m, at? a f = some m ∧ m.isMarker = true ∧
        IsFirst (fun e => e.2.isMarker = false) (a, m) (located f) ∧
        ∀ b ∈ markers f, a = b ∨ List.Lex (· < ·) a b := by
  have counted : (walked f).countP Node.isMarker = markerCount f := by
    rw [walked_eq, markerCount, count]
  refine ⟨fun n _ => ?_, ?_, ?_, ?_, ?_⟩
  · rw [Node.toList_walk]
    exact ⟨rfl, (Node.map_snd_located n).symm, n.enumerates_located⟩
  · rw [walked_eq, map_snd_located]
    exact ⟨rfl, enumerates_located f⟩
  · exact ⟨counted, by rw [counted, encard_markers]⟩
  · rw [counted, markerCount, count_eq_zero_iff, ← firstMarker_eq_none_iff, seekMarker_eq]
    exact ⟨rfl, Iff.rfl⟩
  · intro a found
    obtain ⟨m, first, marker, least⟩ := least_of_seekMarker found
    exact ⟨m, (mem_located_iff f a m).mp first.mem, marker, first, least⟩

/-- A marker below the first tree comes before the tree behind. -/
example :
    let f : Forest := [⟨.step "choice", none, [Node.step "log:a", Node.marker]⟩, Node.marker]
    seekMarker f = some [0, 1] ∧ markerCount f = 2 := by
  decide

end Forest

end RouteLoom
