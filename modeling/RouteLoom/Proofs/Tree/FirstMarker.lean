import RouteLoom.Proofs.Tree.Address

/-!
# The first proceed marker

The search meets a node before its outputs and a tree before the trees behind it. What it finds is a
marker, it finds one exactly if the forest has one at some depth, and a change that leaves the found
marker's kind alone is not noticed by it.
-/

namespace RouteLoom

variable {g : Node → Node} {a : Address} {n : Node} {f : Forest}

theorem Node.isMarker_iff : n.isMarker = true ↔ n.kind = .proceed := by
  rw [Node.isMarker]
  split <;> simp_all

theorem Node.firstMarker_of_isMarker (h : n.isMarker = true) : n.firstMarker = some [] := by
  cases n with
  | mk kind id outputs =>
    rw [Node.firstMarker, if_pos (Node.isMarker_iff.mp h)]

theorem Node.firstMarker_of_not_isMarker (h : n.isMarker = false) :
    n.firstMarker = Forest.firstMarker n.outputs := by
  cases n with
  | mk kind id outputs =>
    have other : kind ≠ .proceed := by
      rintro rfl
      simp [Node.isMarker] at h
    rw [Node.firstMarker, if_neg other]

namespace Forest

@[simp] theorem firstMarker_nil : firstMarker [] = none := by
  rw [firstMarker]

theorem firstMarker_cons_of_some (h : n.firstMarker = some a) (f : Forest) :
    firstMarker (n :: f) = some (0 :: a) := by
  rw [firstMarker, h]

theorem firstMarker_cons_of_none (h : n.firstMarker = none) (f : Forest) :
    firstMarker (n :: f) = (firstMarker f).map Address.shift := by
  rw [firstMarker, h]

end Forest

/-! ### What is found is a marker -/

mutual

theorem Node.at?_firstMarker (n : Node) {a : Address} (found : n.firstMarker = some a) :
    ∃ m, Node.at? a n = some m ∧ m.isMarker = true := by
  cases hn : n.isMarker with
  | true =>
    rw [Node.firstMarker_of_isMarker hn] at found
    cases found
    exact ⟨n, rfl, hn⟩
  | false =>
    rw [Node.firstMarker_of_not_isMarker hn] at found
    cases n with
    | mk kind id outputs =>
      obtain ⟨m, hm, marker⟩ := Forest.at?_firstMarker outputs found
      have ha : a ≠ [] := by
        rintro rfl
        cases hm
      exact ⟨m, by rw [Node.at?_of_ne_nil ha]; exact hm, marker⟩
termination_by sizeOf n

theorem Forest.at?_firstMarker (f : Forest) {a : Address} (found : Forest.firstMarker f = some a) :
    ∃ m, Forest.at? a f = some m ∧ m.isMarker = true := by
  cases f with
  | nil => simp at found
  | cons n rest =>
    cases hn : n.firstMarker with
    | some b =>
      rw [Forest.firstMarker_cons_of_some hn] at found
      cases found
      rw [Forest.at?_zero_cons]
      exact Node.at?_firstMarker n hn
    | none =>
      rw [Forest.firstMarker_cons_of_none hn] at found
      obtain ⟨b, hb, rfl⟩ := Option.map_eq_some_iff.mp found
      obtain ⟨m, hm, marker⟩ := Forest.at?_firstMarker rest hb
      exact ⟨m, by rw [Forest.at?_shift]; exact hm, marker⟩
termination_by sizeOf f

end

theorem Forest.ne_nil_of_firstMarker (found : Forest.firstMarker f = some a) : a ≠ [] := by
  rintro rfl
  obtain ⟨m, hm, -⟩ := Forest.at?_firstMarker f found
  cases hm

theorem Node.firstMarker_eq_nil_iff : n.firstMarker = some [] ↔ n.isMarker = true := by
  constructor
  · intro found
    cases marker : n.isMarker with
    | true => rfl
    | false =>
      rw [Node.firstMarker_of_not_isMarker marker] at found
      exact absurd rfl (Forest.ne_nil_of_firstMarker found)
  · exact Node.firstMarker_of_isMarker

/-! ### There is one exactly if one is found -/

mutual

theorem Node.firstMarker_eq_none_iff (n : Node) :
    n.firstMarker = none ↔ n.preorder.any Node.isMarker = false := by
  cases n with
  | mk kind id outputs =>
    rw [Node.preorder, List.any_cons, Bool.or_eq_false_iff, ← Forest.any]
    cases hn : Node.isMarker ⟨kind, id, outputs⟩ with
    | true => simp [Node.firstMarker_of_isMarker hn]
    | false =>
      rw [Node.firstMarker_of_not_isMarker hn, Forest.firstMarker_eq_none_iff outputs]
      simp
termination_by sizeOf n

theorem Forest.firstMarker_eq_none_iff (f : Forest) :
    Forest.firstMarker f = none ↔ Forest.any Node.isMarker f = false := by
  cases f with
  | nil => simp [Forest.any, Forest.preorder]
  | cons n rest =>
    have tail := Forest.firstMarker_eq_none_iff rest
    rw [Forest.any, Forest.preorder, List.any_append, Bool.or_eq_false_iff,
      ← Node.firstMarker_eq_none_iff n, ← Forest.any, ← tail]
    cases hn : n.firstMarker with
    | some b => simp [Forest.firstMarker_cons_of_some hn]
    | none => simp [Forest.firstMarker_cons_of_none hn]
termination_by sizeOf f

end

theorem Forest.exists_firstMarker_of_any (h : Forest.any Node.isMarker f = true) :
    ∃ a, Forest.firstMarker f = some a := by
  apply Option.ne_none_iff_exists'.mp
  intro none
  have unmarked : Forest.any Node.isMarker f = false := (Forest.firstMarker_eq_none_iff f).mp none
  rw [unmarked] at h
  cases h

/-! ### A change on the way to the first marker

The trees in front of it and the nodes above it are met first and stay what they are. So it is enough
that the search in the changed node still ends where it did. -/

mutual

theorem Node.firstMarker_update_append {below : Address}
    (keeps : ∀ m, m.firstMarker = some below → (g m).firstMarker = some below) (n : Node)
    {a : Address} {n' : Node} (found : n.firstMarker = some (a ++ below))
    (hn : Node.update g a n = some n') : n'.firstMarker = some (a ++ below) := by
  cases a with
  | nil =>
    cases hn
    exact keeps n found
  | cons i rest =>
    have other : n.isMarker = false := by
      cases marker : n.isMarker with
      | false => rfl
      | true =>
        rw [Node.firstMarker_of_isMarker marker] at found
        cases found
    rw [Node.firstMarker_of_not_isMarker other] at found
    cases n with
    | mk kind id outputs =>
      rw [Node.update_cons] at hn
      obtain ⟨f', hf', rfl⟩ := Option.map_eq_some_iff.mp hn
      rw [Node.firstMarker_of_not_isMarker (by exact other)]
      exact Forest.firstMarker_update_append keeps outputs found hf'
termination_by sizeOf n

theorem Forest.firstMarker_update_append {below : Address}
    (keeps : ∀ m, m.firstMarker = some below → (g m).firstMarker = some below) (f : Forest)
    {a : Address} {f' : Forest} (found : Forest.firstMarker f = some (a ++ below))
    (hf : Forest.update g a f = some f') : Forest.firstMarker f' = some (a ++ below) := by
  cases a with
  | nil => cases hf
  | cons i rest =>
    cases f with
    | nil => simp at found
    | cons n trees =>
      cases hn : n.firstMarker with
      | some b =>
        rw [Forest.firstMarker_cons_of_some hn] at found
        cases found
        rw [Forest.update_zero_cons] at hf
        obtain ⟨n', hn', rfl⟩ := Option.map_eq_some_iff.mp hf
        exact Forest.firstMarker_cons_of_some (Node.firstMarker_update_append keeps n hn hn') trees
      | none =>
        rw [Forest.firstMarker_cons_of_none hn] at found
        obtain ⟨b, hb, shifted⟩ := Option.map_eq_some_iff.mp found
        cases b with
        | nil => cases shifted
        | cons j more =>
          cases shifted
          rw [Forest.update_succ_cons] at hf
          obtain ⟨trees', htrees', rfl⟩ := Option.map_eq_some_iff.mp hf
          have later : Forest.firstMarker trees' = some (j :: rest ++ below) :=
            Forest.firstMarker_update_append keeps trees hb htrees'
          rw [Forest.firstMarker_cons_of_none hn, later]
          rfl
termination_by sizeOf f

end

/-- A change of the marker itself that leaves its kind alone is not noticed, whatever it puts below
the marker. -/
theorem Forest.firstMarker_update (keeps : ∀ m, (g m).kind = m.kind) (f : Forest) {a : Address}
    {f' : Forest} (found : Forest.firstMarker f = some a) (hf : Forest.update g a f = some f') :
    Forest.firstMarker f' = some a := by
  have still (m : Node) (hm : m.firstMarker = some []) : (g m).firstMarker = some [] := by
    rw [Node.firstMarker_eq_nil_iff, Node.isMarker_iff] at hm ⊢
    rw [keeps, hm]
  rw [← List.append_nil a] at found ⊢
  exact Forest.firstMarker_update_append still f found hf

end RouteLoom
