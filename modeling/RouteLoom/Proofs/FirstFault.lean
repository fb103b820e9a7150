import Mathlib.Data.List.Basic

/-!
# Stopping at the first fault

Registries, requirements, interceptors and findings are all gone through in order up to the first
one that decides. `IsFirst` says which one that is without saying how it is looked for.
-/

namespace RouteLoom

variable {α β ε : Type} {passed : α → Prop} {x a : α} {l : List α}

/-- Of a list, `x` is the first that is not passed over. -/
def IsFirst (passed : α → Prop) (x : α) (l : List α) : Prop :=
  ∃ front back, l = front ++ x :: back ∧ ∀ y ∈ front, passed y

theorem IsFirst.mem (h : IsFirst passed x l) : x ∈ l := by
  obtain ⟨front, back, rfl, -⟩ := h
  simp

theorem isFirst_congr {skipped : α → Prop} (same : ∀ y ∈ l, (passed y ↔ skipped y)) :
    IsFirst passed x l ↔ IsFirst skipped x l := by
  refine exists_congr fun front => exists_congr fun back => and_congr_right ?_
  rintro rfl
  exact forall₂_congr fun y hy => same y (List.mem_append_left _ hy)

theorem isFirst_nil : ¬ IsFirst passed x [] := by
  rintro ⟨front, back, split, -⟩
  simp at split

theorem isFirst_cons : IsFirst passed x (a :: l) ↔ x = a ∨ passed a ∧ IsFirst passed x l := by
  constructor
  · rintro ⟨front, back, split, before⟩
    cases front with
    | nil => exact .inl (List.cons.inj split).1.symm
    | cons y front =>
      obtain ⟨rfl, rfl⟩ := List.cons.inj split
      exact .inr ⟨before a List.mem_cons_self,
        front, back, rfl, fun y hy => before y (List.mem_cons_of_mem a hy)⟩
  · rintro (rfl | ⟨ha, front, back, rfl, before⟩)
    · exact ⟨[], l, rfl, nofun⟩
    · exact ⟨a :: front, back, rfl, List.forall_mem_cons.mpr ⟨ha, before⟩⟩

theorem isFirst_append {l₁ l₂ : List α} : IsFirst passed x (l₁ ++ l₂) ↔
    IsFirst passed x l₁ ∨ (∀ y ∈ l₁, passed y) ∧ IsFirst passed x l₂ := by
  induction l₁ with
  | nil => simp [isFirst_nil]
  | cons b l₁ ih =>
    rw [List.cons_append, isFirst_cons, isFirst_cons, ih, List.forall_mem_cons]
    tauto

theorem isFirst_flatMap {g : α → List β} {passed : β → Prop} {x : β} :
    IsFirst passed x (l.flatMap g) ↔
      ∃ a, IsFirst (fun a => ∀ y ∈ g a, passed y) a l ∧ IsFirst passed x (g a) := by
  induction l with
  | nil => simp [isFirst_nil]
  | cons b l ih =>
    rw [List.flatMap_cons, isFirst_append, ih]
    simp only [isFirst_cons, or_and_right, exists_or, exists_eq_left, and_assoc, exists_and_left]

theorem isFirst_filter {p : α → Bool} (skipped : ∀ y ∈ l, p y = false → passed y)
    (fails : ¬ passed x) : IsFirst passed x (l.filter p) ↔ IsFirst passed x l := by
  induction l with
  | nil => rfl
  | cons b l ih =>
    obtain ⟨here, later⟩ := List.forall_mem_cons.mp skipped
    cases hb : p b with
    | true => rw [List.filter_cons_of_pos hb, isFirst_cons, isFirst_cons, ih later]
    | false =>
      have apart : x ≠ b := fun same => fails (same ▸ here hb)
      rw [List.filter_cons_of_neg (by simp [hb]), ih later, isFirst_cons]
      simp [apart, here hb]

theorem IsFirst.unique {y : α} (hx : IsFirst passed x l) (fails : ¬ passed x)
    (hy : IsFirst passed y l) (other_fails : ¬ passed y) : x = y := by
  induction l with
  | nil => exact absurd hx isFirst_nil
  | cons b l ih =>
    rcases isFirst_cons.mp hx with rfl | ⟨passes, later⟩
    · rcases isFirst_cons.mp hy with same | ⟨passes, -⟩
      · exact same.symm
      · exact absurd passes fails
    · rcases isFirst_cons.mp hy with rfl | ⟨-, other_later⟩
      · exact absurd passes other_fails
      · exact ih later other_later

theorem forall_or_exists_isFirst (passed : α → Prop) (l : List α) :
    (∀ y ∈ l, passed y) ∨ ∃ x, IsFirst passed x l ∧ ¬ passed x := by
  induction l with
  | nil => exact .inl nofun
  | cons a l ih =>
    by_cases ha : passed a
    · rcases ih with all | ⟨x, first, hx⟩
      · exact .inl (List.forall_mem_cons.mpr ⟨ha, all⟩)
      · exact .inr ⟨x, isFirst_cons.mpr (.inr ⟨ha, first⟩), hx⟩
    · exact .inr ⟨a, isFirst_cons.mpr (.inl rfl), ha⟩

theorem find?_eq_some_iff_isFirst {p : α → Bool} :
    l.find? p = some x ↔ IsFirst (fun y => p y = false) x l ∧ p x = true := by
  rw [List.find?_eq_some_iff_append, IsFirst]
  simp only [Bool.not_eq_true']
  exact and_comm

theorem find?_of_nodup [DecidableEq β] {key : α → β} (distinct : (l.map key).Nodup) (hx : x ∈ l) :
    l.find? (fun y => key y = key x) = some x := by
  obtain ⟨front, back, rfl⟩ := List.append_of_mem hx
  rw [List.map_append, List.map_cons] at distinct
  have apart := (List.pairwise_append.mp distinct).2.2
  rw [find?_eq_some_iff_isFirst]
  refine ⟨⟨front, back, rfl, fun y hy => decide_eq_false ?_⟩, decide_eq_true rfl⟩
  exact apart _ (List.mem_map_of_mem hy) _ List.mem_cons_self

/-! ### Chains of steps that can fail -/

theorem bind_eq_error_iff {step : Except ε α} {next : α → Except ε β} {f : ε} :
    (step >>= next) = .error f ↔
      step = .error f ∨ ∃ a, step = .ok a ∧ next a = .error f := by
  cases step with
  | error g => simp [bind, Except.bind]
  | ok a => simp [bind, Except.bind]

theorem bind_eq_ok_iff {step : Except ε α} {next : α → Except ε β} {b : β} :
    (step >>= next) = .ok b ↔ ∃ a, step = .ok a ∧ next a = .ok b := by
  cases step with
  | error g => simp [bind, Except.bind]
  | ok a => simp [bind, Except.bind]

theorem map_eq_ok_iff {step : Except ε α} {f : α → β} {b : β} :
    step.map f = .ok b ↔ ∃ a, step = .ok a ∧ f a = b := by
  cases step with
  | error g => simp [Except.map]
  | ok a => simp [Except.map]

theorem exists_ok_iff {step : Except ε α} : (∃ a, step = .ok a) ↔ ∀ f, step ≠ .error f := by
  cases step with
  | error g => simp
  | ok a => simp

/-! ### Chains of steps that work on a state -/

section

variable {σ : Type} {step : ExceptT ε (StateM σ) α} {s t : σ}

theorem run_bind_of_ok (done : step.run.run s = (.ok a, t)) (next : α → ExceptT ε (StateM σ) β) :
    (step >>= next).run.run s = (next a).run.run t := by
  rw [ExceptT.run_bind, StateT.run_bind, done]
  rfl

theorem run_bind_of_error {f : ε} (failed : step.run.run s = (.error f, t))
    (next : α → ExceptT ε (StateM σ) β) : (step >>= next).run.run s = (.error f, t) := by
  rw [ExceptT.run_bind, StateT.run_bind, failed]
  rfl

end

end RouteLoom
