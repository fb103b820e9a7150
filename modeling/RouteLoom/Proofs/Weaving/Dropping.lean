import RouteLoom.Proofs.Weaving.Composition

/-!
# Behind a layer that drops

A proxy without a marker takes nothing in, so a woven route shows nothing of what lies below such a
layer. It is the route that the interceptors from that layer on make of the clauses alone, and it
has the same insertion points, since these depend on the bodies and never on what is wrapped.
-/

namespace RouteLoom

variable {ι : Type} [Interceptor ι]

open Interceptor

/-! ### Towers -/

section Tower

variable {p : ι}

/-- A tower shows nothing of what lies below a proxy without a marker. -/
theorem tower_append_of_unmarked (unmarked : (body p).firstMarker = none) (own : Forest)
    (before after : List ι) : tower own (before ++ p :: after) = tower [proxy p] after := by
  rw [tower_append, tower_cons, around_of_none unmarked]

theorem offset_seam (i : ι) (wrapped other : Forest) :
    (seam i wrapped).offset = (seam i other).offset := by
  cases found : (body i).firstMarker with
  | none => rw [seam_of_none found, seam_of_none found]
  | some a =>
    obtain ⟨marker, filled, e⟩ := Forest.exists_embeds wrapped found
    obtain ⟨marker', filled', e'⟩ := Forest.exists_embeds other found
    have same : marker = marker' := Option.some.inj (e.declared.symm.trans e'.declared)
    rw [seam_of_embeds e, seam_of_embeds e', same]

theorem markerAddresses_towerSeams (root : Address) (own other : Forest) (ps : List ι) :
    markerAddresses root (towerSeams own ps).reverse =
      markerAddresses root (towerSeams other ps).reverse := by
  -- The outermost marker comes first, so the tower is taken apart at its last proxy.
  induction ps using List.reverseRecOn generalizing root with
  | nil => rfl
  | append_singleton ps p ih =>
    rw [towerSeams_concat, towerSeams_concat, List.reverse_concat, List.reverse_concat,
      markerAddresses, markerAddresses, marker_seam, marker_seam, offset_seam p _ (tower other ps)]
    cases (body p).firstMarker with
    | none => rfl
    | some relative => exact congrArg _ (ih _)

/-- The insertion points of a tower do not depend on what it is built around. -/
theorem towerPoints_congr (k : Nat) (own other : Forest) (ps : List ι) :
    towerPoints k own ps = towerPoints k other ps := by
  rw [towerPoints, markerAddresses_towerSeams _ own other, towerPoints]

theorem towerPoints_append_of_unmarked_body (unmarked : (body p).firstMarker = none) (k : Nat)
    (own other : Forest) (before after : List ι) :
    towerPoints k own (before ++ p :: after) = towerPoints k other (p :: after) := by
  have dropping : ∃ s ∈ towerSeams (tower own before) (p :: after), s.layer.marker = none := by
    refine ⟨_, List.mem_cons_self, ?_⟩
    rw [marker_seam, unmarked]
  rw [towerPoints_append_of_unmarked k own before _ dropping, towerPoints_congr k _ other]

end Tower

/-! ### Weaves -/

namespace Weaver

variable {w : Weaver} {r : Route} {is : List ι} {k : Nat}

theorem acceptance_drop {route : String} (within : k ≤ (w.acceptance route is).applied.length) :
    w.acceptance route (is.drop k) =
      { w.acceptance route is with applied := (w.acceptance route is).applied.drop k } := by
  induction is generalizing k with
  | nil =>
    cases Nat.le_zero.mp within
    rfl
  | cons i rest ih =>
    cases k with
    | zero => rfl
    | succ k =>
      cases accepted : w.accept route i with
      | error refused =>
        rw [acceptance_cons_error accepted] at within
        cases within
      | ok p =>
        rw [acceptance_cons_ok accepted] at within ⊢
        exact ih (Nat.le_of_succ_le_succ within)

theorem front_filter_isClause (w : Weaver) (r : Route) :
    w.front { r with outputs := r.outputs.filter Node.isClause } = w.front r := by
  simp [front, List.filter_append]

/-- Behind a layer without a marker a woven route and its insertion points are those that the
interceptors from this layer on, with the same ending, make of the route's clauses alone. All clauses
are kept. So of several such layers the last one tells all that is left. -/
theorem run_drop_of_unmarked (w : Weaver) (r : Route) (is : List ι) {k : Nat} {l : Layer}
    (hl : (w.run r is).report.layers[k]? = some l) (unmarked : l.marker = none) :
    let whole := w.run r is
    let alone := w.run { r with outputs := r.outputs.filter Node.isClause } (is.drop k)
    alone.fault = whole.fault ∧ alone.route = whole.route ∧
      alone.report.points.bottomUp = whole.report.points.bottomUp ∧
      whole.route.outputs.filter Node.isClause = (r.outputs ++ w.clauses).filter Node.isClause ∧
      whole.report.clauses = ((r.outputs ++ w.clauses).filter Node.isClause).length := by
  intro whole alone
  obtain ⟨p, hp, rfl⟩ := w.exists_applied r is hl
  rw [marker_seam] at unmarked
  obtain ⟨within, here⟩ := List.getElem?_eq_some_iff.mp hp
  have later : w.acceptance r.id (is.drop k) =
      { w.acceptance r.id is with applied := whole.applied.drop k } := by
    rw [applied_run] at within
    rw [acceptance_drop within.le, ← applied_run]
  obtain ⟨before, after, split, applied⟩ :
      ∃ before after, whole.applied = before ++ p :: after ∧ alone.applied = p :: after := by
    have behind : whole.applied.drop k = p :: whole.applied.drop (k + 1) := by
      rw [List.drop_eq_getElem_cons within, here]
    refine ⟨whole.applied.take k, whole.applied.drop (k + 1), ?_, ?_⟩
    · rw [← behind, List.take_append_drop]
    · rw [← behind, applied_run, later]
  have front := w.front_filter_isClause r
  refine ⟨?_, ?_, ?_, (w.filter_isClause_run r is).1, w.clauses_run r is⟩
  · rw [fault_run, fault_run, later]
  · rw [route_run, route_run, applied, split, front, tower_append_of_unmarked unmarked, tower_cons,
      around_of_none unmarked]
  · rw [points_run, points_run, applied, split, front]
    exact (towerPoints_append_of_unmarked_body unmarked _ _ _ _ _).symm

/-- The second and the fourth of five layers drop what they wrap. What is left are the fourth and the
fifth, behind the route's clause and the merged one. -/
theorem run_drop_of_unmarked_twice :
    let io : Node := ⟨.onException ["IoError"] true, none, []⟩
    let timeout : Node := ⟨.onException ["Timeout"] false, some "t", [Node.step "log:late"]⟩
    let audit (id : String) : Interception :=
      .declared ⟨id, [], [Node.step "log:in", Node.marker], .empty⟩
    let mute (id : String) : Interception := .declared ⟨id, [], [Node.step "log:mute"], .empty⟩
    let w : Weaver := ⟨⟨.empty, []⟩, [io], .lenient⟩
    let r : Route := ⟨"orders", [Node.step "direct:in", timeout, Node.step "direct:out"]⟩
    let is : List Interception := [audit "a", mute "b", audit "c", mute "d", audit "e"]
    let whole := w.run r is
    let alone := w.run ⟨"orders", [timeout]⟩ [mute "d", audit "e"]
    whole.fault = none ∧ whole.report.layers[3]? = some ⟨"d", none, 1, 1⟩ ∧
      alone.fault = whole.fault ∧ alone.route = whole.route ∧
      alone.report.points.bottomUp = whole.report.points.bottomUp ∧
      whole.route.outputs.filter Node.isClause = [timeout, io] ∧ whole.report.clauses = 2 := by
  intro io timeout audit mute w r is whole alone
  have dropping : whole.report.layers[3]? = some ⟨"d", none, 1, 1⟩ := by decide
  exact ⟨by decide, dropping, run_drop_of_unmarked w r is dropping rfl⟩

end Weaver

end RouteLoom
