import RouteLoom.Proofs.Interception.Preparation
import RouteLoom.Proofs.Weaving.InsertionPoints

/-!
# One weave after another

To weave a woven route again, with no clauses to add, is to go on with the first weave: its tower is
what the second one finds behind the clauses, and grows on. What one weave reports is what the two
report, except that the insertion points of the first have moved: its proxies now stand where the
innermost layer of the second wraps its nodes, unless they are lost there.
-/

namespace RouteLoom

open Interceptor

/-! ### The walk over two towers -/

/-- The address with another one in the place of its first index. -/
def Address.rebase (root : Address) : Address → Address
  | [] => []
  | _ :: rest => root ++ rest

section Walk

variable {outer : List Seam}

/-- Where the nodes begin that the innermost of these layers wraps, if all of them have markers. -/
def innermost (root : Address) : List Seam → Address
  | [] => root
  | s :: rest => innermost ((root ++ s.layer.marker.getD []).child s.offset) rest

theorem innermost_concat (root : Address) (outer : List Seam) (s : Seam) :
    innermost root (outer ++ [s]) =
      (innermost root outer ++ s.layer.marker.getD []).child s.offset := by
  induction outer generalizing root with
  | nil => rfl
  | cons t rest ih => exact ih _

theorem markerAddresses_append_of_marked (marked : ∀ s ∈ outer, s.layer.marker ≠ none)
    (root : Address) (inner : List Seam) :
    markerAddresses root (outer ++ inner) =
      markerAddresses root outer ++ markerAddresses (innermost root outer) inner := by
  induction outer generalizing root with
  | nil => rfl
  | cons s rest ih =>
    obtain ⟨relative, hs⟩ := Option.ne_none_iff_exists'.mp (marked s List.mem_cons_self)
    have others : ∀ t ∈ rest, t.layer.marker ≠ none := fun t ht =>
      marked t (List.mem_cons_of_mem s ht)
    rw [List.cons_append, markerAddresses, markerAddresses, innermost, hs]
    exact congrArg _ (ih others _)

theorem markerAddresses_append_of_unmarked {s : Seam} (hs : s ∈ outer)
    (unmarked : s.layer.marker = none) (root : Address) (inner : List Seam) :
    markerAddresses root (outer ++ inner) = markerAddresses root outer := by
  induction outer generalizing root with
  | nil => cases hs
  | cons t rest ih =>
    rw [List.cons_append, markerAddresses, markerAddresses]
    cases ht : t.layer.marker with
    | none => rfl
    | some relative =>
      have deeper : s ∈ rest := by
        rcases List.mem_cons.mp hs with rfl | deeper
        · rw [unmarked] at ht
          cases ht
        · exact deeper
      exact congrArg _ (ih deeper _)

theorem markerAddresses_prepend (root a : Address) (ss : List Seam) :
    markerAddresses (root ++ a) ss = (markerAddresses a ss).map (root ++ ·) := by
  induction ss generalizing a with
  | nil => rfl
  | cons s rest ih =>
    rw [markerAddresses, markerAddresses]
    cases s.layer.marker with
    | none => rfl
    | some relative =>
      dsimp only
      rw [List.map_cons, ← ih, Address.child, Address.child, List.append_assoc, List.append_assoc,
        List.append_assoc]

theorem map_rebase_markerAddresses (root : Address) (k : Nat) (ss : List Seam) :
    (markerAddresses [k] ss).map (Address.rebase root) = markerAddresses root ss := by
  have here : markerAddresses [k] ss = (markerAddresses [] ss).map ([k] ++ ·) :=
    markerAddresses_prepend [k] [] ss
  have there : markerAddresses root ss = (markerAddresses [] ss).map (root ++ ·) := by
    rw [← markerAddresses_prepend, List.append_nil]
  rw [here, there, List.map_map]
  rfl

end Walk

/-! ### The points of two towers -/

section Points

variable {ι : Type} [Interceptor ι] (k : Nat) (own : Forest) (ps qs : List ι)

/-- The insertion points of a tower behind `k` clauses, those of the innermost layer first. -/
def towerPoints : List Address := (markerAddresses [k] (towerSeams own ps).reverse).reverse

theorem towerPoints_append_of_unmarked
    (unmarked : ∃ s ∈ towerSeams (tower own ps) qs, s.layer.marker = none) :
    towerPoints k own (ps ++ qs) = towerPoints k (tower own ps) qs := by
  obtain ⟨s, hs, none⟩ := unmarked
  rw [towerPoints, towerSeams_append, List.reverse_append,
    markerAddresses_append_of_unmarked (List.mem_reverse.mpr hs) none, towerPoints]

/-- The points of the lower tower move to where the innermost layer of the upper one, that of `q`,
holds the nodes it wraps. -/
theorem towerPoints_append_of_marked (q : ι)
    (marked : ∀ s ∈ towerSeams (tower own ps) (q :: qs), s.layer.marker ≠ none) :
    ∃ relative marker bottom, (body q).firstMarker = some relative ∧
      Forest.at? relative (body q) = some marker ∧
      (towerPoints k (tower own ps) (q :: qs))[0]? = some bottom ∧
      towerPoints k own (ps ++ q :: qs) =
        (towerPoints k own ps).map (Address.rebase (bottom.child marker.outputs.length)) ++
          towerPoints k (tower own ps) (q :: qs) := by
  have upper : (towerSeams (tower own ps) (q :: qs)).reverse =
      (towerSeams [around q (tower own ps)] qs).reverse ++ [seam q (tower own ps)] := by
    rw [towerSeams, List.reverse_cons]
  have all : ∀ s ∈ (towerSeams (tower own ps) (q :: qs)).reverse, s.layer.marker ≠ none :=
    fun s hs => marked s (List.mem_reverse.mp hs)
  have others : ∀ s ∈ (towerSeams [around q (tower own ps)] qs).reverse, s.layer.marker ≠ none :=
    fun s hs => all s (upper ▸ List.mem_append_left _ hs)
  have found := marked _ List.mem_cons_self
  rw [marker_seam] at found
  obtain ⟨relative, found⟩ := Option.ne_none_iff_exists'.mp found
  obtain ⟨marker, filled, e⟩ := Forest.exists_embeds (tower own ps) found
  refine ⟨relative, marker,
    innermost [k] (towerSeams [around q (tower own ps)] qs).reverse ++ relative,
    found, e.declared, ?_, ?_⟩
  · rw [towerPoints, upper, markerAddresses_append_of_marked others, markerAddresses, marker_seam,
      found]
    simp [markerAddresses]
  · rw [towerPoints, towerSeams_append, List.reverse_append,
      markerAddresses_append_of_marked all, List.reverse_append, towerPoints, towerPoints,
      List.map_reverse, map_rebase_markerAddresses]
    rw [upper, innermost_concat, marker_seam, found, seam_of_embeds e]
    rfl

end Points

/-! ### Two weaves -/

variable {ι : Type} [Interceptor ι]

/-- The weave of a route, the weave of what that left, and the weave of both lists at once. -/
structure Composes (first second whole : Woven ι) : Prop where
  route : whole.route = second.route
  fault : whole.fault = second.fault
  interceptors : whole.interceptors = first.interceptors ++ second.interceptors
  clauses : whole.report.clauses = first.report.clauses
  layers : whole.report.layers = first.report.layers ++ second.report.layers
  untouched : second.report.layers = [] →
    whole.report.points.bottomUp = first.report.points.bottomUp
  hidden : (∃ l ∈ second.report.layers, l.marker = none) →
    whole.report.points.bottomUp = second.report.points.bottomUp
  /-- The innermost interceptor `p` of the second weave declares `marker` with outputs of its own,
  and `bottom` is where that marker stands. -/
  rebased : second.report.layers ≠ [] → (∀ l ∈ second.report.layers, l.marker ≠ none) →
    ∃ p relative marker bottom, second.applied[0]? = some p ∧
      (body p).firstMarker = some relative ∧ Forest.at? relative (body p) = some marker ∧
      second.report.points.bottomUp[0]? = some bottom ∧
      whole.report.points.bottomUp =
        first.report.points.bottomUp.map (Address.rebase (bottom.child marker.outputs.length)) ++
          second.report.points.bottomUp

namespace Weaver

/-- Weaves a woven route, which has its clauses already. -/
def again (w : Weaver) (woven : Woven ι) (is : List ι) : Woven ι :=
  Weaver.run { w with clauses := [] } woven.route is

/-! ### Parts of a weave -/

section Parts

variable (w : Weaver) (r : Route) (is : List ι)

theorem route_run :
    (w.run r is).route = ⟨r.id, w.front r ++ tower (w.own r) (w.run r is).applied⟩ := by
  rw [applied_run, run_eq, build]

theorem fault_run : (w.run r is).fault = (w.acceptance r.id is).fault := by
  rw [run_eq, build]

theorem interceptors_run :
    (w.run r is).interceptors = (w.run r is).applied ++ (w.acceptance r.id is).behind := by
  rw [applied_run, run_eq, build]

theorem points_run :
    (w.run r is).report.points.bottomUp =
      towerPoints (w.front r).length (w.own r) (w.run r is).applied :=
  bottomUp_run w r is

end Parts

/-! ### Going on -/

section Again

variable (w : Weaver) (r : Route) (first second : List ι)

/-- The second weave is that of a route with the clauses in front and the first tower behind them. -/
theorem again_eq :
    w.again (w.run r first) second =
      { route := ⟨r.id, w.front r ++
          tower (tower (w.own r) (w.run r first).applied) (w.acceptance r.id second).applied⟩
        report :=
          { route := r.id
            clauses := (w.front r).length
            layers := (towerSeams (tower (w.own r) (w.run r first).applied)
              (w.acceptance r.id second).applied).map Seam.layer
            points := insertionPoints (w.front r).length
              (towerSeams (tower (w.own r) (w.run r first).applied)
                (w.acceptance r.id second).applied) }
        fault := (w.acceptance r.id second).fault
        interceptors := (w.acceptance r.id second).applied ++ (w.acceptance r.id second).behind } := by
  obtain ⟨clauses, others⟩ := w.filter_isClause_run r first
  have id : (w.run r first).route.id = r.id := by rw [route_run]
  rw [again, run_eq, build, acceptance_with_clauses, front, own, List.append_nil, clauses, others,
    id]

@[simp] theorem applied_again :
    (w.again (w.run r first) second).applied = (w.acceptance r.id second).applied := by
  rw [Woven.applied, again_eq]
  simp

end Again

variable {w : Weaver} {r : Route} {first : List ι}

theorem acceptance_append_of_succeeds (succeeds : (w.run r first).fault = none)
    (second : List ι) :
    w.acceptance r.id (first ++ second) =
      { w.acceptance r.id second with
        applied := (w.run r first).applied ++ (w.acceptance r.id second).applied } ∧
    (w.acceptance r.id first).behind = [] := by
  obtain ⟨accepted, behind⟩ := accepted_of_succeeds succeeds
  exact ⟨acceptance_append accepted second, behind⟩

theorem composes_of_succeeds (succeeds : (w.run r first).fault = none) (second : List ι) :
    Composes (w.run r first) (w.again (w.run r first) second) (w.run r (first ++ second)) := by
  obtain ⟨together, finished⟩ := acceptance_append_of_succeeds succeeds second
  have applied : (w.run r (first ++ second)).applied =
      (w.run r first).applied ++ (w.acceptance r.id second).applied := by
    rw [applied_run, together]
  have layers : (w.again (w.run r first) second).report.layers =
      (towerSeams (tower (w.own r) (w.run r first).applied)
        (w.acceptance r.id second).applied).map Seam.layer := by
    rw [again_eq]
  have points : (w.again (w.run r first) second).report.points.bottomUp =
      towerPoints (w.front r).length (tower (w.own r) (w.run r first).applied)
        (w.acceptance r.id second).applied := by
    rw [again_eq]
    rfl
  exact {
    route := by rw [route_run, again_eq, applied, tower_append]
    fault := by rw [fault_run, again_eq, together]
    interceptors := by
      rw [interceptors_run, interceptors_run, again_eq, applied, finished, together,
        List.append_nil, List.append_assoc]
    clauses := by rw [clauses_run, clauses_run]
    layers := by rw [layers_run, layers_run, layers, applied, towerSeams_append, List.map_append]
    untouched := fun none => by
      rw [layers, List.map_eq_nil_iff] at none
      have no_more : (w.acceptance r.id second).applied = [] := by
        rw [← List.length_eq_zero_iff, ← length_towerSeams, none, List.length_nil]
      rw [points_run, applied, no_more, List.append_nil, points_run]
    hidden := by
      rintro ⟨l, hl, none⟩
      rw [layers] at hl
      obtain ⟨s, hs, rfl⟩ := List.mem_map.mp hl
      rw [points, points_run, applied]
      exact towerPoints_append_of_unmarked _ _ _ _ ⟨s, hs, none⟩
    rebased := by
      intro some_more marked
      rw [layers] at some_more marked
      rw [applied_again, points, points_run, points_run, applied]
      cases later : (w.acceptance r.id second).applied with
      | nil =>
        rw [later] at some_more
        exact absurd rfl some_more
      | cons q qs =>
        rw [later] at marked
        obtain ⟨relative, marker, bottom, facts⟩ :=
          towerPoints_append_of_marked (w.front r).length (w.own r) (w.run r first).applied qs q
            fun s hs => marked _ (List.mem_map_of_mem hs)
        exact ⟨q, relative, marker, bottom, rfl, facts⟩ }

/-- Interceptors that a successful weave has prepared are woven as they were before it. -/
theorem again_interceptors {first : List Interception} (succeeds : (w.run r first).fault = none) :
    w.again (w.run r first) (w.run r first).interceptors = w.again (w.run r first) first := by
  obtain ⟨alone, finished⟩ := acceptance_append_of_succeeds succeeds []
  have prepared : List.Forall₂ (fun i p => w.accept r.id i = .ok p)
      (w.run r first).applied (w.run r first).applied := by
    rw [List.forall₂_same]
    intro p hp
    obtain ⟨k, hk⟩ := List.getElem?_of_mem hp
    obtain ⟨i, -, accepted⟩ := accepted_of_applied hk
    obtain ⟨hi, given⟩ := accept_eq_ok_iff.mp accepted
    exact accept_eq_ok_iff.mpr ⟨Interception.prepare_of_prepare hi, given⟩
  have same := acceptance_append prepared []
  rw [List.append_nil] at alone same
  rw [interceptors_run, finished, List.append_nil, again_eq, again_eq, same, alone]

/-- Two weaves, one after the other, are one weave of both lists, also where the second one uses the
interceptors of the first as that left them. -/
theorem weave_append (w : Weaver) (r : Route) (first : List Interception)
    (succeeds : (w.run r first).fault = none) :
    (∀ second, Composes (w.run r first) (w.again (w.run r first) second)
      (w.run r (first ++ second))) ∧
    Composes (w.run r first) (w.again (w.run r first) (w.run r first).interceptors)
      (w.run r (first ++ first)) := by
  refine ⟨composes_of_succeeds succeeds, ?_⟩
  rw [again_interceptors succeeds]
  exact composes_of_succeeds succeeds first

/-- A route is woven with an intercept whose bean is looked up, and then with one whose marker was
declared with an output, behind which the point of the first then lies. The first once more puts its
point into its own marker. -/
theorem weave_append_audit :
    let w : Weaver := ⟨⟨.ofList [("logger", "Logger")], []⟩,
      [⟨.onException ["IoError"] true, none, []⟩], .standard⟩
    let r : Route := ⟨"orders", [Node.step "direct:in", Node.step "direct:out"]⟩
    let audit : Interception := .declared
      ⟨"audit", [⟨"log", some "logger", none⟩], [Node.step "bean:${log}", Node.marker], .empty⟩
    let seed : Interception :=
      .declared ⟨"seed", [], [⟨.proceed, none, [Node.step "log:seed"]⟩], .empty⟩
    let first := w.run r [audit]
    let second := w.again first [seed]
    let whole := w.run r [audit, seed]
    let doubled := w.run r [audit, audit]
    first.fault = none ∧
      (Composes first second whole ∧ whole.fault = none ∧
        whole.report.layers = [⟨"audit", some [1], 2, 0⟩, ⟨"seed", some [0], 1, 0⟩] ∧
        first.report.points.bottomUp = [[1, 1]] ∧ second.report.points.bottomUp = [[1, 0]] ∧
        whole.report.points.bottomUp = [[1, 0, 1, 1], [1, 0]]) ∧
      Composes first (w.again first first.interceptors) doubled ∧
        doubled.report.points.bottomUp = [[1, 1, 0, 1], [1, 1]] := by
  intro w r audit seed first second whole doubled
  have succeeds : first.fault = none := by decide
  obtain ⟨composes, again⟩ := weave_append w r [audit] succeeds
  refine ⟨succeeds, ⟨composes [seed], ?_⟩, again, by decide⟩
  decide

end Weaver

end RouteLoom
