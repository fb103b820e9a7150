import RouteLoom.Proofs.Weaving.Composition

/-!
# Clauses and interception keep apart

Clauses are parted from a route before the first proxy is made, and what is accepted and wrapped
from then on is told by the other nodes alone.
-/

namespace RouteLoom

variable {ι : Type} [Interceptor ι]

/-- The routes have one id and, apart from exception clauses, the same outputs in the same order. -/
structure Route.Alike (r s : Route) : Prop where
  id : r.id = s.id
  others : r.outputs.filter (fun n => !n.isClause) = s.outputs.filter fun n => !n.isClause

/-- What two weaves agree on that differ in their clauses only. The addresses `below` lead on from
the outermost proxy, which stands right behind the clauses. -/
structure Woven.Alike (v u : Woven ι) : Prop where
  fault : v.fault = u.fault
  route : v.route.Alike u.route
  layers : v.report.layers = u.report.layers
  interceptors : v.interceptors = u.interceptors
  points : ∃ below : List Address,
    v.report.points.bottomUp = below.map (v.report.clauses :: ·) ∧
      u.report.points.bottomUp = below.map (u.report.clauses :: ·)

/-! ### The points of a tower -/

def pointsBelow (own : Forest) (ps : List ι) : List Address :=
  (markerAddresses [] (towerSeams own ps).reverse).reverse

theorem towerPoints_eq (k : Nat) (own : Forest) (ps : List ι) :
    towerPoints k own ps = (pointsBelow own ps).map (k :: ·) := by
  have moved := markerAddresses_prepend [k] [] (towerSeams own ps).reverse
  rw [List.append_nil] at moved
  rw [towerPoints, moved, ← List.map_reverse]
  rfl

/-! ### Two weaves -/

namespace Weaver

theorem clauses_run_eq_countP (w : Weaver) (r : Route) (is : List ι) :
    (w.run r is).report.clauses = (r.outputs ++ w.clauses).countP Node.isClause := by
  rw [clauses_run, front, List.countP_eq_length_filter]

/-- Exception clauses and interception do not interfere. Two weaves of routes that differ in their
clauses, with clauses of their own merged in, have the same fault or none, the same layers, the same
nodes behind the clauses, and the same insertion points but for the first index of each, which is the
number of the clauses in front. -/
theorem run_noninterference (w : Weaver) {cs ds : Forest} (first : ∀ c ∈ cs, c.isClause = true)
    (second : ∀ d ∈ ds, d.isClause = true) {r s : Route} (alike : r.Alike s) (is : List ι) :
    let v := Weaver.run { w with clauses := cs } r is
    let u := Weaver.run { w with clauses := ds } s is
    v.Alike u ∧ v.report.clauses = (r.outputs ++ cs).countP Node.isClause ∧
      u.report.clauses = (s.outputs ++ ds).countP Node.isClause := by
  intro v u
  refine ⟨?_, clauses_run_eq_countP _ r is, clauses_run_eq_countP _ s is⟩
  have accepted : Weaver.acceptance { w with clauses := cs } r.id is =
      Weaver.acceptance { w with clauses := ds } s.id is := by
    rw [acceptance_with_clauses cs, acceptance_with_clauses ds, alike.id]
  have own : Weaver.own { w with clauses := cs } r = Weaver.own { w with clauses := ds } s := by
    rw [own_eq _ r first, own_eq _ s second, alike.others]
  have applied : v.applied = u.applied := by
    rw [applied_run, applied_run, accepted]
  exact {
    fault := by rw [fault_run, fault_run, accepted]
    route := by
      refine ⟨by rw [route_run, route_run]; exact alike.id, ?_⟩
      rw [filter_outputs_run, filter_outputs_run, applied, own]
    layers := by rw [layers_run, layers_run, applied, own]
    interceptors := by rw [interceptors_run, interceptors_run, applied, accepted]
    points := by
      refine ⟨pointsBelow (Weaver.own { w with clauses := cs } r) v.applied, ?_, ?_⟩
      · rw [points_run, towerPoints_eq, clauses_run]
      · rw [points_run, towerPoints_eq, clauses_run, applied, own] }

/-- One route has a clause between its steps and one clause is merged into it, the other has none.
The second of four interceptors drops the first one's proxy, and the last is not prepared. -/
theorem run_noninterference_lossy :
    let io : Node := ⟨.onException ["IoError"] true, none, [Node.marker]⟩
    let timeout : Node := ⟨.onException ["Timeout"] false, some "t", []⟩
    let w : Weaver := ⟨⟨.empty, []⟩, [], .lenient⟩
    let r : Route := ⟨"orders", [Node.step "direct:in", timeout, Node.step "direct:out"]⟩
    let s : Route := ⟨"orders", [Node.step "direct:in", Node.step "direct:out"]⟩
    let is : List Interception :=
      [.builtIn (.debugger "dbg"), .declared ⟨"mute", [], [Node.step "log:mute"], .empty⟩,
        .declared ⟨"audit", [], [Node.step "log:in", Node.marker], .empty⟩,
        .declared ⟨"odd", [⟨"var", none, none⟩], [Node.marker], .empty⟩]
    let v := Weaver.run { w with clauses := [io] } r is
    let u := Weaver.run { w with clauses := [] } s is
    (∀ c ∈ [io], c.isClause = true) ∧ (∀ d ∈ ([] : Forest), d.isClause = true) ∧ r.Alike s ∧
      v.fault.isSome = true ∧ v.report.points.bottomUp = [[2, 1]] ∧
      u.report.points.bottomUp = [[0, 1]] ∧ v.Alike u ∧ v.report.clauses = 2 ∧
      u.report.clauses = 0 := by
  intro io timeout w r s is v u
  have first : ∀ c ∈ [io], c.isClause = true := by decide
  have second : ∀ d ∈ ([] : Forest), d.isClause = true := nofun
  have alike : r.Alike s := ⟨rfl, by decide⟩
  exact ⟨first, second, alike, by decide, by decide, by decide,
    run_noninterference w first second alike is⟩

end Weaver

end RouteLoom
