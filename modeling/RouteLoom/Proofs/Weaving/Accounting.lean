import RouteLoom.Interception.Any
import RouteLoom.Proofs.Tree.Labels
import RouteLoom.Proofs.Weaving.Layers

/-!
# Where the nodes go

A weave moves nodes and makes proxies, and it loses nodes in one way only: a layer without a marker
loses what it wraps. So the nodes of a woven route and the lost ones are those that the route, the
clauses and the proxies brought, each as often as it was brought.
-/

namespace RouteLoom

open scoped List

variable {ι : Type} [Interceptor ι]

open Interceptor Forest

/-! ### Towers -/

/-- What is lost when a proxy is put around the wrapped nodes. -/
def lostBy (p : ι) (wrapped : Forest) : Forest :=
  if (body p).firstMarker = none then wrapped else []

/-- What is lost in a tower. -/
def lostIn (own : Forest) (ps : List ι) : Forest :=
  (ps.mapIdx fun k p => lostBy p (tower own (ps.take k))).flatten

theorem lostIn_cons (own : Forest) (p : ι) (ps : List ι) :
    lostIn own (p :: ps) = lostBy p own ++ lostIn [around p own] ps := by
  rw [lostIn, List.mapIdx_cons, List.flatten_cons]
  rfl

private theorem append_swap_perm (front a b : List Label) : front ++ a ++ b ~ front ++ b ++ a := by
  rw [List.append_assoc, List.append_assoc]
  exact List.perm_append_comm.append_left _

/-- One proxy more brings its own labels, and keeps or loses what it wraps. -/
theorem labels_around_perm (p : ι) (wrapped : Forest) :
    labels [around p wrapped] ++ labels (lostBy p wrapped) ~ labels wrapped ++ labels [proxy p] := by
  rw [lostBy]
  refine List.Perm.trans ?_ List.perm_append_comm
  cases h : (body p).firstMarker with
  | none => rw [around_of_none h, if_pos rfl]
  | some a =>
    obtain ⟨marker, filled, e⟩ := exists_embeds wrapped h
    have grown : labels filled ~ labels (body p) ++ labels wrapped := labels_appendAt_perm e.appended
    rw [around_of_embeds e, if_neg (by simp), labels_nil, List.append_nil]
    simpa [Node.proxy, proxy, Node.label] using grown

/-- In a tower and with what it lost are the own nodes and the nodes of every proxy. -/
theorem labels_tower_perm (own : Forest) (ps : List ι) :
    labels (tower own ps) ++ labels (lostIn own ps) ~ labels own ++ labels (ps.map proxy) := by
  induction ps generalizing own with
  | nil => exact .refl _
  | cons p ps ih =>
    rw [tower_cons, lostIn_cons, labels_append, List.map_cons, labels_eq_append, ← List.append_assoc,
      ← List.append_assoc]
    calc labels (tower [around p own] ps) ++ labels (lostBy p own) ++ labels (lostIn [around p own] ps)
      _ ~ labels (tower [around p own] ps) ++ labels (lostIn [around p own] ps)
            ++ labels (lostBy p own) := append_swap_perm ..
      _ ~ labels [around p own] ++ labels (ps.map proxy) ++ labels (lostBy p own) :=
        (ih [around p own]).append_right _
      _ ~ labels [around p own] ++ labels (lostBy p own) ++ labels (ps.map proxy) :=
        append_swap_perm ..
      _ ~ labels own ++ labels [proxy p] ++ labels (ps.map proxy) :=
        (labels_around_perm p own).append_right _

/-! ### Weaves -/

namespace Weaver

/-- What the layers without a marker wrap. -/
def lost (w : Weaver) (r : Route) (is : List ι) : Forest :=
  ((w.run r is).report.layers.mapIdx fun k l =>
    if l.marker = none then w.wrappedBy r is k else []).flatten

variable (w : Weaver) (r : Route) (is : List ι)

theorem lost_eq : w.lost r is = lostIn (w.own r) (w.run r is).applied := by
  rw [lost, lostIn]
  congr 1
  apply List.ext_getElem?
  intro k
  rw [List.getElem?_mapIdx, List.getElem?_mapIdx, getElem?_layers, Option.map_map]
  congr 1
  funext p
  rw [Function.comp_apply, marker_seam]
  rfl

theorem labels_front_own_perm :
    labels (w.front r) ++ labels (w.own r) ~ labels r.outputs ++ labels w.clauses := by
  rw [← labels_append, ← labels_append]
  exact labels_perm (List.filter_append_perm Node.isClause _)

theorem labels_run_perm :
    labels (w.run r is).route.outputs ++ labels (w.lost r is) ~
      labels r.outputs ++ labels w.clauses ++ labels ((w.run r is).applied.map proxy) := by
  rw [outputs_run, lost_eq, labels_append, List.append_assoc]
  calc labels (w.front r) ++ (labels (tower (w.own r) (w.run r is).applied)
          ++ labels (lostIn (w.own r) (w.run r is).applied))
    _ ~ labels (w.front r) ++ (labels (w.own r) ++ labels ((w.run r is).applied.map proxy)) :=
      (labels_tower_perm ..).append_left _
    _ = labels (w.front r) ++ labels (w.own r) ++ labels ((w.run r is).applied.map proxy) := by
      rw [List.append_assoc]
    _ ~ labels r.outputs ++ labels w.clauses ++ labels ((w.run r is).applied.map proxy) :=
      (w.labels_front_own_perm r).append_right _

theorem dropped_eq_zero_iff : (w.run r is).report.dropped = 0 ↔ w.lost r is = [] := by
  rw [Report.dropped, ← List.sum_eq_foldr, List.sum_eq_zero_iff_forall_eq_nat, lost,
    List.flatten_eq_nil_iff]
  have each : ∀ k l, (w.run r is).report.layers[k]? = some l →
      (l.dropped = 0 ↔ (if l.marker = none then w.wrappedBy r is k else []) = []) := by
    intro k l hl
    obtain ⟨p, hp, rfl⟩ := w.exists_applied r is hl
    rw [dropped_seam, wrapped_seam]
    split
    · exact List.length_eq_zero_iff
    · simp
  constructor
  · intro none f hf
    obtain ⟨k, hk, rfl⟩ := List.mem_mapIdx.mp hf
    exact (each k _ (List.getElem?_eq_getElem hk)).mp
      (none _ (List.mem_map_of_mem (List.getElem_mem hk)))
  · intro none d hd
    obtain ⟨l, hl, rfl⟩ := List.mem_map.mp hd
    obtain ⟨k, hk⟩ := List.getElem?_of_mem hl
    refine (each k l hk).mpr (none _ (List.mem_mapIdx.mpr ?_))
    obtain ⟨bound, rfl⟩ := List.getElem?_eq_some_iff.mp hk
    exact ⟨k, bound, rfl⟩

theorem lost_eq_nil_iff : w.lost r is = [] ↔
    labels (w.run r is).route.outputs ~
      labels r.outputs ++ labels w.clauses ++ labels ((w.run r is).applied.map proxy) := by
  have all := w.labels_run_perm r is
  constructor
  · intro none
    rwa [none, labels_nil, List.append_nil] at all
  · intro whole
    have length := (whole.trans all.symm).length_eq
    rw [List.length_append] at length
    exact labels_eq_nil_iff.mp (List.length_eq_zero_iff.mp (by omega))

end Weaver

/-- The nodes of a weave, counted by kind and id at every depth, and its report agree. -/
structure Accounted (w : Weaver) (r : Route) (is : List ι) : Prop where
  conserved : labels (w.run r is).route.outputs ++ labels (w.lost r is) ~
    labels r.outputs ++ labels w.clauses ++ labels ((w.run r is).applied.map proxy)
  first_wraps : ∀ l, (w.run r is).report.layers[0]? = some l →
    l.wrapped = (r.outputs.filter fun n => !n.isClause).length
  later_wraps : ∀ k l, (w.run r is).report.layers[k + 1]? = some l → l.wrapped = 1
  drops : ∀ l ∈ (w.run r is).report.layers,
    l.dropped = if l.marker = none then l.wrapped else 0
  rejects : w.options.missingProceed = .reject →
    ∀ l ∈ (w.run r is).report.layers, l.marker ≠ none
  nothing_lost : (w.run r is).report.dropped = 0 ↔ w.lost r is = []
  all_kept : w.lost r is = [] ↔ labels (w.run r is).route.outputs ~
    labels r.outputs ++ labels w.clauses ++ labels ((w.run r is).applied.map proxy)

namespace Weaver

/-- Every weave, whether it came to its end or not, accounts for every node. -/
theorem accounted_run (w : Weaver) (r : Route) (is : List ι)
    (clauses : ∀ c ∈ w.clauses, c.isClause = true) : Accounted w r is where
  conserved := w.labels_run_perm r is
  first_wraps l hl := by
    obtain ⟨p, -, rfl⟩ := w.exists_applied r is hl
    rw [wrapped_seam, wrappedBy_zero, w.own_eq r clauses]
  later_wraps k l hl := by
    obtain ⟨p, hp, rfl⟩ := w.exists_applied r is hl
    have before : k < (w.run r is).applied.length :=
      Nat.lt_of_succ_lt (List.getElem?_eq_some_iff.mp hp).1
    rw [wrapped_seam, w.wrappedBy_succ r is (List.getElem?_eq_getElem before)]
    rfl
  drops l hl := by
    obtain ⟨k, hk⟩ := List.getElem?_of_mem hl
    obtain ⟨p, -, rfl⟩ := w.exists_applied r is hk
    exact dropped_seam p _
  rejects reject l hl := by
    obtain ⟨k, hk⟩ := List.getElem?_of_mem hl
    obtain ⟨p, hp, rfl⟩ := w.exists_applied r is hk
    obtain ⟨i, -, accepted⟩ := accepted_of_applied hp
    intro none
    rw [marker_seam] at none
    have given := (accept_eq_ok_iff.mp accepted).2
    exact given ⟨reject, none⟩
  nothing_lost := w.dropped_eq_zero_iff r is
  all_kept := w.lost_eq_nil_iff r is

/-- A lenient weave whose second layer loses the first one's proxy, and whose last interceptor is
not prepared. -/
theorem accounted_run_lossy :
    let w : Weaver := ⟨⟨.empty, []⟩, [⟨.onException ["IoError"] true, none, []⟩], .lenient⟩
    let r : Route := ⟨"orders", [Node.step "direct:in", Node.step "direct:in"]⟩
    let is : List Interception :=
      [.builtIn (.debugger "dbg"), .declared ⟨"mute", [], [Node.step "log:mute"], .empty⟩,
        .declared ⟨"odd", [⟨"var", none, none⟩], [Node.marker], .empty⟩]
    (∀ c ∈ w.clauses, c.isClause = true) ∧ (w.run r is).report.dropped = 1 ∧
      (w.lost r is).length = 1 ∧ Accounted w r is := by
  intro w r is
  have clauses : ∀ c ∈ w.clauses, c.isClause = true := by decide
  exact ⟨clauses, by decide, by decide, accounted_run w r is clauses⟩

end Weaver

end RouteLoom
