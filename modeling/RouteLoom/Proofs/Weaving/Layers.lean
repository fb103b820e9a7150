import RouteLoom.Proofs.Weaving.Acceptance

/-!
# The layers of a woven route

What the layers of a weave's report are layers of. Layer number `k`, counted from the innermost,
belongs to the `k`-th applied interceptor and wraps the tower of those before it. The route itself
is its clauses followed by the whole tower.
-/

namespace RouteLoom

variable {ι : Type} [Interceptor ι]

open Interceptor

/-- The interceptors of the finished layers, innermost first, as the weave left them. -/
def Woven.applied (v : Woven ι) : List ι := v.interceptors.take v.report.layers.length

namespace Weaver

/-- The nodes that layer number `k` wraps. -/
def wrappedBy (w : Weaver) (r : Route) (is : List ι) (k : Nat) : Forest :=
  tower (w.own r) ((w.run r is).applied.take k)

variable (w : Weaver) (r : Route) (is : List ι)

@[simp] theorem applied_run : (w.run r is).applied = (w.acceptance r.id is).applied := by
  simp [Woven.applied, run_eq, build]

theorem layers_run :
    (w.run r is).report.layers = (towerSeams (w.own r) (w.run r is).applied).map Seam.layer := by
  rw [applied_run, run_eq, build]

@[simp] theorem length_layers : (w.run r is).report.layers.length = (w.run r is).applied.length := by
  rw [layers_run, List.length_map, length_towerSeams]

theorem getElem?_layers (k : Nat) :
    (w.run r is).report.layers[k]? =
      (w.run r is).applied[k]?.map fun i => (seam i (w.wrappedBy r is k)).layer := by
  rw [layers_run, List.getElem?_map, getElem?_towerSeams, Option.map_map]
  rfl

@[simp] theorem clauses_run : (w.run r is).report.clauses = (w.front r).length := by
  rw [run_eq, build]

theorem outputs_run :
    (w.run r is).route.outputs = w.front r ++ tower (w.own r) (w.run r is).applied := by
  rw [applied_run, run_eq, build]

@[simp] theorem wrappedBy_zero : w.wrappedBy r is 0 = w.own r := rfl

theorem wrappedBy_succ {k : Nat} {i : ι} (hi : (w.run r is).applied[k]? = some i) :
    w.wrappedBy r is (k + 1) = [around i (w.wrappedBy r is k)] :=
  tower_of_getElem? (w.own r) (w.run r is).applied i hi

theorem exists_applied {k : Nat} {l : Layer} (hl : (w.run r is).report.layers[k]? = some l) :
    ∃ i, (w.run r is).applied[k]? = some i ∧ l = (seam i (w.wrappedBy r is k)).layer := by
  rw [getElem?_layers] at hl
  obtain ⟨i, hi, rfl⟩ := Option.map_eq_some_iff.mp hl
  exact ⟨i, hi, rfl⟩

/-! ### Where the applied interceptors come from -/

variable {w r is}

theorem accepted_of_applied {k : Nat} {p : ι} (hp : (w.run r is).applied[k]? = some p) :
    ∃ i, is[k]? = some i ∧ w.accept r.id i = .ok p := by
  rw [applied_run] at hp
  obtain ⟨front, back, rfl, accepted, -⟩ := acceptance_cases w r.id is
  obtain ⟨hk, rfl⟩ := List.getElem?_eq_some_iff.mp hp
  have hfront : k < front.length := accepted.length_eq ▸ hk
  refine ⟨front[k], ?_, accepted.get hfront hk⟩
  rw [List.getElem?_append_left hfront, List.getElem?_eq_getElem]

theorem intercepts_run (w : Weaver) (r : Route) (is : List ι) :
    (w.run r is).report.layers.map Layer.intercept = (w.run r is).applied.map name := by
  refine List.ext_getElem? fun k => ?_
  rw [List.getElem?_map, List.getElem?_map, getElem?_layers, Option.map_map]
  simp [Function.comp_def]

theorem accepted_of_succeeds (succeeds : (w.run r is).fault = none) :
    List.Forall₂ (fun i p => w.accept r.id i = .ok p) is (w.run r is).applied ∧
      (w.acceptance r.id is).behind = [] := by
  rw [run_eq, build] at succeeds
  rw [applied_run]
  obtain ⟨front, back, split, accepted, ⟨rfl, -, behind⟩ | ⟨i, rest, f, p, -, -, fault, -⟩⟩ :=
    acceptance_cases w r.id is
  · rw [List.append_nil] at split
    rw [← split] at accepted
    exact ⟨accepted, behind⟩
  · rw [fault] at succeeds
    cases succeeds

theorem length_applied_of_succeeds (succeeds : (w.run r is).fault = none) :
    (w.run r is).applied.length = is.length :=
  (accepted_of_succeeds succeeds).1.length_eq.symm

/-! ### Clauses and own nodes -/

variable (w r is)

theorem isClause_of_mem_front {n : Node} (hn : n ∈ w.front r) : n.isClause = true :=
  (List.mem_filter.mp hn).2

theorem not_isClause_of_mem_own {n : Node} (hn : n ∈ w.own r) : n.isClause = false := by
  simpa using (List.mem_filter.mp hn).2

theorem own_eq (clauses : ∀ c ∈ w.clauses, c.isClause = true) :
    w.own r = r.outputs.filter fun n => !n.isClause := by
  have none : (w.clauses.filter fun n => !n.isClause) = [] :=
    List.filter_eq_nil_iff.mpr fun c hc => by simp [clauses c hc]
  rw [own, List.filter_append, none, List.append_nil]

theorem not_isClause_of_mem_tower {own : Forest} (free : ∀ n ∈ own, n.isClause = false)
    (ps : List ι) {n : Node} (hn : n ∈ tower own ps) : n.isClause = false := by
  induction ps using List.reverseRecOn with
  | nil =>
    rw [tower_nil] at hn
    exact free n hn
  | append_singleton ps p =>
    rw [tower_concat, List.mem_singleton] at hn
    rw [hn, isClause_around]

theorem filter_isClause_append {clauses own : Forest} (first : ∀ n ∈ clauses, n.isClause = true)
    (behind : ∀ n ∈ own, n.isClause = false) :
    (clauses ++ own).filter Node.isClause = clauses ∧
      (clauses ++ own).filter (fun n => !n.isClause) = own := by
  have none : own.filter Node.isClause = [] :=
    List.filter_eq_nil_iff.mpr fun n hn => by simp [behind n hn]
  have no_others : clauses.filter (fun n => !n.isClause) = [] :=
    List.filter_eq_nil_iff.mpr fun n hn => by simp [first n hn]
  have whole : ∀ n ∈ own, (!n.isClause) = true := fun n hn => by simp [behind n hn]
  rw [List.filter_append, List.filter_append, List.filter_eq_self.mpr first, none,
    List.append_nil, no_others, List.nil_append, List.filter_eq_self.mpr whole]
  exact ⟨rfl, rfl⟩

theorem filter_isClause_run :
    (w.run r is).route.outputs.filter Node.isClause = w.front r ∧
      (w.run r is).route.outputs.filter (fun n => !n.isClause) =
        tower (w.own r) (w.run r is).applied := by
  rw [outputs_run]
  exact filter_isClause_append (fun n => w.isClause_of_mem_front r)
    fun n => not_isClause_of_mem_tower (fun n => w.not_isClause_of_mem_own r) _

theorem filter_outputs_run :
    (w.run r is).route.outputs.filter (fun n => !n.isClause) =
      tower (w.own r) (w.run r is).applied :=
  (w.filter_isClause_run r is).2

end Weaver

end RouteLoom
