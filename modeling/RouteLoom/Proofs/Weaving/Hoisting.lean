import RouteLoom.Proofs.Interception.Template
import RouteLoom.Proofs.Weaving.Accounting

/-!
# Exception clauses come first

The clauses of a route's own top level and the merged ones lead every woven route, each as it was,
and none stands behind them. A weave pushes no clause down: where clauses stand at the top level
only, and no template brings one, the clauses in front are all there are at any depth.
-/

namespace RouteLoom

variable {ι : Type} [Interceptor ι]

open Interceptor Forest

/-! ### Towers -/

/-- One proxy more adds what its body has, and without a marker it loses what it wraps. -/
theorem count_around {p : Node → Bool} (by_label : Node.ByLabel p)
    (proxies : ∀ name body, p (Node.proxy name body) = false) (i : ι) (wrapped : Forest) :
    count p [around i wrapped] =
      count p (body i) + if (body i).firstMarker = none then 0 else count p wrapped := by
  have here : p (proxy i) = false := proxies (name i) (body i)
  have below : count p (proxy i).outputs = count p (body i) := rfl
  have all : count p ([around i wrapped] ++ lostBy i wrapped) = count p (wrapped ++ [proxy i]) := by
    apply count_of_labels_perm by_label
    rw [labels_append, labels_append]
    exact labels_around_perm i wrapped
  rw [count_append, count_append, count_cons p (proxy i), here, below, count_nil,
    if_neg Bool.false_ne_true, lostBy] at all
  split at all
  next unmarked =>
    rw [if_pos unmarked]
    omega
  next marked =>
    rw [count_nil] at all
    rw [if_neg marked]
    omega

theorem count_tower_eq_zero {p : Node → Bool} (by_label : Node.ByLabel p)
    (proxies : ∀ name body, p (Node.proxy name body) = false) {own : Forest} {ps : List ι}
    (free : count p own = 0) (bodies : ∀ i ∈ ps, count p (body i) = 0) :
    count p (tower own ps) = 0 := by
  induction ps generalizing own with
  | nil => exact free
  | cons i ps ih =>
    obtain ⟨first, others⟩ := List.forall_mem_cons.mp bodies
    refine ih ?_ others
    rw [count_around by_label proxies, first, free, ite_self]

theorem exists_index_of_at? {p : Node → Bool} {front behind : Forest}
    (below : ∀ n ∈ front, count p n.outputs = 0) (none : count p behind = 0) {a : Address} {n : Node}
    (hn : at? a (front ++ behind) = some n) (holds : p n = true) :
    ∃ i, a = [i] ∧ front[i]? = some n := by
  cases a with
  | nil => cases hn
  | cons i rest =>
    rcases Nat.lt_or_ge i front.length with before | after
    · rw [at?, List.getElem?_append_left before] at hn
      obtain ⟨t, ht, inside⟩ := Option.bind_eq_some_iff.mp hn
      cases rest with
      | nil =>
        cases inside
        exact ⟨i, rfl, ht⟩
      | cons j more =>
        have deeper : at? (j :: more) t.outputs = some n := inside
        rw [eq_false_of_at? (below t (List.mem_of_getElem? ht)) deeper] at holds
        cases holds
    · obtain ⟨k, rfl⟩ := Nat.exists_eq_add_of_le after
      rw [at?_append_right] at hn
      rw [eq_false_of_at? none hn] at holds
      cases holds

/-! ### Weaves -/

namespace Weaver

variable {w : Weaver} {r : Route} {is : List Interception}

theorem front_eq (clauses : ∀ c ∈ w.clauses, c.isClause = true) :
    w.front r = r.outputs.filter Node.isClause ++ w.clauses := by
  rw [front, List.filter_append, List.filter_eq_self.mpr clauses]

theorem count_body_of_mem_applied {p : Node → Bool} (same : ∀ b n, p (Node.expand b n) = p n)
    {q : Interception} (hq : q ∈ (w.run r is).applied) :
    ∃ i ∈ is, count p (body q) = count p i.template := by
  obtain ⟨k, hk⟩ := List.getElem?_of_mem hq
  obtain ⟨i, hi, accepted⟩ := accepted_of_applied hk
  have kept := (Interception.template_of_prepare (accept_eq_ok_iff.mp accepted).1).2
  exact ⟨i, List.mem_of_getElem? hi, by rw [Interception.count_body same, kept]⟩

theorem count_isClause_tower (flat : ∀ n ∈ r.outputs, any Node.isClause n.outputs = false)
    (merged : ∀ c ∈ w.clauses, any Node.isClause c.outputs = false)
    (templates : ∀ i ∈ is, any Node.isClause i.template = false) :
    count Node.isClause (tower (w.own r) (w.run r is).applied) = 0 := by
  refine count_tower_eq_zero Node.byLabel_isClause (fun _ _ => rfl) ?_ ?_
  · have below : ∀ n ∈ w.own r, count Node.isClause n.outputs = 0 := fun n hn => by
      refine count_eq_zero_iff.mpr ?_
      rcases List.mem_append.mp (List.mem_of_mem_filter hn) with own | brought
      · exact flat n own
      · exact merged n brought
    have top : ∀ n ∈ w.own r, n.isClause = false := fun n => w.not_isClause_of_mem_own r
    generalize w.own r = own at below top
    induction own with
    | nil => exact count_nil _
    | cons n rest ih =>
      obtain ⟨below_first, below_others⟩ := List.forall_mem_cons.mp below
      obtain ⟨first, others⟩ := List.forall_mem_cons.mp top
      rw [count_cons, first, below_first, ih below_others others]
      rfl
  · intro q hq
    obtain ⟨i, hi, same⟩ := count_body_of_mem_applied Node.isClause_expand hq
    rw [same]
    exact count_eq_zero_iff.mpr (templates i hi)

/-- The clauses of a woven route's top level are the route's own and then the merged ones, in front
of everything else. If clauses stand nowhere but at the top level, these are the only ones. -/
theorem clauses_hoisted (w : Weaver) (r : Route) (is : List Interception)
    (clauses : ∀ c ∈ w.clauses, c.isClause = true) :
    let woven := w.run r is
    let handlers := r.outputs.filter Node.isClause ++ w.clauses
    (∃ others, woven.route.outputs = handlers ++ others ∧ ∀ n ∈ others, n.isClause = false) ∧
    woven.report.clauses = handlers.length ∧
    ((∀ n ∈ r.outputs, any Node.isClause n.outputs = false) →
      (∀ c ∈ w.clauses, any Node.isClause c.outputs = false) →
      (∀ i ∈ is, any Node.isClause i.template = false) →
      ∀ a n, woven.route.at? a = some n → n.isClause = true →
        ∃ i, a = [i] ∧ handlers[i]? = some n) := by
  intro woven handlers
  have same : w.front r = handlers := front_eq clauses
  have top : woven.route.outputs = handlers ++ tower (w.own r) woven.applied := by
    rw [← same]
    exact w.outputs_run r is
  refine ⟨⟨_, top, fun n => ?_⟩, ?_, ?_⟩
  · exact not_isClause_of_mem_tower (fun n => w.not_isClause_of_mem_own r) _
  · rw [← same]
    exact w.clauses_run r is
  · intro flat merged templates a n hn clause
    rw [Route.at?, top] at hn
    refine exists_index_of_at? (fun h hh => count_eq_zero_iff.mpr ?_)
      (count_isClause_tower flat merged templates) hn clause
    rcases List.mem_append.mp hh with own | brought
    · exact flat h (List.mem_of_mem_filter own)
    · exact merged h brought

/-- A lenient weave with a clause between two steps and one merged clause. The second of three
interceptors drops the first one's proxy, and the third is not prepared. -/
theorem clauses_hoisted_lossy :
    let io : Node := ⟨.onException ["IoError"] true, none, [Node.step "log:error"]⟩
    let timeout : Node := ⟨.onException ["Timeout"] false, some "t", []⟩
    let w : Weaver := ⟨⟨.empty, []⟩, [io], .lenient⟩
    let r : Route := ⟨"orders", [Node.step "direct:in", timeout, Node.step "direct:out"]⟩
    let is : List Interception :=
      [.builtIn (.debugger "dbg"), .declared ⟨"mute", [], [Node.step "log:mute"], .empty⟩,
        .declared ⟨"odd", [⟨"var", none, none⟩], [Node.marker], .empty⟩]
    (∀ c ∈ w.clauses, c.isClause = true) ∧ (w.run r is).fault.isSome = true ∧
      (w.run r is).report.clauses = 2 ∧
      ∀ a n, (w.run r is).route.at? a = some n → n.isClause = true →
        ∃ i, a = [i] ∧ [timeout, io][i]? = some n := by
  intro io timeout w r is
  have clauses : ∀ c ∈ w.clauses, c.isClause = true := by decide
  obtain ⟨-, number, only⟩ := clauses_hoisted w r is clauses
  exact ⟨clauses, by decide, number, only (by decide) (by decide) (by decide)⟩

end Weaver

end RouteLoom
