import RouteLoom.Proofs.Interception.Template
import RouteLoom.Proofs.Weaving.Layers

/-!
# Reverse nesting

After a successful weave whose bodies all have a marker, a route's nodes apart from its clauses are
a single proxy, that of the last interceptor, and the way down from it meets the others in reverse
order. Each proxy is what its interceptor made, but for what was put behind the outputs of its first
marker: there the next proxy hangs, and in the innermost the route's own nodes.
-/

namespace RouteLoom

open Interceptor

/-! ### Taking the wrapped nodes out again -/

def Node.dropOutputs (n : Node) (k : Nat) : Node :=
  { n with outputs := n.outputs.take (n.outputs.length - k) }

theorem Node.dropOutputs_addOutputs (n : Node) (more : Forest) :
    (n.addOutputs more).dropOutputs more.length = n := by
  cases n
  simp [addOutputs, dropOutputs]

theorem Forest.Embeds.update_dropOutputs {wrapped body filled : Forest} {a : Address}
    {marker : Node} (e : Forest.Embeds wrapped body filled a marker) (kind : Kind)
    (id : Option String) :
    Node.update (·.dropOutputs wrapped.length) a ⟨kind, id, filled⟩ = some ⟨kind, id, body⟩ := by
  have grown : Node.update (·.addOutputs wrapped) a ⟨kind, id, body⟩ = some ⟨kind, id, filled⟩ := by
    have appended : Forest.update (·.addOutputs wrapped) a body = some filled := e.appended
    rw [Node.update_of_ne_nil e.ne_nil, appended, Option.map_some]
  exact Node.update_undo grown fun m _ => m.dropOutputs_addOutputs wrapped

/-! ### The proxies of a route -/

variable {ι : Type} [Interceptor ι]

/-- What a proxy holds when it is number `k`, counted from the innermost. -/
def heldBy (own : Forest) (proxies : List Node) : Nat → Forest
  | 0 => own
  | k + 1 => proxies[k]?.toList

/-- A woven route consists of these proxies, innermost first, around its own nodes. -/
structure ReverseNested (w : Weaver) (r : Route) (is : List ι) (proxies : List Node) : Prop where
  length : proxies.length = is.length
  outermost : ∃ last, proxies.getLast? = some last ∧
    (w.run r is).route.outputs.filter (fun n => !n.isClause) = [last]
  /-- The interceptor `i` was prepared to `p`; `marker` is what `p` declares at `relative`. -/
  proxy : ∀ k n, proxies[k]? = some n → ∃ i p relative marker,
    is[k]? = some i ∧ prepare w.registry i = .ok p ∧
    (w.run r is).report.layers[k]?.map Layer.marker = some (some relative) ∧
    Forest.firstMarker n.outputs = some relative ∧
    Forest.at? relative (body p) = some marker ∧
    Forest.at? relative n.outputs = some (marker.addOutputs
      (heldBy (r.outputs.filter fun n => !n.isClause) proxies k)) ∧
    Node.update (·.dropOutputs
        (heldBy (r.outputs.filter fun n => !n.isClause) proxies k).length) relative n =
      some (Interceptor.proxy p)

namespace Weaver

variable {w : Weaver} {r : Route} {is : List ι}

/-- The proxies of a weave in the final route, innermost first. -/
def proxies (w : Weaver) (r : Route) (is : List ι) : List Node :=
  (w.run r is).applied.mapIdx fun k p => around p (w.wrappedBy r is k)

theorem getElem?_proxies (k : Nat) :
    (w.proxies r is)[k]? =
      (w.run r is).applied[k]?.map fun p => around p (w.wrappedBy r is k) :=
  List.getElem?_mapIdx

theorem heldBy_proxies (clauses : ∀ c ∈ w.clauses, c.isClause = true) {k : Nat} {p : ι}
    (hp : (w.run r is).applied[k]? = some p) :
    heldBy (r.outputs.filter fun n => !n.isClause) (w.proxies r is) k = w.wrappedBy r is k := by
  cases k with
  | zero => exact (w.own_eq r clauses).symm
  | succ k =>
    have before : k < (w.run r is).applied.length :=
      Nat.lt_of_succ_lt (List.getElem?_eq_some_iff.mp hp).1
    have hq := List.getElem?_eq_getElem before
    rw [heldBy, getElem?_proxies, hq, w.wrappedBy_succ r is hq]
    rfl

theorem reverseNested_of_marked (clauses : ∀ c ∈ w.clauses, c.isClause = true) (nonempty : is ≠ [])
    (succeeds : (w.run r is).fault = none)
    (marked : ∀ p ∈ (w.run r is).applied, (body p).firstMarker ≠ none) :
    ReverseNested w r is (w.proxies r is) := by
  have all : (w.run r is).applied.length = is.length := length_applied_of_succeeds succeeds
  refine ⟨?_, ?_, ?_⟩
  · rw [proxies, List.length_mapIdx, all]
  · obtain ⟨front, last, split⟩ : ∃ front last, (w.run r is).applied = front ++ [last] := by
      rcases List.eq_nil_or_concat (w.run r is).applied with none | ⟨front, last, split⟩
      · rw [none] at all
        exact absurd (List.length_eq_zero_iff.mp all.symm) nonempty
      · exact ⟨front, last, by rw [split, List.concat_eq_append]⟩
    refine ⟨around last (tower (w.own r) front), ?_, ?_⟩
    · rw [proxies, split, List.mapIdx_concat, List.getLast?_concat, wrappedBy, split,
        List.take_left]
    · rw [filter_outputs_run, split, tower_concat]
  · intro k n hn
    rw [getElem?_proxies] at hn
    obtain ⟨p, hp, rfl⟩ := Option.map_eq_some_iff.mp hn
    obtain ⟨i, hi, accepted⟩ := accepted_of_applied hp
    obtain ⟨relative, found⟩ := Option.ne_none_iff_exists'.mp (marked p (List.mem_of_getElem? hp))
    obtain ⟨marker, filled, e⟩ := Forest.exists_embeds (w.wrappedBy r is k) found
    rw [heldBy_proxies clauses hp, around_of_embeds e]
    refine ⟨i, p, relative, marker, hi, (accept_eq_ok_iff.mp accepted).1, ?_,
      e.firstMarker_filled, e.declared, e.at?_filled, e.update_dropOutputs _ none⟩
    rw [getElem?_layers, hp, Option.map_some, Option.map_some, marker_seam, found]

/-- A successful weave of interceptors whose templates have markers nests their proxies in reverse
order, and changes nothing else about them. -/
theorem reverse_nesting (w : Weaver) (r : Route) (is : List Interception)
    (clauses : ∀ c ∈ w.clauses, c.isClause = true) (nonempty : is ≠ [])
    (marked : ∀ i ∈ is, Forest.any Node.isMarker i.template = true)
    (succeeds : (w.run r is).fault = none) :
    ∃ proxies, ReverseNested w r is proxies := by
  refine ⟨w.proxies r is, reverseNested_of_marked clauses nonempty succeeds ?_⟩
  intro p hp
  obtain ⟨k, hk⟩ := List.getElem?_of_mem hp
  obtain ⟨i, hi, accepted⟩ := accepted_of_applied hk
  have prepared : prepare w.registry i = .ok p := (accept_eq_ok_iff.mp accepted).1
  have same : p.template = i.template := (Interception.template_of_prepare prepared).2
  have declared : Forest.any Node.isMarker i.template = true := marked i (List.mem_of_getElem? hi)
  obtain ⟨a, found⟩ := Forest.exists_firstMarker_of_any declared
  rw [Interception.firstMarker_body, same, found]
  exact Option.some_ne_none a

/-- An intercept whose first marker lies below a step and already holds one, with a second marker
behind it. -/
def audit : Intercept where
  id := "audit"
  requirements := [⟨"log", some "logger", none⟩]
  template :=
    [⟨.step "choice", none, [Node.step "bean:${log}", ⟨.proceed, some "inner", [Node.marker]⟩]⟩,
      Node.marker]
  resolved := .empty

theorem reverse_nesting_audit :
    let w : Weaver := ⟨⟨.ofList [("logger", "Logger")], []⟩,
      [⟨.onException ["IoError"] true, none, []⟩], .standard⟩
    let r : Route := ⟨"orders", [Node.step "direct:in", ⟨.onException [] false, none, []⟩, Node.marker]⟩
    let is : List Interception := [.builtIn (.tracer none none), .declared audit, .declared audit]
    (∀ c ∈ w.clauses, c.isClause = true) ∧ is ≠ [] ∧
      (∀ i ∈ is, Forest.any Node.isMarker i.template = true) ∧ (w.run r is).fault = none ∧
      ∃ proxies, ReverseNested w r is proxies := by
  intro w r is
  have clauses : ∀ c ∈ w.clauses, c.isClause = true := by decide
  have nonempty : is ≠ [] := by decide
  have marked : ∀ i ∈ is, Forest.any Node.isMarker i.template = true := by decide
  have succeeds : (w.run r is).fault = none := by decide
  exact ⟨clauses, nonempty, marked, succeeds,
    reverse_nesting w r is clauses nonempty marked succeeds⟩

end Weaver

end RouteLoom
