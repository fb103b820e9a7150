import RouteLoom.Proofs.Assembly.Faults
import RouteLoom.Proofs.Weaving.Hoisting

/-!
# Which proxies an assembled route has

In a valid context the routes and the templates bring no others. Exception clauses are not examined
for proxies, so what proxies the clauses of a context declare are in every route of it, in front of
those that were made.
-/

namespace RouteLoom

variable {ι : Type} [Interceptor ι]

open Interceptor

/-! ### The proxies of a forest -/

def Kind.intercept? : Kind → Option String
  | .proxy intercept => some intercept
  | _ => none

theorem Node.isProxy_eq (n : Node) : n.isProxy = n.kind.intercept?.isSome := by
  obtain ⟨kind, id, outputs⟩ := n
  cases kind <;> rfl

namespace Forest

variable {f g wrapped body filled : Forest} {a : Address} {marker : Node}

/-- The intercepts of the proxies at every depth, in the order in which a reader meets them. -/
def proxied (f : Forest) : List String := (labels f).filterMap fun l => l.1.intercept?

@[simp] theorem proxied_append (f g : Forest) : proxied (f ++ g) = proxied f ++ proxied g := by
  rw [proxied, labels_append, List.filterMap_append]
  rfl

theorem proxied_proxy (name : String) (f : Forest) :
    proxied [Node.proxy name f] = name :: proxied f := by
  rw [proxied, labels_cons, labels_nil, List.append_nil]
  rfl

theorem count_isProxy (f : Forest) : count Node.isProxy f = (proxied f).length := by
  rw [proxied, List.length_filterMap_eq_countP, labels, List.countP_map, count]
  exact List.countP_congr fun n _ => by rw [Node.isProxy_eq]; rfl

theorem proxied_eq_nil_iff : proxied f = [] ↔ any Node.isProxy f = false := by
  rw [← count_eq_zero_iff, count_isProxy, List.length_eq_zero_iff]

theorem proxied_filter (none : proxied f = []) (p : Node → Bool) : proxied (f.filter p) = [] := by
  induction f with
  | nil => rfl
  | cons n rest ih =>
    rw [← List.singleton_append, proxied_append, List.append_eq_nil_iff] at none
    rw [List.filter_cons]
    split
    · rw [← List.singleton_append, proxied_append, none.1, ih none.2, List.append_nil]
    · exact ih none.2

theorem Embeds.proxied_filled (e : Embeds wrapped body filled a marker) (none : proxied body = []) :
    proxied filled = proxied wrapped := by
  obtain ⟨front, back, old, new⟩ := labels_appendAt_split e.appended
  rw [proxied, old, List.filterMap_append, List.append_eq_nil_iff] at none
  rw [proxied, new, List.filterMap_append, List.filterMap_append, none.1, none.2, List.append_nil,
    List.nil_append, proxied]

end Forest

open Forest

/-! ### Towers and weaves -/

theorem kind_around (i : ι) (wrapped : Forest) : (around i wrapped).kind = .proxy (name i) := by
  rw [around]
  split <;> rfl

/-- With marked bodies that bring no proxies, a tower has one proxy for each interceptor, the last
one's first. -/
theorem proxied_tower (own : Forest) {ps : List ι}
    (marked : ∀ p ∈ ps, (body p).firstMarker ≠ none) (none : ∀ p ∈ ps, proxied (body p) = []) :
    proxied (tower own ps) = (ps.map name).reverse ++ proxied own := by
  induction ps using List.reverseRecOn with
  | nil => rfl
  | append_singleton ps p ih =>
    have last : p ∈ ps ++ [p] := List.mem_concat_self
    obtain ⟨a, found⟩ := Option.ne_none_iff_exists'.mp (marked p last)
    obtain ⟨marker, filled, e⟩ := exists_embeds (tower own ps) found
    have inside := ih (fun q hq => marked q (List.mem_append_left _ hq))
      fun q hq => none q (List.mem_append_left _ hq)
    rw [tower_concat, around_of_embeds e, proxied_proxy, e.proxied_filled (none p last), inside,
      List.map_append, List.reverse_append]
    rfl

namespace Weaver

variable {w : Weaver} {r : Route} {is : List ι}

theorem proxied_run (marked : ∀ l ∈ (w.run r is).report.layers, l.marker ≠ none)
    (none : ∀ p ∈ (w.run r is).applied, proxied (body p) = []) :
    proxied (w.run r is).route.outputs =
      proxied (w.front r) ++ ((w.run r is).report.layers.map Layer.intercept).reverse ++
        proxied (w.own r) := by
  have bodies : ∀ p ∈ (w.run r is).applied, (body p).firstMarker ≠ Option.none := fun p hp => by
    obtain ⟨k, hk⟩ := List.getElem?_of_mem hp
    rw [← marker_seam p (w.wrappedBy r is k)]
    refine marked _ (List.mem_of_getElem? (i := k) ?_)
    rw [getElem?_layers, hk, Option.map_some]
  rw [outputs_run, proxied_append, proxied_tower _ bodies none, intercepts_run, List.append_assoc]

/-- Where every layer has its marker, the proxies hang one below the other, the last layer's right
behind the clauses. -/
theorem exists_nesting (marked : ∀ l ∈ (w.run r is).report.layers, l.marker ≠ none) :
    ∃ place : Nat → Address,
      place (w.run r is).report.layers.length = [(w.run r is).report.clauses] ∧
      ∀ k l, (w.run r is).report.layers[k]? = some l →
        (∃ n, (w.run r is).route.at? (place (k + 1)) = some n ∧ n.kind = .proxy l.intercept) ∧
        place (k + 1) <+: place k ∧ place (k + 1) ≠ place k := by
  have all := length_bottomUp_of_marked marked
  obtain ⟨place, outermost, standing⟩ := w.layersAt_run r is
  rw [all] at outermost standing
  rw [length_layers, Nat.sub_self] at standing
  refine ⟨place, by rw [outermost, clauses_run], fun k l hl => ?_⟩
  obtain ⟨p, hp, rfl⟩ := w.exists_applied r is hl
  have bound : k < (w.run r is).report.points.bottomUp.length := by
    rw [all]
    exact (List.getElem?_eq_some_iff.mp hl).1
  obtain ⟨i, hi, relative, marker, -, -, -, -, there, point, -, inner⟩ :=
    standing k _ (List.getElem?_eq_getElem bound)
  rw [Nat.zero_add, hp, Option.some.injEq] at hi
  subst hi
  refine ⟨⟨_, there, ?_⟩, ?_, ?_⟩
  · rw [kind_around, intercept_seam]
  · rw [inner, point, Address.child, List.append_assoc]
    exact List.prefix_append _ _
  · intro same
    have longer := congrArg List.length same
    rw [inner, point, Address.child] at longer
    simp only [List.length_append, List.length_singleton] at longer
    omega

end Weaver

/-! ### Assembled contexts -/

namespace Context

variable {c : Context} {parents : List Bindings} {a : Assembled} {k : Nat} {route : Route}
  {report : Report}

theorem exists_weave_of_assembled (assembled : (c.assemble parents).outcome = .ok a)
    (hroute : a.routes[k]? = some route) (hreport : a.reports[k]? = some report) :
    c.Valid ∧ ∃ strategies, ∃ r ∈ assignIds c.routes,
      route = (c.weave (c.registry parents) strategies r).route ∧
      report = (c.weave (c.registry parents) strategies r).report := by
  obtain ⟨valid, strategies, -, routes, reports⟩ := woven_of_assembled assembled
  rw [routes, List.getElem?_map, Option.map_eq_some_iff] at hroute
  rw [reports, List.getElem?_map, Option.map_eq_some_iff] at hreport
  obtain ⟨r, hr, rfl⟩ := hroute
  obtain ⟨r', hr', rfl⟩ := hreport
  rw [hr, Option.some.injEq] at hr'
  subst hr'
  exact ⟨valid, strategies, r, List.mem_of_getElem? hr, rfl, rfl⟩

theorem isClause_of_mem_clauseNodes (c : Context) : ∀ n ∈ c.clauseNodes, n.isClause = true := by
  intro n hn
  obtain ⟨e, -, rfl⟩ := List.mem_map.mp hn
  rfl

theorem Valid.proxied_body (valid : c.Valid) {registry : Registry} {strategies : List Strategy}
    {r : Route} : ∀ p ∈ (c.weave registry strategies r).applied, proxied (body p) = [] := by
  intro p hp
  obtain ⟨i, hi, same⟩ := Weaver.count_body_of_mem_applied Node.isProxy_expand hp
  rw [proxied_eq_nil_iff, ← count_eq_zero_iff, same, count_eq_zero_iff]
  rcases List.mem_append.mp hi with builtIn | declared
  · obtain ⟨s, -, rfl⟩ := List.mem_map.mp builtIn
    rfl
  · obtain ⟨j, hj, rfl⟩ := List.mem_map.mp declared
    exact valid.template_declares_no_proxy hj

/-- The proxies of an assembled route are those that its context's exception clauses declare, and
behind them one for each layer, the last layer's first. These hang one below the other. So if no
clause declares a proxy, there are as many proxies as layers. -/
theorem assemble_proxies (c : Context) (parents : List Bindings)
    (strict : c.options.missingProceed = .reject) {a : Assembled}
    (assembled : (c.assemble parents).outcome = .ok a) {k : Nat} {route : Route} {report : Report}
    (hroute : a.routes[k]? = some route) (hreport : a.reports[k]? = some report) :
    proxied route.outputs =
      proxied c.clauseNodes ++ (report.layers.map Layer.intercept).reverse ∧
    (∃ place : Nat → Address, place report.layers.length = [report.clauses] ∧
      ∀ k l, report.layers[k]? = some l →
        (∃ n, route.at? (place (k + 1)) = some n ∧ n.kind = .proxy l.intercept) ∧
        place (k + 1) <+: place k ∧ place (k + 1) ≠ place k) ∧
    (any Node.isProxy c.clauseNodes = false →
      count Node.isProxy route.outputs = report.layers.length) := by
  obtain ⟨valid, strategies, r, hr, rfl, rfl⟩ := exists_weave_of_assembled assembled hroute hreport
  obtain ⟨declared, hdeclared, outputs⟩ := exists_route_of_mem_assignIds hr
  have marked : ∀ l ∈ (c.weave (c.registry parents) strategies r).report.layers, l.marker ≠ none :=
    fun l hl => Weaver.marker_ne_none_of_reject strict r _ hl
  have own : proxied r.outputs = [] := by
    rw [outputs, proxied_eq_nil_iff]
    exact valid.route_declares_no_proxy hdeclared
  have clauses := c.isClause_of_mem_clauseNodes
  have all : proxied (c.weave (c.registry parents) strategies r).route.outputs =
      proxied c.clauseNodes ++
        ((c.weave (c.registry parents) strategies r).report.layers.map Layer.intercept).reverse := by
    rw [weave, Weaver.proxied_run marked valid.proxied_body, Weaver.front_eq clauses,
      Weaver.own_eq _ _ clauses, proxied_append, proxied_filter own, proxied_filter own,
      List.nil_append, List.append_nil]
    rfl
  refine ⟨all, Weaver.exists_nesting marked, fun none => ?_⟩
  rw [count_isProxy, all, proxied_eq_nil_iff.mpr none, List.nil_append, List.length_reverse,
    List.length_map]

/-- An exception clause without proxies, and two layers around each of two routes. -/
theorem assemble_proxies_audit :
    let audit : Intercept := ⟨"audit", [], [Node.step "log:in", Node.marker], .empty⟩
    let c : Context :=
      { Context.standard with
        clauses := [⟨["IoError"], true, [Node.step "log:error"]⟩]
        intercepts := [audit]
        routes := [⟨"", [Node.step "direct:in"]⟩, ⟨"orders", [Node.step "direct:out"]⟩]
        trace := some true }
    c.options.missingProceed = .reject ∧ ∃ a, (c.assemble []).outcome = .ok a ∧
      a.routes.length = 2 ∧ a.reports.length = 2 ∧
      ∀ (k : Nat) (route : Route) (report : Report),
        a.routes[k]? = some route → a.reports[k]? = some report →
        proxied route.outputs =
          proxied c.clauseNodes ++ (report.layers.map Layer.intercept).reverse ∧
        count Node.isProxy route.outputs = report.layers.length := by
  intro audit c
  have strict : c.options.missingProceed = .reject := rfl
  have lengths : ((c.assemble []).outcome.map fun a => (a.routes.length, a.reports.length)) =
      .ok (2, 2) := by decide
  cases assembled : (c.assemble []).outcome with
  | error f =>
    rw [assembled] at lengths
    cases lengths
  | ok a =>
    rw [assembled] at lengths
    obtain ⟨routes, reports⟩ := Prod.mk.inj (Except.ok.inj lengths)
    refine ⟨strict, a, rfl, routes, reports, fun k route report hroute hreport => ?_⟩
    have found := assemble_proxies c [] strict assembled hroute hreport
    exact ⟨found.1, found.2.2 (by decide)⟩

/-- A proxy that an exception clause declares is found in the assembled route, without a layer. -/
theorem assemble_proxies_forged :
    let forged : Clause := ⟨["IoError"], true, [Node.proxy "audit" []]⟩
    let c : Context :=
      { Context.standard with
        clauses := [forged]
        routes := [⟨"orders", [Node.step "direct:in"]⟩] }
    c.options.missingProceed = .reject ∧
      ((c.assemble []).outcome.map fun a =>
        (a.routes.map fun r => count Node.isProxy r.outputs,
          a.reports.map fun r => r.layers.length)) = .ok ([1], [0]) := by
  decide

end Context

end RouteLoom
