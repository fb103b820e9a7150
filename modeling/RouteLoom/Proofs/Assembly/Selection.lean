import RouteLoom.Proofs.Assembly.Addressing
import Mathlib.Data.List.Perm.Subperm

/-!
# Routes are assembled one by one

All routes of a context are examined together, and one set of clauses, strategies and intercepts is
woven around each of them. Still no route knows of another.
-/

namespace RouteLoom.Context

variable {c : Context} {registry : Registry} {strategies : List Strategy} {a : Assembled}
  {rs : List Route}

def withRoutes (c : Context) (rs : List Route) : Context := { c with routes := rs }

/-! ### Selections of routes -/

theorem nodup_declaredIds_of_subperm {routes : List Route} (chosen : rs.Subperm routes)
    (distinct : (declaredIds routes).Nodup) : (declaredIds rs).Nodup := by
  obtain ⟨picked, order, kept⟩ := chosen
  have fewer : (declaredIds picked).Nodup := distinct.sublist ((kept.map _).filter _)
  exact ((order.map _).filter _).nodup_iff.mp fewer

theorem WellFormed.withRoutes (formed : c.WellFormed) (chosen : rs.Subperm c.routes) :
    (c.withRoutes rs).WellFormed :=
  { formed with
    routes_without_proxy := fun r hr => formed.routes_without_proxy r (chosen.subset hr)
    distinct_ids := nodup_declaredIds_of_subperm chosen formed.distinct_ids
    routes_named := fun r hr => formed.routes_named r (chosen.subset hr) }

def selected (c : Context) (registry : Registry) (strategies : List Strategy)
    (a : Assembled) (rs : List Route) : Assembled :=
  { a with
    routes := rs.map fun r => (c.weave registry strategies r).route
    reports := rs.map fun r => (c.weave registry strategies r).report
    findings := (c.withRoutes rs).findings }

/-- A pass over a selection of named routes finds and makes the same, as far as it goes. -/
theorem Completes.withRoutes (done : c.Completes registry strategies a)
    (named : ∀ r ∈ c.routes, r.id ≠ "") (chosen : rs.Subperm c.routes) :
    (c.withRoutes rs).Completes registry strategies (c.selected registry strategies a rs) := by
  have listed (r : Route) (hr : r ∈ rs) : r ∈ assignIds c.routes :=
    mem_assignIds_of_named (chosen.subset hr) (named r (chosen.subset hr))
  have kept : assignIds (c.withRoutes rs).routes = rs :=
    assignIds_of_named fun r hr => named r (chosen.subset hr)
  exact {
    valid := valid_iff_wellFormed.mpr ((valid_iff_wellFormed.mp done.valid).withRoutes chosen)
    handler := done.handler
    discovered := done.discovered
    succeeds := by
      rw [kept]
      exact fun r hr => done.succeeds r (listed r hr)
    id := done.id
    routes := by rw [kept]; rfl
    reports := by rw [kept]; rfl
    findings := rfl }

/-! ### Two passes over one route -/

/-- Two contexts that differ in their routes only make the same of a route that both declare. -/
theorem Completes.found_eq {b : Assembled} {others : List Strategy}
    (first : c.Completes registry strategies a)
    (second : (c.withRoutes rs).Completes registry others b) {r : Route} (named : r.id ≠ "")
    (declared : r ∈ c.routes) (listed : r ∈ rs) :
    b.route? r.id = a.route? r.id ∧ b.report? r.id = a.report? r.id := by
  have same : strategies = others := by
    have found := first.discovered.symm.trans second.discovered
    exact Except.ok.inj found
  subst same
  obtain ⟨route_a, report_a⟩ := first.found_of_mem (mem_assignIds_of_named declared named)
  obtain ⟨route_b, report_b⟩ := second.found_of_mem (mem_assignIds_of_named listed named)
  exact ⟨route_b.trans route_a.symm, report_b.trans report_a.symm⟩

/-- Routes are assembled independently. Where all routes of a context are named and the context is
assembled, so is the context with any of its routes, in any order. Each route then and its report are
the ones found under its id in the whole context. The same holds of any other routes next to it with
which the context is assembled. -/
theorem assemble_selection (c : Context) (parents : List Bindings) {a : Assembled}
    (named : ∀ r ∈ c.routes, r.id ≠ "") (assembled : (c.assemble parents).outcome = .ok a) :
    (∀ rs, rs.Subperm c.routes → ∃ b, ((c.withRoutes rs).assemble parents).outcome = .ok b ∧
      b.routes.map Route.id = rs.map Route.id ∧ b.reports.map Report.route = rs.map Route.id ∧
      b.routes.map some = rs.map (fun r => a.route? r.id) ∧
      b.reports.map some = rs.map fun r => a.report? r.id) ∧
    ∀ rs b, ((c.withRoutes rs).assemble parents).outcome = .ok b → ∀ r ∈ c.routes, r ∈ rs →
      b.route? r.id = a.route? r.id ∧ b.report? r.id = a.report? r.id := by
  obtain ⟨strategies, done⟩ := assembled_iff.mp assembled
  constructor
  · intro rs chosen
    have part := done.withRoutes named chosen
    have found (r : Route) (hr : r ∈ rs) :=
      done.found_of_mem (mem_assignIds_of_named (chosen.subset hr) (named r (chosen.subset hr)))
    have ids : (c.selected (c.registry parents) strategies a rs).routes.map Route.id =
        rs.map Route.id := by
      rw [selected, List.map_map]
      rfl
    refine ⟨_, part.assembled, ids, part.report_ids.trans ids, ?_, ?_⟩
    · rw [selected, List.map_map]
      exact List.map_congr_left fun r hr => (found r hr).1.symm
    · rw [selected, List.map_map]
      exact List.map_congr_left fun r hr => (found r hr).2.symm
  · intro rs b assembled_too r hr listed
    obtain ⟨others, done_too⟩ := assembled_iff.mp assembled_too
    exact done.found_eq done_too (named r hr) hr listed

/-- Of three routes the last and the first are chosen, in that order, and then the last is put behind
an unnamed one. The intercept asks for a bean, and one of the routes has a clause of its own. -/
theorem assemble_selection_reversed :
    let audit : Intercept :=
      ⟨"audit", [⟨"log", none, some "Logger"⟩], [Node.step "bean:${log}", Node.marker], .empty⟩
    let orders : Route := ⟨"orders", [Node.step "direct:in"]⟩
    let bills : Route := ⟨"bills", [⟨.onException ["IoError"] true, none, []⟩]⟩
    let mail : Route := ⟨"mail", [Node.step "direct:mail", Node.step "direct:sent"]⟩
    let c : Context :=
      { Context.standard with
        beans := .ofList [("file", "Logger")]
        clauses := [⟨["Timeout"], false, []⟩]
        intercepts := [audit]
        routes := [orders, bills, mail]
        trace := some true }
    let unnamed : Route := ⟨"", [Node.step "direct:spam"]⟩
    ∃ a b d, (c.assemble []).outcome = .ok a ∧
      ((c.withRoutes [mail, orders]).assemble []).outcome = .ok b ∧
      ((c.withRoutes [unnamed, mail]).assemble []).outcome = .ok d ∧
      (∀ r ∈ c.routes, r.id ≠ "") ∧ [mail, orders].Subperm c.routes ∧
      b.routes.map Route.id = ["mail", "orders"] ∧
      b.routes.map some = [a.route? "mail", a.route? "orders"] ∧
      b.reports.map some = [a.report? "mail", a.report? "orders"] ∧
      d.route? "mail" = a.route? "mail" ∧ d.report? "mail" = a.report? "mail" := by
  intro audit orders bills mail c unnamed
  have named : ∀ r ∈ c.routes, r.id ≠ "" := by decide
  have chosen : [mail, orders].Subperm c.routes :=
    ⟨[orders, mail], .swap mail orders [], .cons_cons orders (.cons bills (.refl [mail]))⟩
  have ids : ((c.assemble []).outcome.map fun a => a.id) = .ok "routeweave" := by decide
  have other_ids : (((c.withRoutes [unnamed, mail]).assemble []).outcome.map fun d => d.id) =
      .ok "routeweave" := by decide
  obtain ⟨a, assembled, -⟩ := map_eq_ok_iff.mp ids
  obtain ⟨d, assembled_too, -⟩ := map_eq_ok_iff.mp other_ids
  obtain ⟨selections, shared⟩ := assemble_selection c [] named assembled
  obtain ⟨b, selected, route_ids, -, routes, reports⟩ := selections [mail, orders] chosen
  obtain ⟨same_route, same_report⟩ :=
    shared [unnamed, mail] d assembled_too mail (by decide) (by decide)
  exact ⟨a, b, d, assembled, selected, assembled_too, named, chosen, route_ids, routes, reports,
    same_route, same_report⟩

end RouteLoom.Context
