import RouteLoom.Proofs.Assembly.Pass
import RouteLoom.Proofs.Weaving.InsertionPoints

/-!
# Finding a route and its report

An assembled context is asked for a route, or for a report, by an id, and answers with the first
that has it. The declared ids are distinct, because a context in which they are not is not valid,
and the ids that unnamed routes are given collide with none.
-/

namespace RouteLoom

/-- What stands at the place `k` of an assembled context: the route that a declared route has become,
and its report, each of them found by the route's id, and the report's points lead to markers of the
route. -/
structure Assembled.Entry (a : Assembled) (k : Nat) (declared route : Route) (report : Report) :
    Prop where
  route_at : a.routes[k]? = some route
  report_at : a.reports[k]? = some report
  named : route.id ≠ ""
  kept : declared.id ≠ "" → route.id = declared.id
  reported : report.route = route.id
  route_found : a.route? route.id = some route
  report_found : a.report? route.id = some report
  points_lead : ∀ p ∈ report.points.bottomUp, ∃ n, route.at? p = some n ∧ n.isMarker = true

namespace Context

variable {c : Context} {registry : Registry} {strategies : List Strategy} {a : Assembled}

namespace Completes

theorem route_ids (done : c.Completes registry strategies a) :
    a.routes.map Route.id = (assignIds c.routes).map Route.id := by
  rw [done.routes, List.map_map]
  rfl

theorem report_ids (done : c.Completes registry strategies a) :
    a.reports.map Report.route = a.routes.map Route.id := by
  rw [done.route_ids, done.reports, List.map_map]
  rfl

theorem nodup_route_ids (done : c.Completes registry strategies a) :
    (a.routes.map Route.id).Nodup := by
  rw [done.route_ids]
  exact nodup_assignIds (valid_iff_wellFormed.mp done.valid).distinct_ids

theorem lengths (done : c.Completes registry strategies a) :
    a.routes.length = c.routes.length ∧ a.reports.length = c.routes.length := by
  rw [done.routes, done.reports, List.length_map, List.length_map, length_assignIds]
  exact ⟨rfl, rfl⟩

/-- What is found under the id that a route was given is that route, woven, and its report. -/
theorem found_of_mem (done : c.Completes registry strategies a) {r : Route}
    (hr : r ∈ assignIds c.routes) :
    a.route? r.id = some (c.weave registry strategies r).route ∧
      a.report? r.id = some (c.weave registry strategies r).report := by
  have route : (c.weave registry strategies r).route ∈ a.routes :=
    done.routes ▸ List.mem_map_of_mem hr
  have report : (c.weave registry strategies r).report ∈ a.reports :=
    done.reports ▸ List.mem_map_of_mem hr
  have distinct := done.nodup_route_ids
  exact ⟨find?_of_nodup distinct route, find?_of_nodup (done.report_ids ▸ distinct) report⟩

theorem exists_entry (done : c.Completes registry strategies a) {k : Nat} {declared : Route}
    (hk : c.routes[k]? = some declared) :
    ∃ route report, a.Entry k declared route report ∧
      let woven := c.weave registry strategies { declared with id := route.id }
      woven.fault = none ∧ route = woven.route ∧ report = woven.report := by
  let given : Route := { declared with id := assignedId (declaredIds c.routes) declared k }
  have assigned : (assignIds c.routes)[k]? = some given := by
    rw [getElem?_assignIds, hk]
    rfl
  have listed := List.mem_of_getElem? assigned
  obtain ⟨route_found, report_found⟩ := done.found_of_mem listed
  let woven := c.weave registry strategies given
  refine ⟨woven.route, woven.report, ?_, done.succeeds given listed, rfl, rfl⟩
  exact {
    route_at := by rw [done.routes, List.getElem?_map, assigned, Option.map_some]
    report_at := by rw [done.reports, List.getElem?_map, assigned, Option.map_some]
    named := assignedId_ne_empty _ declared k
    kept := fun named => assignedId_of_named named k
    reported := rfl
    route_found
    report_found
    points_lead := fun _ => Weaver.exists_marker_of_mem_points }

end Completes

/-- An assembled context has a route and a report for each declared route, in the order of their
declaration and with distinct ids. Each route was woven from the one declared at its place, and it and
its report are what is found under its id. -/
theorem assemble_addressable (c : Context) (parents : List Bindings) {a : Assembled}
    (assembled : (c.assemble parents).outcome = .ok a) :
    a.routes.length = c.routes.length ∧ a.reports.length = c.routes.length ∧
    (a.routes.map Route.id).Nodup ∧
    ∃ strategies, Strategy.discover (c.registry parents) c.trace c.delay = .ok strategies ∧
      ∀ k declared, c.routes[k]? = some declared →
        ∃ route report, a.Entry k declared route report ∧
          let woven := c.weave (c.registry parents) strategies { declared with id := route.id }
          woven.fault = none ∧ route = woven.route ∧ report = woven.report := by
  obtain ⟨strategies, done⟩ := assembled_iff.mp assembled
  exact ⟨done.lengths.1, done.lengths.2, done.nodup_route_ids, strategies, done.discovered,
    fun _ _ hk => done.exists_entry hk⟩

/-- The first of three routes is unnamed, and the others have the names that it would have got. -/
theorem assemble_addressable_padded :
    let audit : Intercept :=
      ⟨"audit", [⟨"log", none, some "Logger"⟩], [Node.step "bean:${log}", Node.marker], .empty⟩
    let c : Context :=
      { Context.standard with
        beans := .ofList [("file", "Logger")]
        intercepts := [audit]
        routes := [⟨"", [Node.step "direct:in"]⟩, ⟨"route1", [Node.step "direct:out"]⟩, ⟨"route1_", []⟩] }
    ∃ a, (c.assemble []).outcome = .ok a ∧
      a.routes.map Route.id = ["route1__", "route1", "route1_"] ∧
      ∃ route report, a.Entry 0 ⟨"", [Node.step "direct:in"]⟩ route report ∧
        report.points.bottomUp = [[0, 1]] := by
  intro audit c
  have found : ((c.assemble []).outcome.map fun a =>
      (a.routes.map Route.id, a.reports.map fun r => r.points.bottomUp)) =
      .ok (["route1__", "route1", "route1_"], [[[0, 1]], [[0, 1]], [[0, 1]]]) := by
    decide
  obtain ⟨a, assembled, shown⟩ := map_eq_ok_iff.mp found
  obtain ⟨ids, points⟩ := Prod.mk.inj shown
  obtain ⟨-, -, -, strategies, -, entries⟩ := assemble_addressable c [] assembled
  obtain ⟨route, report, entry, -⟩ := entries 0 _ rfl
  have first := congrArg (·[0]?) points
  rw [List.getElem?_map, entry.report_at] at first
  exact ⟨a, assembled, ids, route, report, entry, Option.some.inj first⟩

end Context

end RouteLoom
