import RouteLoom.Proofs.Assembly.Proxies

/-!
# What was assembled is not assembled again

All routes of a pass get the same number of layers, and the proxy of the last layer stands at the
top level of its route even where it dropped what it wrapped. A context that lists such a route as
one of its own declares a proxy, which is an error under either policy.
-/

namespace RouteLoom

open Interceptor

theorem Forest.any_of_mem {p : Node → Bool} {f : Forest} {n : Node} (hn : n ∈ f)
    (holds : p n = true) : any p f = true := by
  refine List.any_eq_true.mpr ⟨n, ?_, holds⟩
  rw [preorder_eq_flatMap]
  exact List.mem_flatMap.mpr ⟨n, hn, by rw [Node.preorder_eq]; exact List.mem_cons_self⟩

/-! ### The outermost proxy -/

namespace Weaver

variable {ι : Type} [Interceptor ι] {w : Weaver} {r : Route} {is : List ι}

theorem length_layers_of_succeeds (succeeds : (w.run r is).fault = none) :
    (w.run r is).report.layers.length = is.length := by
  rw [length_layers, length_applied_of_succeeds succeeds]

theorem any_isProxy_run (layered : (w.run r is).report.layers ≠ []) :
    Forest.any Node.isProxy (w.run r is).route.outputs = true := by
  rw [outputs_run]
  rcases List.eq_nil_or_concat' (w.run r is).applied with none | ⟨inner, last, split⟩
  · refine absurd (List.length_eq_zero_iff.mp ?_) layered
    rw [length_layers, none, List.length_nil]
  · rw [split, tower_concat]
    have outermost : (around last (tower (w.own r) inner)).isProxy = true := by
      rw [Node.isProxy_eq, kind_around]
      rfl
    exact Forest.any_of_mem (List.mem_append_right _ (List.mem_singleton_self _)) outermost

end Weaver

/-! ### Contexts -/

namespace Context

variable {c d : Context} {parents : List Bindings} {a : Assembled} {route : Route} {report : Report}

/-- If one route of a pass has a layer, there is a proxy in each of them. -/
theorem any_isProxy_of_assembled (assembled : (c.assemble parents).outcome = .ok a)
    (hreport : report ∈ a.reports) (layered : report.layers ≠ []) (hroute : route ∈ a.routes) :
    Forest.any Node.isProxy route.outputs = true := by
  obtain ⟨-, strategies, succeeds, routes, reports⟩ := woven_of_assembled assembled
  rw [reports] at hreport
  rw [routes] at hroute
  obtain ⟨r', hr', rfl⟩ := List.mem_map.mp hreport
  obtain ⟨r, hr, rfl⟩ := List.mem_map.mp hroute
  refine Weaver.any_isProxy_run fun none => layered ?_
  have here := Weaver.length_layers_of_succeeds (succeeds r hr)
  have there := Weaver.length_layers_of_succeeds (succeeds r' hr')
  rw [← List.length_eq_zero_iff] at none ⊢
  exact there.trans (here.symm.trans none)

theorem exists_declaredProxy (listed : route ∈ d.routes)
    (woven : Forest.any Node.isProxy route.outputs = true) :
    ∃ f ∈ d.findings, f.rule = .declaredProxy ∧ f.severity = .error ∧ f.route = some route.id := by
  have reported : route ∈ d.routes.filter fun r => Forest.any Node.isProxy r.outputs :=
    List.mem_filter.mpr ⟨listed, woven⟩
  have rule : Rule.declaredProxy ∈ Rule.all := by decide
  exact ⟨_, List.mem_flatMap.mpr ⟨.declaredProxy, rule,
    List.mem_append_left _ (List.mem_map_of_mem reported)⟩, rfl, rfl, rfl⟩

theorem assemble_of_not_valid (invalid : ¬ d.Valid) (parents : List Bindings) :
    ∃ text, d.assemble parents = ⟨[], .error (.validation text)⟩ := by
  cases checked : d.validate with
  | ok findings => exact absurd (validate_eq_ok_iff.mp checked).1 invalid
  | error f =>
    have ended : d.assemble parents = ⟨[], .error f⟩ := by
      rw [assemble]
      dsimp only
      rw [settle_eq_error_iff.mpr (.inl checked)]
    obtain ⟨e, -, -, rfl⟩ := validate_eq_error_iff.mp checked
    exact ⟨_, ended⟩

/-- Any route of a pass with at least one layer keeps every context that lists it from being assembled:
the proxy in it is found, whatever else the context has and under whatever policy and parents, and
the pass ends before the first event. -/
theorem assemble_of_assembled (c : Context) (parents : List Bindings) {a : Assembled}
    (assembled : (c.assemble parents).outcome = .ok a) {report : Report}
    (hreport : report ∈ a.reports) (layered : report.layers ≠ []) {route : Route}
    (hroute : route ∈ a.routes) (d : Context) (listed : route ∈ d.routes) (others : List Bindings) :
    (∃ f ∈ d.findings, f.rule = .declaredProxy ∧ f.severity = .error ∧ f.route = some route.id) ∧
      ∃ text, d.assemble others = ⟨[], .error (.validation text)⟩ := by
  have woven := any_isProxy_of_assembled assembled hreport layered hroute
  have found := exists_declaredProxy listed woven
  refine ⟨found, assemble_of_not_valid (fun valid => ?_) others⟩
  obtain ⟨f, hf, -, severe, -⟩ := found
  exact valid f hf severe

/-- A proxy without a marker has dropped all that the route had, and it still keeps a lenient context
from being assembled that has the route beside another one. -/
theorem assemble_of_assembled_mute :
    let mute : Intercept := ⟨"mute", [], [Node.step "log:mute"], .empty⟩
    let c : Context :=
      { Context.standard with
        intercepts := [mute]
        routes := [⟨"", [Node.step "direct:in"]⟩, ⟨"orders", [Node.step "direct:out"]⟩]
        options := .lenient }
    let woven : Route := ⟨"orders", [Node.proxy "mute" [Node.step "log:mute"]]⟩
    let d : Context :=
      { Context.standard with
        id := "again"
        routes := [⟨"audit", [Node.step "direct:audit"]⟩, woven]
        options := .lenient }
    let others : List Bindings := [.ofList [("file", "Logger")]]
    ∃ a report, (c.assemble []).outcome = .ok a ∧ report ∈ a.reports ∧ report.layers ≠ [] ∧
      woven ∈ a.routes ∧ woven ∈ d.routes ∧
      (∃ f ∈ d.findings, f.rule = .declaredProxy ∧ f.severity = .error ∧ f.route = some woven.id) ∧
      ∃ text, d.assemble others = ⟨[], .error (.validation text)⟩ := by
  intro mute c woven d others
  let layer : Layer := ⟨"mute", none, 1, 1⟩
  let report : Report := ⟨"orders", 0, [layer], .empty⟩
  have made : ((c.assemble []).outcome.map fun a => (a.routes[1]?, a.reports[1]?)) =
      .ok (some woven, some report) := by decide +kernel
  obtain ⟨a, assembled, same⟩ := map_eq_ok_iff.mp made
  obtain ⟨hroute, hreport⟩ := Prod.mk.inj same
  have of_reports : report ∈ a.reports := List.mem_of_getElem? hreport
  have of_routes : woven ∈ a.routes := List.mem_of_getElem? hroute
  have listed : woven ∈ d.routes := by decide
  have layered : report.layers ≠ [] := by decide
  exact ⟨a, report, assembled, of_reports, layered, of_routes, listed,
    assemble_of_assembled c [] assembled of_reports layered of_routes d listed others⟩

end Context

end RouteLoom
