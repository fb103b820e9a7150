import RouteLoom.Proofs.Assembly.Pass
import RouteLoom.Proofs.Interception.Discovery
import RouteLoom.Proofs.Interception.Template

/-!
# What an observer is told

The events of a pass follow a grammar. `LayersTold` and `RoutesTold` read the events of layers and
of routes against a pass's reports, and `Told` those of a whole pass against its outcome.
-/

namespace RouteLoom

/-! ### The grammar -/

/-- Every layer is told as applied, and right after that as dropping, if it drops anything. -/
inductive LayersTold (route : String) : List Layer → List Event → Prop
  | nil : LayersTold route [] []
  | whole {l : Layer} {ls : List Layer} {es : List Event} (kept : l.dropped = 0)
      (rest : LayersTold route ls es) :
      LayersTold route (l :: ls) (.applied route l.intercept l.wrapped :: es)
  | lossy {l : Layer} {ls : List Layer} {es : List Event} (lost : 0 < l.dropped)
      (rest : LayersTold route ls es) :
      LayersTold route (l :: ls)
        (.applied route l.intercept l.wrapped :: .dropped route l.intercept l.dropped :: es)

/-- Woven routes are told in order, each after its layers, which are those of the named
interceptors. -/
inductive RoutesTold (names : List String) : List Route → List Report → List Event → Prop
  | nil : RoutesTold names [] [] []
  | cons {r : Route} {report : Report} {rs : List Route} {reports : List Report}
      {front back : List Event} (about : report.route = r.id)
      (clauses : report.clauses = r.outputs.countP Node.isClause)
      (layers : report.layers.map Layer.intercept = names)
      (applied : LayersTold r.id report.layers front)
      (rest : RoutesTold names rs reports back) :
      RoutesTold names (r :: rs) (report :: reports)
        (front ++ .woven r.id report.clauses report.layers.length :: back)

namespace Context

/-- The names of the interceptors of a context, innermost first. -/
def interceptorNames (c : Context) (registry : Registry) : List String :=
  (Strategy.chosen registry c.trace c.delay).map Strategy.name ++
    c.intercepts.map Intercept.id

/-- A pass that does not come to its first route tells nothing. Any other is told as started, and
then either that the first route failed, or that all routes were woven. -/
inductive Told (c : Context) (registry : Registry) : Pass → Prop
  | unsettled {f : Fault} (unsettled : c.settle registry = .error f) : Told c registry ⟨[], .error f⟩
  | failed {r : Route} {cause : Fault} (settled : ∃ found, c.settle registry = .ok found)
      (first : (assignIds c.routes).head? = some r) :
      Told c registry
        ⟨[.started c.id c.routes.length (c.interceptorNames registry).length, .failed r.id cause.message],
          .error (.assembly r.id cause)⟩
  | completed {a : Assembled} {events : List Event}
      (settled : ∃ found, c.settle registry = .ok found)
      (ids : a.routes.map Route.id = (assignIds c.routes).map Route.id)
      (woven : RoutesTold (c.interceptorNames registry) a.routes a.reports events) :
      Told c registry
        ⟨.started c.id c.routes.length (c.interceptorNames registry).length :: events ++
            [.completed c.id c.routes.length],
          .ok a⟩

end Context

/-! ### Reading events -/

theorem LayersTold.mem {route : String} {ls : List Layer} {es : List Event}
    (told : LayersTold route ls es) {e : Event} (he : e ∈ es) :
    ∃ intercept count, e = .applied route intercept count ∨ e = .dropped route intercept count := by
  induction told with
  | nil => cases he
  | whole kept rest ih =>
    rcases List.mem_cons.mp he with rfl | he
    · exact ⟨_, _, .inl rfl⟩
    · exact ih he
  | lossy lost rest ih =>
    rcases List.mem_cons.mp he with rfl | he
    · exact ⟨_, _, .inl rfl⟩
    · rcases List.mem_cons.mp he with rfl | he
      · exact ⟨_, _, .inr rfl⟩
      · exact ih he

theorem RoutesTold.mem {names : List String} {rs : List Route} {reports : List Report}
    {es : List Event} (told : RoutesTold names rs reports es) {e : Event} (he : e ∈ es) :
    ∃ route, (∃ intercept count,
      e = .applied route intercept count ∨ e = .dropped route intercept count) ∨
      ∃ clauses, e = .woven route clauses names.length := by
  induction told with
  | nil => cases he
  | @cons r report rs reports front back about clauses layers applied rest ih =>
    rcases List.mem_append.mp he with he | he
    · exact ⟨r.id, .inl (applied.mem he)⟩
    · rcases List.mem_cons.mp he with rfl | he
      · rw [← layers, List.length_map]
        exact ⟨r.id, .inr ⟨_, rfl⟩⟩
      · exact ih he

theorem RoutesTold.layers_of_mem {names : List String} {rs : List Route} {reports : List Report}
    {es : List Event} (told : RoutesTold names rs reports es) {report : Report}
    (hr : report ∈ reports) : report.layers.map Layer.intercept = names := by
  induction told with
  | nil => cases hr
  | cons about clauses layers applied rest ih =>
    rcases List.mem_cons.mp hr with rfl | later
    · exact layers
    · exact ih later

namespace Context

variable {c : Context} {registry : Registry} {pass : Pass}

/-- A failure is the last event, and no route was woven before it. -/
theorem Told.of_failed (told : Told c registry pass) {front back : List Event}
    {route message : String} (split : pass.events = front ++ .failed route message :: back) :
    back = [] ∧ ∀ r clauses layers, .woven r clauses layers ∉ front := by
  have told_failed : .failed route message ∈ pass.events := by
    rw [split]
    simp
  cases told with
  | unsettled => cases told_failed
  | failed settled first =>
    cases front with
    | nil => simp at split
    | cons started front =>
      cases front with
      | nil =>
        obtain ⟨rfl, -, rfl⟩ : _ = started ∧ _ ∧ back = [] := by simpa using split
        simp
      | cons e front => simp at split
  | completed settled ids woven =>
    have between := told_failed
    simp only [List.cons_append, List.mem_cons, List.mem_append, List.not_mem_nil, or_false,
      reduceCtorEq, false_or] at between
    obtain ⟨_, ⟨_, _, h | h⟩ | ⟨_, h⟩⟩ := woven.mem between <;> cases h

theorem Told.layers_of_woven (told : Told c registry pass) {context route : String}
    {routes intercepts clauses layers : Nat}
    (started : .started context routes intercepts ∈ pass.events)
    (woven : .woven route clauses layers ∈ pass.events) : layers = intercepts := by
  cases told with
  | unsettled => cases started
  | failed settled first => simp at woven
  | completed settled ids told =>
    simp only [List.cons_append, List.mem_cons, List.mem_append, List.not_mem_nil, or_false,
      reduceCtorEq, false_or, Event.started.injEq] at started woven
    have layered : layers = (c.interceptorNames registry).length := by
      obtain ⟨_, ⟨_, _, h | h⟩ | ⟨_, h⟩⟩ := told.mem woven <;> cases h
      rfl
    rcases started with ⟨-, -, announced⟩ | between
    · rw [layered, announced]
    · obtain ⟨_, ⟨_, _, h | h⟩ | ⟨_, h⟩⟩ := told.mem between <;> cases h

theorem Told.layers_of_ok (told : Told c registry pass) {a : Assembled}
    (assembled : pass.outcome = .ok a) {report : Report} (hr : report ∈ a.reports) :
    report.layers.map Layer.intercept = c.interceptorNames registry := by
  cases told with
  | unsettled => cases assembled
  | failed settled first => cases assembled
  | completed settled ids woven =>
    cases assembled
    exact woven.layers_of_mem hr

end Context

/-! ### Telling -/

namespace Interception

theorem names_of_accepted {w : Weaver} {route : String} {is ps : List Interception}
    (accepted : List.Forall₂ (fun i p => w.accept route i = .ok p) is ps) :
    ps.map Interceptor.name = is.map Interceptor.name := by
  induction accepted with
  | nil => rfl
  | cons hp _ ih =>
    have same := (template_of_prepare (Weaver.accept_eq_ok_iff.mp hp).1).1
    rw [List.map_cons, List.map_cons, same, ih]

end Interception

theorem Weaver.intercepts_of_succeeds {w : Weaver} {r : Route} {is : List Interception}
    (succeeds : (w.run r is).fault = none) :
    (w.run r is).report.layers.map Layer.intercept = is.map Interceptor.name := by
  rw [intercepts_run, Interception.names_of_accepted (accepted_of_succeeds succeeds).1]

theorem layersTold_layerEvents (route : String) (ls : List Layer) :
    LayersTold route ls (ls.flatMap (layerEvents route)) := by
  induction ls with
  | nil => exact .nil
  | cons l ls ih =>
    rw [List.flatMap_cons, layerEvents]
    split
    next lost => exact .lossy lost ih
    next kept => exact .whole (Nat.eq_zero_of_not_pos kept) ih

namespace Context

variable {c : Context} {registry : Registry} {strategies : List Strategy}

theorem names_interceptors
    (discovered : Strategy.discover registry c.trace c.delay = .ok strategies) :
    (c.interceptors strategies).map Interceptor.name = c.interceptorNames registry := by
  rw [interceptors, interceptorNames, ← Strategy.eq_chosen_of_discover discovered,
    List.map_append, List.map_map, List.map_map]
  rfl

theorem length_interceptors
    (discovered : Strategy.discover registry c.trace c.delay = .ok strategies) :
    (c.interceptors strategies).length = (c.interceptorNames registry).length := by
  rw [← names_interceptors discovered, List.length_map]

theorem routesTold_weave (discovered : Strategy.discover registry c.trace c.delay = .ok strategies)
    {routes : List Route} (succeeds : ∀ r ∈ routes, (c.weave registry strategies r).fault = none) :
    RoutesTold (c.interceptorNames registry)
      (routes.map fun r => (c.weave registry strategies r).route)
      (routes.map fun r => (c.weave registry strategies r).report)
      (routes.flatMap fun r => reportEvents (c.weave registry strategies r).report) := by
  induction routes with
  | nil => exact .nil
  | cons r routes ih =>
    obtain ⟨first, others⟩ := List.forall_mem_cons.mp succeeds
    have clauses : (c.weave registry strategies r).report.clauses =
        (c.weave registry strategies r).route.outputs.countP Node.isClause := by
      rw [weave, Weaver.clauses_run, List.countP_eq_length_filter,
        ((c.weaver registry).filter_isClause_run r _).1]
    have layers := (Weaver.intercepts_of_succeeds first).trans (names_interceptors discovered)
    rw [List.map_cons, List.map_cons, List.flatMap_cons, reportEvents, List.append_assoc]
    exact .cons rfl clauses layers (layersTold_layerEvents _ _) (ih others)

theorem told_assemble (c : Context) (parents : List Bindings) :
    Told c (c.registry parents) (c.assemble parents) := by
  have ends := c.ends_assemble parents
  generalize c.assemble parents = pass at ends
  cases ends with
  | unsettled settled => exact .unsettled settled
  | failed settled routes fault =>
    rw [length_interceptors (settle_eq_ok_iff.mp settled).2.2.2]
    exact .failed ⟨_, settled⟩ (by rw [routes, List.head?_cons])
  | completed settled succeeds =>
    have discovered := (settle_eq_ok_iff.mp settled).2.2.2
    rw [length_interceptors discovered]
    refine .completed ⟨_, settled⟩ ?_ (routesTold_weave discovered succeeds)
    rw [List.map_map]
    rfl

/-- A pass is told by the grammar. So a failure is the last event and follows no woven route, and
every woven route has as many layers as were announced, one for each interceptor of the context. -/
theorem assemble_told (c : Context) (parents : List Bindings) :
    Told c (c.registry parents) (c.assemble parents) ∧
      (∀ front back route message,
        (c.assemble parents).events = front ++ .failed route message :: back →
          back = [] ∧ ∀ r clauses layers, .woven r clauses layers ∉ front) ∧
      (∀ context routes intercepts,
        .started context routes intercepts ∈ (c.assemble parents).events →
          ∀ route clauses layers, .woven route clauses layers ∈ (c.assemble parents).events →
            layers = intercepts) ∧
      ∀ a, (c.assemble parents).outcome = .ok a → ∀ report ∈ a.reports,
        report.layers.map Layer.intercept = c.interceptorNames (c.registry parents) := by
  have told := told_assemble c parents
  exact ⟨told, fun _ _ _ _ split => told.of_failed split,
    fun _ _ _ started _ _ _ woven => told.layers_of_woven started woven,
    fun _ assembled _ hr => told.layers_of_ok assembled hr⟩

/-- A lenient pass in which an intercept without a marker loses the proxy of the tracer, and a pass
that ends at the first of its routes. -/
theorem assemble_told_mute :
    let c : Context :=
      { Context.standard with
        intercepts := [⟨"mute", [], [Node.step "log:mute"], .empty⟩]
        routes := [⟨"orders", [Node.step "direct:in", Node.step "direct:out"]⟩]
        options := .lenient
        trace := some true }
    let audit : Intercept := ⟨"audit", [⟨"log", some "logger", none⟩], [Node.marker], .empty⟩
    let d : Context := { c with intercepts := [audit], routes := ⟨"", [Node.marker]⟩ :: c.routes }
    (Told c (c.registry []) (c.assemble []) ∧
      c.interceptorNames (c.registry []) = ["tracer", "mute"] ∧
      (c.assemble []).events =
        [.started "routeweave" 1 2, .applied "orders" "tracer" 2, .applied "orders" "mute" 1,
          .dropped "orders" "mute" 1, .woven "orders" 0 2, .completed "routeweave" 1]) ∧
    Told d (d.registry []) (d.assemble []) ∧
      (d.assemble []).events =
        [.started "routeweave" 2 2, .failed "route1"
          "Intercept 'audit' could not be prepared: No bean found for name 'logger'"] := by
  intro c audit d
  refine ⟨⟨(assemble_told c []).1, ?_, ?_⟩, (assemble_told d []).1, ?_⟩
  · decide
  · decide
  · decide

end Context

end RouteLoom
