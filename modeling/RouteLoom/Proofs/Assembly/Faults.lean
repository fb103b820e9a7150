import RouteLoom.Proofs.Assembly.Pass
import RouteLoom.Proofs.Context.Validity
import RouteLoom.Proofs.Interception.Discovery
import RouteLoom.Proofs.Interception.Preparation
import RouteLoom.Proofs.Interception.Template
import RouteLoom.Proofs.Weaving.Strict

/-!
# Why a context is not assembled

Four things keep a context from being assembled: an error among its findings, an error handler that
no level has, an ambiguous type of a built-in strategy, and a declared intercept whose requirement
is not met. They are met in this order, and the first of them gives the fault.
-/

namespace RouteLoom

/-! ### Before the first route -/

namespace Context

variable {c : Context} {registry : Registry} {f : Fault}

/-- If a context wants an error handler, some level has it. -/
def Handled (c : Context) (registry : Registry) : Prop :=
  ∀ name, c.errorHandler = some name → ¬ registry.LacksName name

theorem handler_eq_error_iff : c.errorHandler.mapM registry.lookupName = .error f ↔
    ∃ name, c.errorHandler = some name ∧ registry.LacksName name ∧
      f = .dependencyNotFound ("name '" ++ name ++ "'") := by
  cases c.errorHandler with
  | none => simp [pure, Except.pure]
  | some name =>
    simp only [Option.some.injEq, exists_eq_left', ← Registry.lookupName_eq_error_iff]
    change (some <$> registry.lookupName name) = .error f ↔ _
    cases registry.lookupName name with
    | error g => simp [Functor.map, Except.map]
    | ok bean => simp [Functor.map, Except.map]

theorem exists_handler_iff :
    (∃ handler, c.errorHandler.mapM registry.lookupName = .ok handler) ↔ c.Handled registry := by
  rw [exists_ok_iff]
  simp only [ne_eq, handler_eq_error_iff, Handled]
  exact ⟨fun h name wanted lacking => h _ ⟨name, wanted, lacking, rfl⟩,
    fun h f ⟨name, wanted, lacking, _⟩ => h name wanted lacking⟩

theorem settle_eq_error_iff : c.settle registry = .error f ↔
    c.validate = .error f ∨
    c.Valid ∧ (c.errorHandler.mapM registry.lookupName = .error f ∨
      c.Handled registry ∧ Strategy.discover registry c.trace c.delay = .error f) := by
  rw [settle]
  simp only [bind_eq_error_iff, validate_eq_ok_iff, ← exists_handler_iff]
  constructor
  · rintro (invalid | ⟨_, ⟨valid, -⟩, unhandled | ⟨handler, found, ambiguous | ⟨_, -, ⟨⟩⟩⟩⟩)
    · exact .inl invalid
    · exact .inr ⟨valid, .inl unhandled⟩
    · exact .inr ⟨valid, .inr ⟨⟨handler, found⟩, ambiguous⟩⟩
  · rintro (invalid | ⟨valid, unhandled | ⟨⟨handler, found⟩, ambiguous⟩⟩)
    · exact .inl invalid
    · exact .inr ⟨_, ⟨valid, rfl⟩, .inl unhandled⟩
    · exact .inr ⟨_, ⟨valid, rfl⟩, .inr ⟨handler, found, .inl ambiguous⟩⟩

end Context

/-! ### At the first route -/

namespace Weaver

variable {w : Weaver} {route : String} {f : Fault}

theorem accept_builtIn (w : Weaver) (route : String) (s : Strategy) :
    w.accept route (Interception.builtIn s) = .ok (.builtIn s) := by
  have found : (Interceptor.body (Interception.builtIn s)).firstMarker = some [1] := rfl
  refine accept_eq_ok_iff.mpr ⟨rfl, ?_⟩
  rintro ⟨-, none⟩
  rw [found] at none
  cases none

theorem fault_acceptance_builtIn (ss : List Strategy) (is : List Interception) :
    (w.acceptance route (ss.map .builtIn ++ is)).fault = (w.acceptance route is).fault := by
  induction ss with
  | nil => rfl
  | cons s ss ih =>
    rw [List.map_cons, List.cons_append, acceptance_cons_ok (accept_builtIn w route s), ih]

/-- Declared intercepts with markers are refused only for want of a bean, and the first such one
gives the fault. -/
theorem fault_acceptance_declared {is : List Intercept}
    (marked : w.options.missingProceed = .reject → ∀ i ∈ is,
      Forest.any Node.isMarker i.template = true) :
    (w.acceptance route (is.map Interception.declared)).fault = some f ↔
      ∃ i, IsFirst (fun j => ∃ p, j.prepare w.registry = .ok p) i is ∧
        i.prepare w.registry = .error f := by
  induction is with
  | nil => simp [acceptance, isFirst_nil]
  | cons i is ih =>
    have others := ih fun strict => (List.forall_mem_cons.mp (marked strict)).2
    rw [List.map_cons]
    cases hi : i.prepare w.registry with
    | error g =>
      have refused : w.accept route (Interception.declared i) = .error (g, .declared i) :=
        accept_eq_error_iff.mpr (.inl ⟨by rw [Interception.prepare_declared, hi]; rfl, rfl⟩)
      rw [acceptance_cons_error refused]
      simp [isFirst_cons, hi]
    | ok p =>
      have accepted : w.accept route (Interception.declared i) = .ok (.declared p) := by
        refine accept_eq_ok_iff.mpr ⟨by rw [Interception.prepare_declared, hi]; rfl, ?_⟩
        rintro ⟨strict, none⟩
        have declared := (List.forall_mem_cons.mp (marked strict)).1
        obtain ⟨a, found⟩ := Forest.exists_firstMarker_of_any declared
        rw [Interception.firstMarker_body, Interception.template,
          (Intercept.template_of_prepare hi).2, found] at none
        cases none
      rw [acceptance_cons_ok accepted]
      simp [isFirst_cons, hi, others]

end Weaver

namespace Context

variable {c : Context} {registry : Registry} {f : Fault}

/-- A valid context's routes cannot be woven only if a declared intercept's requirement is not met. -/
theorem fault_weave_iff (valid : c.Valid) (strategies : List Strategy) (r : Route) :
    (c.weave registry strategies r).fault = some f ↔
      ∃ i g, IsFirst (fun j => ∀ h, ¬ j.Unprepared registry h) i c.intercepts ∧
        i.Unprepared registry g ∧ f = .configuration i.id g.message := by
  have failing {i : Intercept} (hi : i ∈ c.intercepts) {f : Fault} :
      i.prepare registry = .error f ↔
        ∃ g, i.Unprepared registry g ∧ f = .configuration i.id g.message :=
    Intercept.prepare_eq_error_iff fun r hr => valid.wellFormed hi hr
  have passing : ∀ j ∈ c.intercepts,
      ((∃ p, j.prepare registry = .ok p) ↔ ∀ h, ¬ j.Unprepared registry h) := fun j hj => by
    rw [exists_ok_iff]
    simp only [ne_eq, failing hj]
    exact ⟨fun h g unmet => h _ ⟨g, unmet, rfl⟩, fun h f ⟨g, unmet, _⟩ => h g unmet⟩
  rw [weave, Weaver.run_eq, Weaver.build, interceptors, Weaver.fault_acceptance_builtIn]
  dsimp only
  rw [Weaver.fault_acceptance_declared fun strict i hi => valid.marked strict hi]
  constructor
  · rintro ⟨i, first, failed⟩
    obtain ⟨g, unmet, same⟩ := (failing first.mem).mp failed
    exact ⟨i, g, (isFirst_congr passing).mp first, unmet, same⟩
  · rintro ⟨i, g, first, unmet, same⟩
    exact ⟨i, (isFirst_congr passing).mpr first, (failing first.mem).mpr ⟨g, unmet, same⟩⟩

/-! ### The faults of a pass -/

/-- Why a context is refused, and with which fault. The constructors are in order of precedence:
each asks for what keeps those before it away. -/
inductive Refused (c : Context) (registry : Registry) : Fault → Prop
  /-- The first error among the findings is named. -/
  | invalid {d : Finding} (first : IsFirst (fun e => e.severity ≠ .error) d c.findings)
      (severe : d.severity = .error) :
      Refused c registry (.validation ("[" ++ d.rule.name ++ "] " ++ d.message))
  | unhandled {name : String} (valid : c.Valid) (wanted : c.errorHandler = some name)
      (lacking : registry.LacksName name) :
      Refused c registry (.dependencyNotFound ("name '" ++ name ++ "'"))
  | ambiguous {strategy type : String} {names : List String} (valid : c.Valid)
      (handled : c.Handled registry)
      (first : IsFirst (fun t => ∀ names, ¬ registry.Ambiguous t.2 names) (strategy, type)
        (Strategy.mattering registry c.trace))
      (several : registry.Ambiguous type names) :
      Refused c registry (.configuration strategy (Fault.ambiguousDependency type names).message)
  /-- A declared intercept has a requirement that is not met. The first route is named. -/
  | unprepared {r : Route} {i : Intercept} {g : Fault} (valid : c.Valid)
      (handled : c.Handled registry)
      (clear : ∀ t ∈ Strategy.mattering registry c.trace, ∀ names, ¬ registry.Ambiguous t.2 names)
      (route : (assignIds c.routes).head? = some r)
      (first : IsFirst (fun j => ∀ h, ¬ j.Unprepared registry h) i c.intercepts)
      (unmet : i.Unprepared registry g) :
      Refused c registry (.assembly r.id (.configuration i.id g.message))

theorem exists_settle_iff :
    (∃ findings handler strategies, c.settle registry = .ok (findings, handler, strategies)) ↔
      c.Valid ∧ c.Handled registry ∧
        ∀ t ∈ Strategy.mattering registry c.trace, ∀ names, ¬ registry.Ambiguous t.2 names := by
  rw [← exists_handler_iff,
    ← (Strategy.examines_discover registry c.trace c.delay).exists_ok_iff]
  simp only [settle_eq_ok_iff]
  constructor
  · rintro ⟨_, handler, strategies, valid, -, hhandler, hstrategies⟩
    exact ⟨valid, ⟨handler, hhandler⟩, ⟨strategies, hstrategies⟩⟩
  · rintro ⟨valid, ⟨handler, hhandler⟩, ⟨strategies, hstrategies⟩⟩
    exact ⟨_, handler, strategies, valid, rfl, hhandler, hstrategies⟩

theorem refused_iff : c.Refused registry f ↔
    c.settle registry = .error f ∨
      ∃ findings handler strategies r g,
        c.settle registry = .ok (findings, handler, strategies) ∧
        (assignIds c.routes).head? = some r ∧
        (c.weave registry strategies r).fault = some g ∧ f = .assembly r.id g := by
  rw [settle_eq_error_iff, validate_eq_error_iff, handler_eq_error_iff,
    Strategy.examines_discover registry c.trace c.delay f]
  constructor
  · rintro (⟨first, severe⟩ | ⟨valid, wanted, lacking⟩ | ⟨valid, handled, first, several⟩ |
      ⟨valid, handled, clear, route, first, unmet⟩)
    · exact .inl (.inl ⟨_, first, severe, rfl⟩)
    · exact .inl (.inr ⟨valid, .inl ⟨_, wanted, lacking, rfl⟩⟩)
    · exact .inl (.inr ⟨valid, .inr ⟨handled, _, _, first, _, several, rfl⟩⟩)
    · obtain ⟨findings, handler, strategies, settled⟩ :=
        exists_settle_iff.mpr ⟨valid, handled, clear⟩
      exact .inr ⟨findings, handler, strategies, _, _, settled, route,
        (fault_weave_iff valid strategies _).mpr ⟨_, _, first, unmet, rfl⟩, rfl⟩
  · rintro ((⟨d, first, severe, rfl⟩ | ⟨valid, ⟨name, wanted, lacking, rfl⟩ |
      ⟨handled, _, _, first, _, several, rfl⟩⟩) | ⟨_, _, strategies, r, g, settled, route, fault, rfl⟩)
    · exact .invalid first severe
    · exact .unhandled valid wanted lacking
    · exact .ambiguous valid handled first several
    · obtain ⟨valid, handled, clear⟩ := exists_settle_iff.mp ⟨_, _, _, settled⟩
      obtain ⟨i, g, first, unmet, rfl⟩ := (fault_weave_iff valid strategies r).mp fault
      exact .unprepared valid handled clear route first unmet

theorem Refused.isTerminal (refused : c.Refused registry f) : f.isTerminal = true := by
  cases refused with
  | invalid => rfl
  | unhandled => rfl
  | ambiguous => rfl
  | unprepared => rfl

/-- What a pass blames a route for is an unmet requirement: no missing marker, and no malformed
requirement either. -/
theorem Refused.cause {route : String} {cause : Fault}
    (refused : c.Refused registry (.assembly route cause)) :
    ∃ (i : String) (q : Requirement) (g : Fault),
      q.Unmet registry g ∧ cause = .configuration i g.message := by
  cases refused with
  | unprepared valid handled clear route first unmet =>
    obtain ⟨q, -, unmet⟩ := unmet
    exact ⟨_, q, _, unmet, rfl⟩

theorem assemble_eq_error_iff (c : Context) (parents : List Bindings) {f : Fault} :
    (c.assemble parents).outcome = .error f ↔ c.Refused (c.registry parents) f := by
  rw [refused_iff]
  have ends := c.ends_assemble parents
  generalize c.assemble parents = pass at ends
  cases ends with
  | unsettled settled => simp [settled]
  | failed settled routes fault => simp [settled, routes, fault, eq_comm]
  | completed settled succeeds =>
    simp only [settled, reduceCtorEq, false_or, false_iff, Except.ok.injEq, Prod.mk.injEq]
    rintro ⟨_, _, _, r, g, ⟨-, -, rfl⟩, route, fault, -⟩
    rw [succeeds r (List.mem_of_head? route)] at fault
    cases fault

theorem report_of_reject (c : Context) (parents : List Bindings)
    (strict : c.options.missingProceed = .reject) {a : Assembled}
    (assembled : (c.assemble parents).outcome = .ok a) {report : Report} (hr : report ∈ a.reports) :
    report.dropped = 0 ∧ report.points.size = report.layers.length := by
  obtain ⟨-, strategies, -, -, reports⟩ := woven_of_assembled assembled
  rw [reports] at hr
  obtain ⟨r, -, rfl⟩ := List.mem_map.mp hr
  exact ⟨Weaver.dropped_run_of_reject strict r _, Weaver.size_points_run_of_reject strict r _⟩

/-- A pass fails exactly with what a context is refused for. So its faults are terminal, a route is
never blamed for a missing marker or a malformed requirement, and under the strict policy a pass that
succeeds drops nothing and has an insertion point in every layer. -/
theorem assemble_faults (c : Context) (parents : List Bindings) :
    (∀ f, (c.assemble parents).outcome = .error f ↔ c.Refused (c.registry parents) f) ∧
      (∀ f, (c.assemble parents).outcome = .error f → f.isTerminal = true) ∧
      (∀ route cause, (c.assemble parents).outcome = .error (.assembly route cause) →
        (∀ r i, cause ≠ .missingProceed r i) ∧
        ∀ (q : Requirement) (g : Fault), q.wellFormed = false →
          q.resolve (c.registry parents) = .error g →
          cause ≠ g ∧ ∀ i, cause ≠ .configuration i g.message) ∧
      (c.options.missingProceed = .reject → ∀ a, (c.assemble parents).outcome = .ok a →
        ∀ report ∈ a.reports,
          report.dropped = 0 ∧ report.points.size = report.layers.length) := by
  refine ⟨fun f => assemble_eq_error_iff c parents,
    fun f failed => ((assemble_eq_error_iff c parents).mp failed).isTerminal, ?_,
    fun strict a assembled report hr => report_of_reject c parents strict assembled hr⟩
  intro route cause failed
  obtain ⟨i, q, g, unmet, rfl⟩ := ((assemble_eq_error_iff c parents).mp failed).cause
  refine ⟨nofun, fun p h malformed other => ⟨?_, ?_⟩⟩
  · rw [Requirement.resolve_of_malformed malformed, Except.error.injEq] at other
    rw [← other]
    nofun
  · intro j same
    exact unmet.message_ne malformed other (Fault.configuration.inj same).2

/-- An unnamed route is blamed by the id that it is given, and the ambiguous logger comes before the
store that is missing. With one logger and a store both routes are assembled. -/
theorem assemble_faults_audit :
    let audit : Intercept :=
      ⟨"audit", [⟨"log", none, some "Logger"⟩, ⟨"to", some "store", none⟩], [Node.marker], .empty⟩
    let c : Context :=
      { Context.standard with
        beans := .ofList [("file", "Logger"), ("net", "Logger")]
        intercepts := [audit]
        routes := [⟨"", [Node.step "direct:in"]⟩, ⟨"orders", [Node.step "direct:out"]⟩] }
    let mended : Context := { c with beans := .ofList [("file", "Logger"), ("store", "Store")] }
    let fault : Fault := .assembly "route1" (.configuration "audit"
      "Ambiguous lookup for type 'Logger': 2 candidates (file, net)")
    (c.assemble []).outcome = .error fault ∧ c.Refused (c.registry []) fault ∧
      ∃ a, (mended.assemble []).outcome = .ok a ∧ a.reports.length = 2 ∧
        ∀ report ∈ a.reports,
          report.dropped = 0 ∧ report.points.size = report.layers.length := by
  intro audit c mended fault
  have failed : (c.assemble []).outcome = .error fault := by decide
  have reports : ((mended.assemble []).outcome.map fun a => a.reports.length) = .ok 2 := by decide
  refine ⟨failed, ((assemble_faults c []).1 fault).mp failed, ?_⟩
  cases assembled : (mended.assemble []).outcome with
  | error f =>
    rw [assembled] at reports
    cases reports
  | ok a =>
    rw [assembled] at reports
    exact ⟨a, rfl, Except.ok.inj reports, (assemble_faults mended []).2.2.2 rfl a assembled⟩

end Context

end RouteLoom
