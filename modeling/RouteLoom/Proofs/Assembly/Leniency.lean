import RouteLoom.Proofs.Assembly.Pass
import RouteLoom.Proofs.Interception.Template

/-!
# What the policy for missing markers decides

The policy is asked twice: how bad an intercept without a marker is, and what becomes of the nodes
that its proxy would wrap. Where every declared intercept has a marker neither question comes up, so
a pass under one policy is the same pass under the other, with the same events and the same outcome.
-/

namespace RouteLoom

/-! ### Weaves -/

namespace Weaver

variable {w : Weaver} {is : List Interception} {i : Interception} {route : String}

theorem accept_congr_options (marked : i.template.firstMarker ≠ none) (o : Options) :
    Weaver.accept { w with options := o } route i = w.accept route i := by
  rw [accept, accept]
  cases prepared : Interceptor.prepare w.registry i with
  | error f => rfl
  | ok p =>
    have given : (Interceptor.body p).firstMarker ≠ none := by
      rwa [Interception.firstMarker_body, (Interception.template_of_prepare prepared).2]
    dsimp only
    rw [if_neg fun missing => given missing.2, if_neg fun missing => given missing.2]

theorem run_congr_options (marked : ∀ i ∈ is, i.template.firstMarker ≠ none) (o : Options)
    (r : Route) : Weaver.run { w with options := o } r is = w.run r is :=
  run_congr rfl fun i hi => accept_congr_options (marked i hi) o

end Weaver

/-! ### Contexts -/

namespace Context

variable {c : Context}

def under (c : Context) (p : Policy) : Context :=
  { c with options := { c.options with missingProceed := p } }

/-- Every declared intercept has a proceed marker in its template. -/
def Marked (c : Context) : Prop := ∀ i ∈ c.intercepts, Forest.any Node.isMarker i.template = true

instance (c : Context) : Decidable c.Marked :=
  inferInstanceAs (Decidable (∀ i ∈ c.intercepts, Forest.any Node.isMarker i.template = true))

theorem Marked.firstMarker_ne_none (marked : c.Marked) (strategies : List Strategy) :
    ∀ i ∈ c.interceptors strategies, i.template.firstMarker ≠ none := by
  intro i hi
  rcases List.mem_append.mp hi with builtIn | declared
  · obtain ⟨s, -, rfl⟩ := List.mem_map.mp builtIn
    exact nofun
  · obtain ⟨j, hj, rfl⟩ := List.mem_map.mp declared
    obtain ⟨a, found⟩ := Forest.exists_firstMarker_of_any (marked j hj)
    rw [Interception.template, found]
    exact nofun

theorem Marked.checkProceedMarker (marked : c.Marked) : Rule.checkProceedMarker c = [] := by
  rw [Rule.checkProceedMarker, List.map_eq_nil_iff, List.filter_eq_nil_iff]
  intro i hi none
  have unmarked := Forest.count_eq_zero_iff.mp (of_decide_eq_true none)
  rw [marked i hi] at unmarked
  cases unmarked

theorem check_under {rule : Rule} (other : rule ≠ .proceedMarker) (p : Policy) :
    rule.check (c.under p) = rule.check c := by
  cases rule with
  | proceedMarker => exact absurd rfl other
  | singleProceed | proceedPlacement | declaredProxy | duplicateRouteId | duplicateInterceptId
  | exceptionTypes | requirementShape | emptyRoute => rfl

theorem Marked.findings_under (marked : c.Marked) (p : Policy) :
    (c.under p).findings = c.findings := by
  have unmoved : (c.under p).Marked := marked
  refine List.flatMap_congr fun rule _ => ?_
  by_cases marker : rule = .proceedMarker
  · rw [marker]
    exact unmoved.checkProceedMarker.trans marked.checkProceedMarker.symm
  · exact check_under marker p

theorem Marked.settle_under (marked : c.Marked) (p : Policy) (registry : Registry) :
    (c.under p).settle registry = c.settle registry := by
  rw [settle, settle, validate, validate, marked.findings_under]
  rfl

/-- Where every declared intercept has a marker, a pass does not depend on the policy. -/
theorem Marked.assemble_under (marked : c.Marked) (p : Policy) (parents : List Bindings) :
    (c.under p).assemble parents = c.assemble parents := by
  refine assemble_congr rfl rfl rfl (marked.settle_under p _) fun _ _ strategies _ r _ => ?_
  exact Weaver.run_congr_options (w := c.weaver (c.registry parents))
    (marked.firstMarker_ne_none strategies) (c.under p).options r

theorem marked_of_assembled_strictly {parents : List Bindings} {a : Assembled}
    (assembled : ((c.under .reject).assemble parents).outcome = .ok a) : c.Marked :=
  fun _ hi => (woven_of_assembled assembled).1.marked rfl hi

/-- What is assembled under the strict policy is assembled under the lenient one too, with the same
outcome and the same events. Where every declared intercept has a marker, it is the same pass under
both, whether it succeeds or not. -/
theorem assemble_lenient_extends_strict (c : Context) (parents : List Bindings) :
    let strict := (c.under .reject).assemble parents
    let lenient := (c.under .drop).assemble parents
    (∀ a, strict.outcome = .ok a → lenient = strict) ∧ (c.Marked → strict = lenient) := by
  intro strict lenient
  have same (marked : c.Marked) : strict = lenient :=
    (marked.assemble_under .reject parents).trans (marked.assemble_under .drop parents).symm
  exact ⟨fun a assembled => (same (marked_of_assembled_strictly assembled)).symm, same⟩

/-- Two routes with the tracer, and an intercept that asks for a bean. -/
theorem assemble_lenient_extends_strict_audit :
    let audit : Intercept :=
      ⟨"audit", [⟨"log", none, some "Logger"⟩], [Node.step "bean:${log}", Node.marker], .empty⟩
    let c : Context :=
      { Context.standard with
        beans := .ofList [("file", "Logger")]
        intercepts := [audit]
        routes := [⟨"", [Node.step "direct:in"]⟩, ⟨"orders", []⟩]
        trace := some true }
    let strict := (c.under .reject).assemble []
    let lenient := (c.under .drop).assemble []
    (∃ a, strict.outcome = .ok a ∧ a.routes.length = 2 ∧ lenient = strict) ∧
      c.Marked ∧ strict = lenient := by
  intro audit c strict lenient
  have marked : c.Marked := by decide
  obtain ⟨extends_strict, same⟩ := assemble_lenient_extends_strict c []
  have routes : (strict.outcome.map fun a => a.routes.length) = .ok 2 := by decide
  obtain ⟨a, assembled, two⟩ := map_eq_ok_iff.mp routes
  exact ⟨⟨a, assembled, two, extends_strict a assembled⟩, marked, same marked⟩

/-- An intercept without a marker makes the difference: one pass refuses the context, the other drops
the route's own step. -/
example :
    let mute : Intercept := ⟨"mute", [], [Node.step "log:mute"], .empty⟩
    let c : Context :=
      { Context.standard with
        intercepts := [mute]
        routes := [⟨"orders", [Node.step "direct:in"]⟩] }
    ((c.under .reject).assemble []).events = [] ∧
      ((c.under .drop).assemble []).events.contains (.dropped "orders" "mute" 1) = true := by
  decide

end Context

end RouteLoom
