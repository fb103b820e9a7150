import RouteLoom.Interception.Any
import RouteLoom.Proofs.Interception.History
import RouteLoom.Proofs.Weaving.Acceptance

/-!
# Routes woven one after another

All that it does to an interceptor is to prepare it, and what was found for an interceptor earlier
has no part in preparing it again. So each weave of a sequence comes out as it would with copies
that nobody has prepared, whatever came before it and however that ended.
-/

namespace RouteLoom

open Interceptor

variable {registry : Registry} {i p : Interception} {is : List Interception} {f : Fault}

/-! ### Unprepared copies -/

namespace Interception

def fresh : Interception → Interception
  | .builtIn s => .builtIn s
  | .declared i => .declared i.fresh

theorem prepare_fresh (registry : Registry) (i : Interception) :
    prepare registry i.fresh = prepare registry i := by
  cases i with
  | builtIn s => rfl
  | declared i =>
    rw [fresh, prepare_declared, prepare_declared, Intercept.prepare_fresh]

theorem fresh_of_prepare (hp : prepare registry i = .ok p) : p.fresh = i.fresh := by
  cases i with
  | builtIn s =>
    cases hp
    rfl
  | declared i =>
    rw [prepare_declared] at hp
    obtain ⟨q, prepared, rfl⟩ := map_eq_ok_iff.mp hp
    exact congrArg declared (Intercept.fresh_of_prepare prepared)

end Interception

open Interception

namespace Weaver

variable {w : Weaver} {route : String}

theorem accept_fresh (accepted : w.accept route i = .ok p) : w.accept route i.fresh = .ok p := by
  rw [accept_eq_ok_iff] at accepted ⊢
  rw [prepare_fresh]
  exact accepted

theorem exists_accept_fresh (refused : w.accept route i = .error (f, p)) :
    ∃ q, w.accept route i.fresh = .error (f, q) := by
  rcases accept_eq_error_iff.mp refused with ⟨failed, -⟩ | missing
  · rw [← prepare_fresh] at failed
    exact ⟨i.fresh, accept_eq_error_iff.mpr (.inl ⟨failed, rfl⟩)⟩
  · rw [← prepare_fresh] at missing
    exact ⟨p, accept_eq_error_iff.mpr (.inr missing)⟩

theorem acceptance_fresh (w : Weaver) (route : String) (is : List Interception) :
    (w.acceptance route (is.map fresh)).applied = (w.acceptance route is).applied ∧
      (w.acceptance route (is.map fresh)).fault = (w.acceptance route is).fault := by
  induction is with
  | nil => exact ⟨rfl, rfl⟩
  | cons i rest ih =>
    rw [List.map_cons]
    cases h : w.accept route i with
    | ok p =>
      rw [acceptance_cons_ok h, acceptance_cons_ok (accept_fresh h)]
      exact ⟨congrArg (p :: ·) ih.1, ih.2⟩
    | error refused =>
      obtain ⟨f, p⟩ := refused
      obtain ⟨q, again⟩ := exists_accept_fresh h
      rw [acceptance_cons_error h, acceptance_cons_error again]
      exact ⟨rfl, rfl⟩

/-- The interceptors that a weave leaves are those it was given, with other beans found perhaps. -/
theorem map_fresh_acceptance (w : Weaver) (route : String) (is : List Interception) :
    ((w.acceptance route is).applied ++ (w.acceptance route is).behind).map fresh =
      is.map fresh := by
  induction is with
  | nil => rfl
  | cons i rest ih =>
    cases h : w.accept route i with
    | ok p =>
      rw [acceptance_cons_ok h, List.cons_append, List.map_cons, ih, List.map_cons,
        fresh_of_prepare (accept_eq_ok_iff.mp h).1]
    | error refused =>
      obtain ⟨f, p⟩ := refused
      have kept : p.fresh = i.fresh := by
        rcases accept_eq_error_iff.mp h with ⟨-, rfl⟩ | ⟨-, hp, -⟩
        · rfl
        · exact fresh_of_prepare hp
      rw [acceptance_cons_error h, List.nil_append, List.map_cons, List.map_cons, kept]

theorem map_fresh_run (w : Weaver) (r : Route) (is : List Interception) :
    (w.run r is).interceptors.map fresh = is.map fresh := by
  rw [run_eq, build]
  exact map_fresh_acceptance w r.id is

end Weaver

/-! ### One weave after another -/

/-- What is seen of a weave: the route, the report, and how it ended. -/
def Woven.outcome {ι : Type} (x : Woven ι) : Route × Report × Option Fault :=
  (x.route, x.report, x.fault)

namespace Weaver

theorem outcome_run_fresh (w : Weaver) (r : Route) (is : List Interception) :
    (w.run r (is.map fresh)).outcome = (w.run r is).outcome := by
  obtain ⟨applied, fault⟩ := w.acceptance_fresh r.id is
  rw [run_eq, run_eq, Woven.outcome, Woven.outcome, build, build, applied, fault]

/-- Weaves routes one after another, each with a weaver of its own, with the same interceptors as the
weave before left them. -/
def inTurn {ι : Type} [Interceptor ι] : List (Weaver × Route) → List ι → List (Woven ι)
  | [], _ => []
  | (w, r) :: rest, is => w.run r is :: inTurn rest (w.run r is).interceptors

theorem outcomes_inTurn (jobs : List (Weaver × Route)) (is : List Interception) :
    (inTurn jobs is).map Woven.outcome =
      jobs.map fun (w, r) => (w.run r (is.map fresh)).outcome := by
  induction jobs generalizing is with
  | nil => rfl
  | cons job rest ih =>
    obtain ⟨w, r⟩ := job
    rw [inTurn, List.map_cons, ih, map_fresh_run, List.map_cons, ← outcome_run_fresh w r is]

end Weaver

/-- Preparing an intercept either binds exactly what its requirements ask for, whatever was bound
before, or fails for the first requirement that is not met and leaves the intercept as it was; a
malformed requirement is never met. Hence routes that are woven one after another with the same
interceptors are woven as with unprepared copies. -/
theorem Intercept.prepare_forgets (registry : Registry) (i : Intercept) :
    (i.Met registry → ∃ found : Bindings,
      (∀ earlier, (prepareInPlace registry).run.run { i with resolved := earlier } =
        (.ok (), { i with resolved := found })) ∧
      ∀ var bean, found.get? var = some bean ↔
        ∃ r, Requirement.LastFor var i.requirements r ∧ r.resolve registry = .ok bean) ∧
    (¬ i.Met registry → ∃ r f,
      IsFirst (fun q => ∃ bean, q.resolve registry = .ok bean) r i.requirements ∧
      r.resolve registry = .error f ∧
      (prepareInPlace registry).run.run i = (.error (.configuration i.id f.message), i)) ∧
    (∀ r : Requirement, r.wellFormed = false → r.resolve registry = .error
      (.other ("requirement '" ++ r.var ++ "' must set exactly one of 'bean' or 'type'"))) ∧
    (prepareInPlace registry).run.run i =
      (match i.prepare registry with
      | .ok p => (.ok (), p)
      | .error f => (.error f, i)) ∧
    ∀ (jobs : List (Weaver × Route)) (is : List Interception),
      (Weaver.inTurn jobs is).map Woven.outcome =
        jobs.map fun (w, r) => (w.run r (is.map Interception.fresh)).outcome := by
  refine ⟨fun met => ?_, fun unmet => ?_, fun r => Requirement.resolve_of_malformed,
    run_prepareInPlace registry i, Weaver.outcomes_inTurn⟩
  · obtain ⟨found, prepared, bound⟩ := exists_of_met met
    refine ⟨found, fun earlier => ?_, bound⟩
    rw [run_prepareInPlace, prepared]
  · obtain ⟨r, f, first, failed, refused⟩ := exists_of_not_met unmet
    refine ⟨r, f, first, failed, ?_⟩
    rw [run_prepareInPlace, refused]

end RouteLoom
