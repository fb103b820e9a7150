import RouteLoom.Proofs.Weaving.Tower
import Mathlib.Data.List.Forall2

/-!
# Acceptance before nesting

Whether an interceptor gets a layer depends on the interceptor and the weaver alone and never on the
nodes it would wrap. So a weave can be read in two steps: first the interceptors are accepted in
order, up to the first one that is refused, and then the accepted ones are built into a tower.
-/

namespace RouteLoom

variable {ι : Type} [Interceptor ι]

open Interceptor

theorem Interceptor.wrap_eq (p : Policy) (i : ι) (wrapped : Forest) :
    p.wrap (name i) (body i) wrapped =
      if p = .reject ∧ (body i).firstMarker = none then none
      else some (around i wrapped, seam i wrapped) := by
  cases h : (body i).firstMarker with
  | none =>
    rw [around_of_none h, seam_of_none h]
    unfold Policy.wrap
    rw [Forest.embed_eq_none h]
    cases p <;> rfl
  | some a =>
    obtain ⟨marker, filled, e⟩ := Forest.exists_embeds wrapped h
    have given : ¬ (p = .reject ∧ some a = none) := by
      rintro ⟨-, ⟨⟩⟩
    rw [around_of_embeds e, seam_of_embeds e, if_neg given]
    unfold Policy.wrap
    rw [Forest.embed_eq_some e]

/-! ### One interceptor -/

namespace Weaver

/-- The prepared interceptor, or why it is refused and what it is then. -/
def accept (w : Weaver) (route : String) (i : ι) : Except (Fault × ι) ι :=
  match prepare w.registry i with
  | .error f => .error (f, i)
  | .ok p =>
    if w.options.missingProceed = .reject ∧ (body p).firstMarker = none then
      .error (.missingProceed route (name p), p)
    else .ok p

variable {w : Weaver} {route : String} {i p : ι} {f : Fault}

theorem accept_eq_ok_iff : w.accept route i = .ok p ↔
    prepare w.registry i = .ok p ∧
      ¬ (w.options.missingProceed = .reject ∧ (body p).firstMarker = none) := by
  rw [accept]
  cases prepare w.registry i with
  | error f => simp
  | ok q =>
    dsimp only
    split
    next missing =>
      constructor
      · rintro ⟨⟩
      · rintro ⟨⟨⟩, given⟩
        exact absurd missing given
    next given =>
      constructor
      · rintro ⟨⟩
        exact ⟨rfl, given⟩
      · rintro ⟨⟨⟩, -⟩
        rfl

theorem accept_eq_error_iff : w.accept route i = .error (f, p) ↔
    (prepare w.registry i = .error f ∧ p = i) ∨
      (w.options.missingProceed = .reject ∧ prepare w.registry i = .ok p ∧
        (body p).firstMarker = none ∧ f = .missingProceed route (name p)) := by
  rw [accept]
  cases prepare w.registry i with
  | error g => simp [eq_comm]
  | ok q =>
    dsimp only
    split
    next missing =>
      simp only [Except.error.injEq, Prod.mk.injEq, reduceCtorEq, false_and, Except.ok.injEq,
        false_or]
      constructor
      · rintro ⟨rfl, rfl⟩
        exact ⟨missing.1, rfl, missing.2, rfl⟩
      · rintro ⟨-, rfl, -, rfl⟩
        exact ⟨rfl, rfl⟩
    next given =>
      constructor
      · rintro ⟨⟩
      · rintro (⟨⟨⟩, -⟩ | ⟨reject, ⟨⟩, none, -⟩)
        exact absurd ⟨reject, none⟩ given

end Weaver

/-! ### A list of interceptors -/

/-- The accepted interceptors of a list, why the next one was refused, and that one with those
behind it. -/
structure Acceptance (ι : Type) where
  applied : List ι
  fault : Option Fault
  behind : List ι

namespace Weaver

def acceptance (w : Weaver) (route : String) : List ι → Acceptance ι
  | [] => ⟨[], none, []⟩
  | i :: rest =>
    match w.accept route i with
    | .error (f, i) => ⟨[], some f, i :: rest⟩
    | .ok p =>
      let later := acceptance w route rest
      { later with applied := p :: later.applied }

variable {w : Weaver} {route : String} {i p : ι} {is ps : List ι} {f : Fault}

theorem acceptance_cons_ok (h : w.accept route i = .ok p) (is : List ι) :
    w.acceptance route (i :: is) =
      { w.acceptance route is with applied := p :: (w.acceptance route is).applied } := by
  rw [acceptance, h]

theorem acceptance_cons_error (h : w.accept route i = .error (f, p)) (is : List ι) :
    w.acceptance route (i :: is) = ⟨[], some f, p :: is⟩ := by
  rw [acceptance, h]

theorem acceptance_append (front : List.Forall₂ (fun i p => w.accept route i = .ok p) is ps)
    (back : List ι) :
    w.acceptance route (is ++ back) =
      { w.acceptance route back with applied := ps ++ (w.acceptance route back).applied } := by
  induction front with
  | nil => rfl
  | cons h _ ih => rw [List.cons_append, acceptance_cons_ok h, ih, List.cons_append]

/-- Either all interceptors are accepted, or the list is cut at the first that is refused. -/
theorem acceptance_cases (w : Weaver) (route : String) (is : List ι) :
    ∃ front back, is = front ++ back ∧
      List.Forall₂ (fun i p => w.accept route i = .ok p) front (w.acceptance route is).applied ∧
      (back = [] ∧ (w.acceptance route is).fault = none ∧ (w.acceptance route is).behind = [] ∨
        ∃ i rest f p, back = i :: rest ∧ w.accept route i = .error (f, p) ∧
          (w.acceptance route is).fault = some f ∧
          (w.acceptance route is).behind = p :: rest) := by
  induction is with
  | nil => exact ⟨[], [], rfl, .nil, .inl ⟨rfl, rfl, rfl⟩⟩
  | cons i rest ih =>
    cases h : w.accept route i with
    | error refused =>
      obtain ⟨f, p⟩ := refused
      rw [acceptance_cons_error h]
      exact ⟨[], i :: rest, rfl, .nil, .inr ⟨i, rest, f, p, rfl, h, rfl, rfl⟩⟩
    | ok p =>
      obtain ⟨front, back, rfl, accepted, ending⟩ := ih
      rw [acceptance_cons_ok h]
      exact ⟨i :: front, back, rfl, .cons h accepted, ending⟩

theorem acceptance_congr {w' : Weaver} (same : ∀ i ∈ is, w'.accept route i = w.accept route i) :
    w'.acceptance route is = w.acceptance route is := by
  induction is with
  | nil => rfl
  | cons i rest ih =>
    obtain ⟨first, others⟩ := List.forall_mem_cons.mp same
    rw [acceptance, acceptance, first, ih others]

theorem acceptance_with_clauses (clauses : Forest) (route : String) (is : List ι) :
    Weaver.acceptance { w with clauses := clauses } route is = w.acceptance route is :=
  acceptance_congr fun _ _ => rfl

/-! ### The weave in two steps -/

theorem nest_eq (w : Weaver) (route : String) (is : List ι) (wrapped : Forest) :
    w.nest route is wrapped =
      { nodes := tower wrapped (w.acceptance route is).applied
        seams := towerSeams wrapped (w.acceptance route is).applied
        fault := (w.acceptance route is).fault
        interceptors := (w.acceptance route is).applied ++ (w.acceptance route is).behind } := by
  induction is generalizing wrapped with
  | nil => rfl
  | cons i rest ih =>
    cases hi : prepare w.registry i with
    | error f =>
      rw [nest, hi, acceptance_cons_error (accept_eq_error_iff.mpr (.inl ⟨hi, rfl⟩))]
      rfl
    | ok p =>
      rw [nest, hi]
      dsimp only
      rw [wrap_eq]
      split
      next h =>
        split at h
        next missing =>
          rw [acceptance_cons_error
            (accept_eq_error_iff.mpr (.inr ⟨missing.1, hi, missing.2, rfl⟩))]
          rfl
        next => cases h
      next proxy seam h =>
        split at h
        next => cases h
        next given =>
          cases h
          rw [acceptance_cons_ok (accept_eq_ok_iff.mpr ⟨hi, given⟩), ih]
          rfl

def front (w : Weaver) (r : Route) : Forest := (r.outputs ++ w.clauses).filter Node.isClause

/-- The nodes that the first layer wraps. -/
def own (w : Weaver) (r : Route) : Forest :=
  (r.outputs ++ w.clauses).filter fun n => !n.isClause

/-- The woven route that an acceptance leads to. -/
def build (w : Weaver) (r : Route) (a : Acceptance ι) : Woven ι where
  route := { r with outputs := w.front r ++ tower (w.own r) a.applied }
  report :=
    { route := r.id
      clauses := (w.front r).length
      layers := (towerSeams (w.own r) a.applied).map Seam.layer
      points := insertionPoints (w.front r).length (towerSeams (w.own r) a.applied) }
  fault := a.fault
  interceptors := a.applied ++ a.behind

theorem run_eq (w : Weaver) (r : Route) (is : List ι) :
    w.run r is = w.build r (w.acceptance r.id is) := by
  rw [run, List.partition_eq_filter_filter]
  dsimp only
  rw [nest_eq]
  rfl

theorem run_congr {w' : Weaver} {r : Route} (clauses : w'.clauses = w.clauses)
    (same : ∀ i ∈ is, w'.accept r.id i = w.accept r.id i) : w'.run r is = w.run r is := by
  rw [run_eq, run_eq, acceptance_congr same, build, build, front, front, own, own, clauses]

end Weaver

end RouteLoom
