import RouteLoom.Interception.Any
import RouteLoom.Proofs.Weaving.Layers

/-!
# A weave that is cut short

A weave with a fault is the successful weave of the interceptors in front of the failing one: it
leaves the same route and the same report. What the fault is depends on the failing interceptor
alone, and the interceptors behind it are neither changed nor looked at.
-/

namespace RouteLoom

variable {ι : Type} [Interceptor ι]

open Interceptor

namespace Weaver

variable {w : Weaver} {route : String} {is : List ι} {f : Fault}

/-- A refused interceptor divides its list, and the same part in front is accepted alone and before
whatever stands in the place of the part behind. -/
theorem acceptance_of_fault (failed : (w.acceptance route is).fault = some f) :
    ∃ front i p rest, is = front ++ i :: rest ∧ w.accept route i = .error (f, p) ∧
      (w.acceptance route is).applied.length = front.length ∧
      w.acceptance route front = ⟨(w.acceptance route is).applied, none, []⟩ ∧
      ∀ others, w.acceptance route (front ++ i :: others) =
        ⟨(w.acceptance route is).applied, some f, p :: others⟩ := by
  obtain ⟨front, back, split, accepted, ⟨-, none, -⟩ | ⟨i, rest, g, p, rfl, refused, fault, -⟩⟩ :=
    acceptance_cases w route is
  · rw [none] at failed
    cases failed
  · rw [failed, Option.some.injEq] at fault
    subst fault
    have alone := acceptance_append accepted []
    rw [List.append_nil, acceptance, List.append_nil] at alone
    refine ⟨front, i, p, rest, split, refused, accepted.length_eq.symm, alone, ?_⟩
    intro others
    rw [acceptance_append accepted, acceptance_cons_error refused, List.append_nil]

/-- A weave fails with `f` at interceptor number `k`: what it leaves is the weave of those in front. -/
structure CutShort (w : Weaver) (r : Route) (is : List ι) (f : Fault) (k : Nat) : Prop where
  layers : (w.run r is).report.layers.length = k
  succeeds : (w.run r (is.take k)).fault = none
  report : (w.run r (is.take k)).report = (w.run r is).report
  route : (w.run r (is.take k)).route = (w.run r is).route
  before : (w.run r (is.take k)).interceptors = (w.run r is).interceptors.take k
  /-- The failing interceptor `i` is `p` after the weave. -/
  cause : ∃ i p, is[k]? = some i ∧ (w.run r is).interceptors[k]? = some p ∧
    (prepare w.registry i = .error f ∧ p = i ∨
      w.options.missingProceed = .reject ∧ prepare w.registry i = .ok p ∧
        (body p).firstMarker = none ∧ f = .missingProceed r.id (name p))
  behind : (w.run r is).interceptors.drop (k + 1) = is.drop (k + 1)
  /-- Whatever stands behind the failing interceptor is not looked at. -/
  unseen : ∀ others, w.run r (is.take (k + 1) ++ others) =
    { w.run r is with interceptors := (w.run r is).interceptors.take (k + 1) ++ others }

/-- A weave with a fault is a successful weave of the interceptors in front of the failing one. -/
theorem cutShort_of_fault (w : Weaver) (r : Route) (is : List ι) (f : Fault)
    (failed : (w.run r is).fault = some f) :
    CutShort w r is f (w.run r is).report.layers.length := by
  rw [run_eq, build] at failed
  obtain ⟨front, i, p, rest, split, refused, length, alone, again⟩ := acceptance_of_fault failed
  have number : (w.run r is).report.layers.length = front.length := by
    rw [length_layers, applied_run, length]
  have start : is.take front.length = front := by rw [split, List.take_left]
  have through : is.take (front.length + 1) = front ++ [i] := by
    rw [split, List.take_length_add_append, List.take_succ_cons, List.take_zero]
  have early : w.run r front = w.build r ⟨(w.acceptance r.id is).applied, none, []⟩ := by
    rw [run_eq, alone]
  have whole : w.run r is = w.build r ⟨(w.acceptance r.id is).applied, some f, p :: rest⟩ := by
    rw [run_eq, ← again rest, ← split]
  have stopped : (w.run r is).interceptors = (w.acceptance r.id is).applied ++ p :: rest := by
    rw [whole, build]
  rw [number]
  exact {
    layers := number
    succeeds := by rw [start, early, build]
    report := by rw [start, early, whole, build, build]
    route := by rw [start, early, whole, build, build]
    before := by rw [start, early, stopped, build, List.append_nil, ← length, List.take_left]
    cause := by
      refine ⟨i, p, ?_, ?_, accept_eq_error_iff.mp refused⟩
      · rw [split, List.getElem?_append_right (Nat.le_refl _), Nat.sub_self]
        rfl
      · rw [stopped, ← length, List.getElem?_append_right (Nat.le_refl _), Nat.sub_self]
        rfl
    behind := by
      rw [split, List.drop_length_add_append, ← split, stopped, ← length,
        List.drop_length_add_append]
      rfl
    unseen := fun others => by
      rw [through, List.append_assoc, List.singleton_append, run_eq, again, stopped, ← length,
        List.take_length_add_append, whole]
      simp [build] }

/-- The second of three interceptors needs a bean that is not there. -/
theorem cutShort_of_missing_bean :
    let w : Weaver := ⟨⟨.ofList [("logger", "Logger")], []⟩,
      [⟨.onException ["IoError"] true, none, []⟩], .standard⟩
    let r : Route := ⟨"orders", [Node.step "direct:in"]⟩
    let is : List Interception :=
      [.declared ⟨"audit", [⟨"log", some "logger", none⟩], [Node.step "bean:${log}", Node.marker], .empty⟩,
        .declared ⟨"trace", [⟨"bean", none, some "Tracer"⟩], [Node.marker], .empty⟩,
        .builtIn (.debugger "dbg")]
    let f : Fault := .configuration "trace" "No bean found for type 'Tracer'"
    (w.run r is).fault = some f ∧ CutShort w r is f 1 := by
  intro w r is f
  have failed : (w.run r is).fault = some f := by decide
  exact ⟨failed, cutShort_of_fault w r is f failed⟩

end Weaver

end RouteLoom
