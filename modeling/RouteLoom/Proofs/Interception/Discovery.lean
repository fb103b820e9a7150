import RouteLoom.Interception.Strategy
import RouteLoom.Proofs.Beans.Lookup

/-!
# What discovery finds, and when it fails

Discovery goes through the reserved types that matter for a context, in order, and fails with the
first that is ambiguous. `Examines` says that of any part of discovery, and is kept when parts are
chained.
-/

namespace RouteLoom

/-- The bean that a lookup by type finds, if it finds one. -/
def Registry.bean? (r : Registry) (type : String) : Option String := (r.lookupType type).toOption

namespace Strategy

variable {α β : Type} {registry : Registry}

/-- A step fails exactly if one of these lookups, of types each for the strategy beside it, is
ambiguous, and then with the first such lookup. -/
def Examines (registry : Registry) (lookups : List (String × String)) (step : Except Fault α) :
    Prop :=
  ∀ f, step = .error f ↔
    ∃ s type, IsFirst (fun t => ∀ names, ¬ registry.Ambiguous t.2 names) (s, type) lookups ∧
      ∃ names, registry.Ambiguous type names ∧
        f = .configuration s (Fault.ambiguousDependency type names).message

namespace Examines

variable {lookups more : List (String × String)} {step : Except Fault α}

theorem ok (registry : Registry) (a : α) : Examines registry [] (.ok a) := by
  intro f
  simp [isFirst_nil]

theorem exists_ok_iff (h : Examines registry lookups step) :
    (∃ a, step = .ok a) ↔ ∀ t ∈ lookups, ∀ names, ¬ registry.Ambiguous t.2 names := by
  rw [RouteLoom.exists_ok_iff]
  constructor
  · intro passes
    rcases forall_or_exists_isFirst _ lookups with all | ⟨⟨s, type⟩, first, several⟩
    · exact all
    · obtain ⟨names, several⟩ := not_forall_not.mp several
      exact absurd ((h _).mpr ⟨s, type, first, names, several, rfl⟩) (passes _)
  · intro none f failed
    obtain ⟨s, type, first, names, several, -⟩ := (h f).mp failed
    exact none _ first.mem names several

theorem bind {next : α → Except Fault β} (first : Examines registry lookups step)
    (rest : ∀ a, step = .ok a → Examines registry more (next a)) :
    Examines registry (lookups ++ more) (step >>= next) := by
  intro f
  rw [bind_eq_error_iff, first f]
  simp only [isFirst_append]
  constructor
  · rintro (⟨s, type, at_first, several⟩ | ⟨a, passes, failed⟩)
    · exact ⟨s, type, .inl at_first, several⟩
    · obtain ⟨s, type, later, several⟩ := (rest a passes f).mp failed
      exact ⟨s, type, .inr ⟨first.exists_ok_iff.mp ⟨a, passes⟩, later⟩, several⟩
  · rintro ⟨s, type, at_first | ⟨none, later⟩, several⟩
    · exact .inl ⟨s, type, at_first, several⟩
    · obtain ⟨a, passes⟩ := first.exists_ok_iff.mpr none
      exact .inr ⟨a, passes, (rest a passes f).mpr ⟨s, type, later, several⟩⟩

end Examines

/-! ### One type -/

theorem optionalBean_eq_error_iff {s type : String} {f : Fault} :
    optionalBean registry s type = .error f ↔ ∃ names, registry.Ambiguous type names ∧
      f = .configuration s (Fault.ambiguousDependency type names).message := by
  simp only [Registry.ambiguous_iff]
  rw [optionalBean]
  split
  next bean found => simp [found]
  next missing => simp [missing]
  next g other failed =>
    obtain ⟨-, rfl⟩ | ⟨names, -, rfl⟩ := Registry.lookupType_eq_error_iff.mp failed
    · exact absurd rfl (other _)
    · simp [failed, eq_comm]

theorem examines_optionalBean (registry : Registry) (s type : String) :
    Examines registry [(s, type)] (optionalBean registry s type) := by
  intro f
  simp [optionalBean_eq_error_iff, isFirst_cons, isFirst_nil]

theorem eq_bean?_of_optionalBean {s type : String} {bean : Option String}
    (h : optionalBean registry s type = .ok bean) : bean = registry.bean? type := by
  rw [optionalBean] at h
  rw [Registry.bean?]
  split at h
  next name found =>
    cases h
    rw [found]
    rfl
  next lookup missing =>
    cases h
    rw [missing]
    rfl
  next => cases h

/-! ### Discovery -/

/-- The tracer is on if the attribute says so, and if it says nothing, if a bean is found for it. -/
def tracerOn (registry : Registry) : Option Bool → Bool
  | some on => on
  | none => (registry.bean? tracerType).isSome

/-- The lookups that matter, in order: each strategy with a type that is reserved for it. -/
def mattering (registry : Registry) (trace : Option Bool) : List (String × String) :=
  [("debugger", debuggerType)] ++
    (if trace = some false then [] else [("tracer", tracerType)]) ++
    (if tracerOn registry trace then [("tracer", formatterType)] else []) ++
    [("delayer", delayerType)]

theorem tracerOn_iff (registry : Registry) {trace : Option Bool} (allowed : trace ≠ some false) :
    tracerOn registry trace = true ↔
      ¬ ((registry.bean? tracerType).isNone && trace ≠ some true) = true := by
  cases trace with
  | none => simp [tracerOn, Option.isSome_iff_ne_none]
  | some on =>
    have turned_on : on = true := by simpa using allowed
    simp [tracerOn, turned_on]

theorem examines_findDebugger (registry : Registry) :
    Examines registry [("debugger", debuggerType)] (findDebugger registry) := by
  rw [findDebugger]
  refine .bind (examines_optionalBean registry "debugger" debuggerType) fun bean _ => ?_
  cases bean with
  | none => exact .ok registry _
  | some bean => exact .ok registry _

theorem examines_findTracer (registry : Registry) (trace : Option Bool) :
    Examines registry
      ((if trace = some false then [] else [("tracer", tracerType)]) ++
        if tracerOn registry trace then [("tracer", formatterType)] else [])
      (findTracer registry trace) := by
  rw [findTracer]
  split
  next off =>
    subst off
    exact .ok registry []
  next allowed =>
    refine .bind (examines_optionalBean registry "tracer" tracerType) fun bean found => ?_
    have on := tracerOn_iff registry allowed
    rw [← eq_bean?_of_optionalBean found] at on
    by_cases enabled : tracerOn registry trace = true
    · rw [if_pos enabled, if_neg (on.mp enabled)]
      exact .bind (examines_optionalBean registry "tracer" formatterType) fun _ _ => .ok registry _
    · rw [if_neg enabled, if_pos (not_not.mp (on.not.mp enabled))]
      exact .ok registry []

theorem examines_findDelayer (registry : Registry) (delay : Option Nat) :
    Examines registry [("delayer", delayerType)] (findDelayer registry delay) := by
  rw [findDelayer]
  refine .bind (examines_optionalBean registry "delayer" delayerType) fun bean _ => ?_
  split
  next => exact .ok registry _
  next => exact .ok registry _

theorem examines_discover (registry : Registry) (trace : Option Bool) (delay : Option Nat) :
    Examines registry (mattering registry trace) (discover registry trace delay) := by
  rw [discover, mattering, List.append_assoc, List.append_assoc, ← List.append_assoc _ _ [_]]
  exact .bind (examines_findDebugger registry) fun _ _ =>
    .bind (examines_findTracer registry trace) fun _ _ =>
      .bind (examines_findDelayer registry delay) fun _ _ => .ok registry _

/-! ### Registries that agree on the reserved types -/

/-- The types whose beans enable or equip a built-in strategy. -/
def reservedTypes : List String := [debuggerType, tracerType, formatterType, delayerType]

theorem discover_congr {other : Registry}
    (same : ∀ type ∈ reservedTypes, other.lookupType type = registry.lookupType type)
    (trace : Option Bool) (delay : Option Nat) :
    discover other trace delay = discover registry trace delay := by
  have bean (s : String) {type : String} (reserved : type ∈ reservedTypes) :
      optionalBean other s type = optionalBean registry s type := by
    rw [optionalBean, optionalBean, same type reserved]
  have debugger : findDebugger other = findDebugger registry := by
    rw [findDebugger, findDebugger, bean "debugger" (by decide)]
  have tracer : findTracer other trace = findTracer registry trace := by
    rw [findTracer, findTracer, bean "tracer" (by decide), bean "tracer" (by decide)]
  have delayer : findDelayer other delay = findDelayer registry delay := by
    rw [findDelayer, findDelayer, bean "delayer" (by decide)]
  rw [discover, discover, debugger, tracer, delayer]

/-! ### What is discovered -/

/-- The strategies that a context enables, by a bean or by an attribute, innermost first. -/
def chosen (registry : Registry) (trace : Option Bool) (delay : Option Nat) : List Strategy :=
  (registry.bean? debuggerType).toList.map .debugger ++
    (if tracerOn registry trace then
      [.tracer (registry.bean? tracerType) (registry.bean? formatterType)] else []) ++
    (if (registry.bean? delayerType).isNone && delay.isNone then []
      else [.delayer (registry.bean? delayerType) delay])

variable {trace : Option Bool} {delay : Option Nat} {found : List Strategy}

theorem eq_of_findDebugger (h : findDebugger registry = .ok found) :
    found = (registry.bean? debuggerType).toList.map .debugger := by
  obtain ⟨bean, hbean, h⟩ := bind_eq_ok_iff.mp h
  rw [← eq_bean?_of_optionalBean hbean]
  cases bean with
  | none =>
    cases h
    rfl
  | some bean =>
    cases h
    rfl

theorem eq_of_findTracer (h : findTracer registry trace = .ok found) :
    found = if tracerOn registry trace then
      [.tracer (registry.bean? tracerType) (registry.bean? formatterType)] else [] := by
  rw [findTracer] at h
  split at h
  next off =>
    cases h
    subst off
    rfl
  next allowed =>
    obtain ⟨bean, hbean, h⟩ := bind_eq_ok_iff.mp h
    have on := tracerOn_iff registry allowed
    rw [← eq_bean?_of_optionalBean hbean] at on ⊢
    split at h
    next absent =>
      cases h
      rw [if_neg (on.not.mpr (not_not.mpr absent))]
    next present =>
      obtain ⟨formatter, hformatter, h⟩ := bind_eq_ok_iff.mp h
      cases h
      rw [if_pos (on.mpr present), eq_bean?_of_optionalBean hformatter]

theorem eq_of_findDelayer (h : findDelayer registry delay = .ok found) :
    found = if (registry.bean? delayerType).isNone && delay.isNone then []
      else [.delayer (registry.bean? delayerType) delay] := by
  obtain ⟨bean, hbean, h⟩ := bind_eq_ok_iff.mp h
  rw [← eq_bean?_of_optionalBean hbean]
  split at h
  next absent =>
    cases h
    rw [if_pos absent]
  next present =>
    cases h
    rw [if_neg present]

theorem eq_chosen_of_discover (h : discover registry trace delay = .ok found) :
    found = chosen registry trace delay := by
  obtain ⟨debugger, hdebugger, h⟩ := bind_eq_ok_iff.mp h
  obtain ⟨tracer, htracer, h⟩ := bind_eq_ok_iff.mp h
  obtain ⟨delayer, hdelayer, h⟩ := bind_eq_ok_iff.mp h
  cases h
  rw [eq_of_findDebugger hdebugger, eq_of_findTracer htracer, eq_of_findDelayer hdelayer, chosen]

end Strategy

end RouteLoom
