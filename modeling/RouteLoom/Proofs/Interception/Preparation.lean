import RouteLoom.Interception.Any
import RouteLoom.Proofs.Beans.Extension

/-!
# Whether an interceptor can be prepared

A built-in strategy always can. A declared intercept can if the registry meets every one of its
requirements, and if not, the first that is not met is to blame. Nothing but the requirements and
the registry matters, so an intercept that was prepared before is prepared alike.
-/

namespace RouteLoom

variable {registry : Registry} {f : Fault}

/-! ### One requirement -/

namespace Requirement

/-- The lookup that a requirement asks for fails, because no bean is found or because several are. -/
inductive Unmet (registry : Registry) (r : Requirement) : Fault → Prop
  | name {bean : String} (asked : r.bean = some bean) (lacking : registry.LacksName bean) :
      Unmet registry r (.dependencyNotFound ("name '" ++ bean ++ "'"))
  | type {type : String} (asked : r.type = some type) (lacking : registry.LacksType type) :
      Unmet registry r (.dependencyNotFound ("type '" ++ type ++ "'"))
  | ambiguous {type : String} {names : List String} (asked : r.type = some type)
      (several : registry.Ambiguous type names) :
      Unmet registry r (.ambiguousDependency type names)

theorem resolve_eq_error_iff {r : Requirement} (formed : r.wellFormed = true) :
    r.resolve registry = .error f ↔ r.Unmet registry f := by
  obtain ⟨var, bean, type⟩ := r
  cases bean with
  | none =>
    cases type with
    | none => cases formed
    | some type =>
      rw [resolve, Registry.lookupType_eq_error_iff]
      constructor
      · rintro (⟨lacking, rfl⟩ | ⟨names, several, rfl⟩)
        · exact .type rfl lacking
        · exact .ambiguous rfl several
      · rintro (⟨⟨⟩⟩ | ⟨⟨⟩, lacking⟩ | ⟨⟨⟩, several⟩)
        · exact .inl ⟨lacking, rfl⟩
        · exact .inr ⟨_, several, rfl⟩
  | some bean =>
    cases type with
    | none =>
      rw [resolve, Registry.lookupName_eq_error_iff]
      constructor
      · rintro ⟨lacking, rfl⟩
        exact .name rfl lacking
      · rintro (⟨⟨⟩, lacking⟩ | ⟨⟨⟩⟩ | ⟨⟨⟩⟩)
        exact ⟨lacking, rfl⟩
    | some type => cases formed

theorem resolve_of_malformed {r : Requirement} (malformed : r.wellFormed = false) :
    r.resolve registry = .error
      (.other ("requirement '" ++ r.var ++ "' must set exactly one of 'bean' or 'type'")) := by
  obtain ⟨var, bean, type⟩ := r
  cases bean <;> cases type
  · rfl
  · cases malformed
  · cases malformed
  · rfl

/-- The message of a failed lookup does not begin like that of a malformed requirement. -/
theorem Unmet.head?_message_ne {r : Requirement} (unmet : r.Unmet registry f) :
    f.message.toList.head? ≠ some 'r' := by
  have head (s t : String) (filled : s.toList.head? ≠ none) :
      (s ++ t).toList.head? = s.toList.head? := by
    rw [String.toList_append, List.head?_append_of_ne_nil _ (by simpa using filled)]
  -- The messages are compared as literals: opening `Fault.message` by its equations is slow.
  cases unmet with
  | name asked lacking =>
    change ("No bean found for " ++ _).toList.head? ≠ _
    rw [head _ _ (by decide)]
    decide
  | type asked lacking =>
    change ("No bean found for " ++ _).toList.head? ≠ _
    rw [head _ _ (by decide)]
    decide
  | ambiguous asked several =>
    change ("Ambiguous lookup for type '" ++ _ ++ _ ++ _ ++ _ ++ _ ++ _).toList.head? ≠ _
    simp only [String.append_assoc]
    rw [head _ _ (by decide)]
    decide

theorem Unmet.message_ne {r q : Requirement} {g : Fault} (unmet : r.Unmet registry f)
    (malformed : q.wellFormed = false) (failed : q.resolve registry = .error g) :
    f.message ≠ g.message := by
  rw [resolve_of_malformed malformed, Except.error.injEq] at failed
  rw [← failed]
  intro same
  refine unmet.head?_message_ne ?_
  rw [same]
  change ("requirement '" ++ _ ++ _).toList.head? = _
  rw [String.append_assoc, String.toList_append]
  rfl

theorem bindAll_eq_error_iff (rs : List Requirement) (b : Bindings) :
    bindAll registry rs b = .error f ↔
      ∃ r, IsFirst (fun q => ∃ bean, q.resolve registry = .ok bean) r rs ∧
        r.resolve registry = .error f := by
  induction rs generalizing b with
  | nil => simp [bindAll, isFirst_nil]
  | cons q rs ih =>
    rw [bindAll]
    cases hq : q.resolve registry with
    | error g => simp [isFirst_cons, hq]
    | ok bean => simp [isFirst_cons, hq, ih]

end Requirement

/-! ### One intercept -/

namespace Intercept

/-- The first requirement of an intercept that is not met gives the fault. -/
def Unprepared (registry : Registry) (i : Intercept) (f : Fault) : Prop :=
  ∃ r, IsFirst (fun q => ∀ g, ¬ q.Unmet registry g) r i.requirements ∧ r.Unmet registry f

theorem prepare_eq_error_iff {i : Intercept}
    (formed : ∀ r ∈ i.requirements, r.wellFormed = true) :
    i.prepare registry = .error f ↔
      ∃ g, i.Unprepared registry g ∧ f = .configuration i.id g.message := by
  have met : ∀ q ∈ i.requirements,
      ((∃ bean, q.resolve registry = .ok bean) ↔ ∀ g, ¬ q.Unmet registry g) := fun q hq => by
    simp only [exists_ok_iff, ne_eq, Requirement.resolve_eq_error_iff (formed q hq)]
  have failing (g : Fault) :
      Requirement.bindAll registry i.requirements .empty = .error g ↔ i.Unprepared registry g := by
    rw [Requirement.bindAll_eq_error_iff, Unprepared]
    refine exists_congr fun r => ?_
    rw [isFirst_congr met]
    exact and_congr_right fun first => Requirement.resolve_eq_error_iff (formed r first.mem)
  rw [prepare]
  simp only [← failing]
  cases Requirement.bindAll registry i.requirements .empty with
  | ok resolved => simp
  | error g => simp [eq_comm]

theorem prepare_of_prepare {i p : Intercept} (hp : i.prepare registry = .ok p) :
    p.prepare registry = .ok p := by
  rw [prepare] at hp
  split at hp
  next resolved found =>
    cases hp
    rw [prepare, found]
  next => cases hp

end Intercept

/-! ### Any interceptor -/

namespace Interception

theorem prepare_declared (registry : Registry) (i : Intercept) :
    Interceptor.prepare registry (declared i) = (i.prepare registry).map declared := rfl

theorem prepare_of_prepare {i p : Interception}
    (hp : Interceptor.prepare registry i = .ok p) : Interceptor.prepare registry p = .ok p := by
  cases i with
  | builtIn s =>
    cases hp
    rfl
  | declared i =>
    rw [prepare_declared] at hp
    cases prepared : i.prepare registry with
    | error f =>
      rw [prepared] at hp
      cases hp
    | ok q =>
      rw [prepared] at hp
      cases hp
      rw [prepare_declared, Intercept.prepare_of_prepare prepared]
      rfl

end Interception

/-! ### With a larger registry -/

section

variable {large small : Registry}

theorem Requirement.resolve_of_extends (larger : large.Extends small) {r : Requirement}
    {found : String} (resolved : r.resolve small = .ok found) : r.resolve large = .ok found := by
  obtain ⟨var, bean, type⟩ := r
  cases bean with
  | none =>
    cases type with
    | none => cases resolved
    | some type => exact larger.lookupType_eq_ok resolved
  | some bean =>
    cases type with
    | none => exact larger.lookupName_eq_ok resolved
    | some type => cases resolved

theorem Requirement.bindAll_of_extends (larger : large.Extends small) {rs : List Requirement}
    {before after : Bindings} (bound : bindAll small rs before = .ok after) :
    bindAll large rs before = .ok after := by
  induction rs generalizing before with
  | nil => exact bound
  | cons r rs ih =>
    rw [bindAll] at bound ⊢
    cases resolved : r.resolve small with
    | error f =>
      rw [resolved] at bound
      cases bound
    | ok bean =>
      rw [resolved] at bound
      rw [resolve_of_extends larger resolved]
      exact ih bound

theorem Intercept.prepare_of_extends (larger : large.Extends small) {i p : Intercept}
    (hp : i.prepare small = .ok p) : i.prepare large = .ok p := by
  rw [prepare] at hp ⊢
  split at hp
  next resolved bound =>
    rw [Requirement.bindAll_of_extends larger bound]
    exact hp
  next => cases hp

theorem Interception.prepare_of_extends (larger : large.Extends small) {i p : Interception}
    (hp : Interceptor.prepare small i = .ok p) : Interceptor.prepare large i = .ok p := by
  cases i with
  | builtIn s => exact hp
  | declared i =>
    rw [prepare_declared] at hp ⊢
    obtain ⟨q, prepared, same⟩ := map_eq_ok_iff.mp hp
    rw [Intercept.prepare_of_extends larger prepared, ← same]
    rfl

end

end RouteLoom
