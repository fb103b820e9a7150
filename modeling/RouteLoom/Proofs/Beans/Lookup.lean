import RouteLoom.Beans.Registry
import RouteLoom.Proofs.FirstFault

/-!
# What a lookup finds

A lookup by name fails exactly if no level has the name. A lookup by type is decided by the nearest
level that has a bean of the type, and fails if there is no such level or if it has several.
-/

namespace RouteLoom.Registry

variable {r : Registry} {name type bean : String} {f : Fault}

/-- No level has a bean of this name. -/
def LacksName (r : Registry) (name : String) : Prop :=
  ∀ level ∈ r.levels, level.get? name = none

/-- No level has a bean of this type. -/
def LacksType (r : Registry) (type : String) : Prop :=
  ∀ level ∈ r.levels, level.namesOf type = []

instance (r : Registry) (type : String) : Decidable (r.LacksType type) :=
  inferInstanceAs (Decidable (∀ level ∈ r.levels, level.namesOf type = []))

/-- The nearest level with beans of this type has several, and `names` are their names. -/
def Ambiguous (r : Registry) (type : String) (names : List String) : Prop :=
  ∃ level, IsFirst (fun l => l.namesOf type = []) level r.levels ∧
    level.namesOf type = names ∧ 2 ≤ names.length

theorem findName_eq (name : String) (levels : List Bindings) :
    findName name levels =
      if ∀ level ∈ levels, level.get? name = none then
        .error (.dependencyNotFound ("name '" ++ name ++ "'"))
      else .ok name := by
  induction levels with
  | nil => rfl
  | cons level rest ih =>
    rw [findName, ih]
    cases h : level.get? name with
    | none => simp [h]
    | some type => simp [h]

theorem lookupName_of_lacksName (lacking : r.LacksName name) :
    r.lookupName name = .error (.dependencyNotFound ("name '" ++ name ++ "'")) := by
  rw [lookupName, findName_eq]
  exact if_pos lacking

theorem lookupName_of_not_lacksName (found : ¬ r.LacksName name) : r.lookupName name = .ok name := by
  rw [lookupName, findName_eq]
  exact if_neg found

theorem lookupName_eq_error_iff : r.lookupName name = .error f ↔
    r.LacksName name ∧ f = .dependencyNotFound ("name '" ++ name ++ "'") := by
  by_cases lacking : r.LacksName name
  · simp [lookupName_of_lacksName lacking, lacking, eq_comm]
  · simp [lookupName_of_not_lacksName lacking, lacking]

/-! ### By type -/

theorem findType_append {front : List Bindings} (lacking : ∀ l ∈ front, l.namesOf type = [])
    (rest : List Bindings) : findType type (front ++ rest) = findType type rest := by
  induction front with
  | nil => rfl
  | cons l front ih =>
    obtain ⟨none, others⟩ := List.forall_mem_cons.mp lacking
    rw [List.cons_append, findType, none]
    exact ih others

theorem lookupType_of_lacksType (lacking : r.LacksType type) :
    r.lookupType type = .error (.dependencyNotFound ("type '" ++ type ++ "'")) := by
  have all := findType_append lacking []
  rwa [List.append_nil] at all

theorem lookupType_of_isFirst {level : Bindings}
    (nearest : IsFirst (fun l => l.namesOf type = []) level r.levels)
    (some : level.namesOf type ≠ []) : r.lookupType type = findType type [level] := by
  obtain ⟨front, back, split, lacking⟩ := nearest
  rw [lookupType, split, findType_append lacking, findType, findType]
  split
  next none => exact absurd none some
  next => rfl
  next => rfl

theorem lookupType_of_ambiguous {names : List String} (several : r.Ambiguous type names) :
    r.lookupType type = .error (.ambiguousDependency type names) := by
  obtain ⟨level, nearest, rfl, many⟩ := several
  have some : level.namesOf type ≠ [] := fun none => by simp [none] at many
  rw [lookupType_of_isFirst nearest some, findType]
  split
  next none => exact absurd none some
  next single => simp [single] at many
  next => rfl

theorem lookupType_cases (r : Registry) (type : String) :
    r.LacksType type ∨ (∃ names, r.Ambiguous type names) ∨ ∃ bean, r.lookupType type = .ok bean := by
  rcases forall_or_exists_isFirst (fun l => l.namesOf type = []) r.levels with
    lacking | ⟨level, nearest, some⟩
  · exact .inl lacking
  · cases names : level.namesOf type with
    | nil => exact absurd names some
    | cons name rest =>
      cases rest with
      | nil =>
        refine .inr (.inr ⟨name, ?_⟩)
        rw [lookupType_of_isFirst nearest some, findType, names]
      | cons other rest =>
        refine .inr (.inl ⟨name :: other :: rest, level, nearest, names, ?_⟩)
        simp

theorem lookupType_eq_error_iff : r.lookupType type = .error f ↔
    r.LacksType type ∧ f = .dependencyNotFound ("type '" ++ type ++ "'") ∨
      ∃ names, r.Ambiguous type names ∧ f = .ambiguousDependency type names := by
  constructor
  · intro failed
    rcases r.lookupType_cases type with lacking | ⟨names, several⟩ | ⟨bean, found⟩
    · rw [lookupType_of_lacksType lacking, Except.error.injEq] at failed
      exact .inl ⟨lacking, failed.symm⟩
    · rw [lookupType_of_ambiguous several, Except.error.injEq] at failed
      exact .inr ⟨names, several, failed.symm⟩
    · rw [found] at failed
      cases failed
  · rintro (⟨lacking, rfl⟩ | ⟨names, several, rfl⟩)
    · exact lookupType_of_lacksType lacking
    · exact lookupType_of_ambiguous several

theorem ambiguous_iff {names : List String} :
    r.Ambiguous type names ↔ r.lookupType type = .error (.ambiguousDependency type names) := by
  rw [lookupType_eq_error_iff]
  simp

end RouteLoom.Registry
