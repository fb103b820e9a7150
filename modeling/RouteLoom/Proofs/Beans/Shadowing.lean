import RouteLoom.Proofs.Beans.Lookup

/-!
# Shadowed beans

A name denotes the bean of the nearest level that has it. A lookup by type stops at the nearest
level that has a bean of the type, and what it gives is that bean's name. A nearer level has no bean
of the type but it may have one of the same name, and then the name found denotes that bean, which
is of another type.
-/

namespace RouteLoom

/-! ### One level -/

namespace Bindings

variable {b : Bindings} {name value : String}

theorem get?_eq_some_iff : b.get? name = some value ↔ (name, value) ∈ b.entries := by
  rw [get?, List.lookup_eq_some_iff]
  constructor
  · rintro ⟨front, back, split, -⟩
    rw [split]
    exact List.mem_append_right front List.mem_cons_self
  · intro listed
    obtain ⟨front, back, split⟩ := List.append_of_mem listed
    refine ⟨front, back, split, fun e he => ?_⟩
    have sorted := b.sorted
    rw [split] at sorted
    have before : e.1 < name := (List.pairwise_append.mp sorted).2.2 e he _ List.mem_cons_self
    simpa using (Std.ne_of_lt before).symm

theorem mem_namesOf_iff : name ∈ b.namesOf value ↔ b.get? name = some value := by
  rw [get?_eq_some_iff, namesOf, List.mem_map]
  constructor
  · rintro ⟨⟨n, v⟩, listed, rfl⟩
    obtain ⟨entry, typed⟩ := List.mem_filter.mp listed
    rwa [← of_decide_eq_true typed]
  · intro entry
    exact ⟨(name, value), List.mem_filter.mpr ⟨entry, decide_eq_true rfl⟩, rfl⟩

end Bindings

/-! ### What a name denotes -/

namespace Registry

variable {r : Registry} {name type bean : String} {nearer further : List Bindings} {level : Bindings}

/-- The type of the bean that a name denotes: the nearest level that has the name decides. -/
def typeOf? (r : Registry) (name : String) : Option String := r.levels.findSome? (·.get? name)

theorem lookupName_eq_ok_iff :
    r.lookupName name = .ok bean ↔ bean = name ∧ (r.typeOf? name).isSome = true := by
  have lacks : r.LacksName name ↔ r.typeOf? name = none := by
    rw [LacksName, typeOf?, List.findSome?_eq_none_iff]
  by_cases lacking : r.LacksName name
  · rw [lookupName_of_lacksName lacking, lacks.mp lacking]
    simp
  · rw [lookupName_of_not_lacksName lacking, Option.isSome_iff_ne_none, ne_eq, ← lacks]
    simp [lacking, eq_comm]

/-- Levels that lack the name are passed over, and a level that has it decides. -/
theorem typeOf?_of_levels (split : r.levels = nearer ++ level :: further)
    (lacking : ∀ l ∈ nearer, l.get? name = none) (has : level.get? name = some type) :
    r.typeOf? name = some type := by
  rw [typeOf?, split, List.findSome?_append, List.findSome?_eq_none_iff.mpr lacking,
    List.findSome?_cons, has]
  rfl

theorem exists_typeOf?_of_levels (split : r.levels = nearer ++ level :: further)
    (shadowed : ¬ ∀ l ∈ nearer, l.get? name = none) :
    ∃ l ∈ nearer, ∃ other, l.get? name = some other ∧ r.typeOf? name = some other := by
  cases first : nearer.findSome? (·.get? name) with
  | none => exact absurd (List.findSome?_eq_none_iff.mp first) shadowed
  | some other =>
    obtain ⟨l, hl, has⟩ := List.exists_of_findSome?_eq_some first
    refine ⟨l, hl, other, has, ?_⟩
    rw [typeOf?, split, List.findSome?_append, first]
    rfl

/-! ### What a lookup by type gives -/

theorem lookupType_eq_ok_iff : r.lookupType type = .ok bean ↔
    ∃ nearer level further, r.levels = nearer ++ level :: further ∧
      (∀ l ∈ nearer, l.namesOf type = []) ∧ level.namesOf type = [bean] := by
  constructor
  · intro found
    rcases forall_or_exists_isFirst (fun l => l.namesOf type = []) r.levels with
      lacking | ⟨level, nearest, some⟩
    · rw [lookupType_of_lacksType lacking] at found
      cases found
    · obtain ⟨nearer, further, split, without⟩ := nearest
      refine ⟨nearer, level, further, split, without, ?_⟩
      rw [lookupType_of_isFirst ⟨nearer, further, split, without⟩ some, findType] at found
      split at found
      next none => exact absurd none some
      next name single =>
        cases found
        exact single
      next => cases found
  · rintro ⟨nearer, level, further, split, without, single⟩
    have some : level.namesOf type ≠ [] := by simp [single]
    rw [lookupType_of_isFirst ⟨nearer, further, split, without⟩ some, findType, single]

/-- The name that a lookup by type gives is that of the only bean of the type at the nearest level
with such beans. It denotes a bean of the type exactly if no nearer level has a bean of that name. -/
theorem typeOf?_of_lookupType (r : Registry) (type name : String)
    (found : r.lookupType type = .ok name) :
    ∃ nearer level further, r.levels = nearer ++ level :: further ∧
      (∀ l ∈ nearer, l.namesOf type = []) ∧ level.namesOf type = [name] ∧
      r.lookupName name = .ok name ∧
      (r.typeOf? name = some type ↔ ∀ l ∈ nearer, l.get? name = none) := by
  obtain ⟨nearer, level, further, split, without, single⟩ := lookupType_eq_ok_iff.mp found
  have has : level.get? name = some type :=
    Bindings.mem_namesOf_iff.mp (single ▸ List.mem_singleton_self name)
  have coherent : r.typeOf? name = some type ↔ ∀ l ∈ nearer, l.get? name = none := by
    constructor
    · intro denotes
      by_contra shadowed
      -- A nearer bean of the name would be one of the type, and its level has none.
      obtain ⟨l, hl, other, has_other, denoted⟩ := exists_typeOf?_of_levels split shadowed
      rw [denotes, Option.some.injEq] at denoted
      have listed : name ∈ l.namesOf type := Bindings.mem_namesOf_iff.mpr (denoted ▸ has_other)
      rw [without l hl] at listed
      cases listed
    · intro lacking
      exact typeOf?_of_levels split lacking has
  have named : (r.typeOf? name).isSome = true := by
    by_cases lacking : ∀ l ∈ nearer, l.get? name = none
    · rw [coherent.mpr lacking]
      rfl
    · obtain ⟨_, _, _, _, denoted⟩ := exists_typeOf?_of_levels split lacking
      rw [denoted]
      rfl
  exact ⟨nearer, level, further, split, without, single,
    lookupName_eq_ok_iff.mpr ⟨rfl, named⟩, coherent⟩

/-- The middle one of three levels has the logger, and none in front of it has its name. -/
theorem typeOf?_of_lookupType_net :
    let r : Registry := ⟨.ofList [("log", "File")],
      [.ofList [("net", "Logger"), ("store", "Store")], .ofList [("log", "Logger")]]⟩
    r.lookupType "Logger" = .ok "net" ∧
      ∃ nearer level further, r.levels = nearer ++ level :: further ∧
        (∀ l ∈ nearer, l.namesOf "Logger" = []) ∧ level.namesOf "Logger" = ["net"] ∧
        r.lookupName "net" = .ok "net" ∧
        (r.typeOf? "net" = some "Logger" ↔ ∀ l ∈ nearer, l.get? "net" = none) := by
  intro r
  have found : r.lookupType "Logger" = .ok "net" := by decide
  exact ⟨found, typeOf?_of_lookupType r "Logger" "net" found⟩

/-- The logger of the level behind is found, but its name denotes a file. -/
theorem typeOf?_shadowed :
    let r : Registry := ⟨.ofList [("log", "File")], [.ofList [("log", "Logger")]]⟩
    r.lookupType "Logger" = .ok "log" ∧ r.lookupName "log" = .ok "log" ∧
      r.typeOf? "log" = some "File" ∧ r.typeOf? "log" ≠ some "Logger" := by
  decide

end Registry

end RouteLoom
