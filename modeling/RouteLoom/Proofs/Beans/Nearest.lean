import RouteLoom.Proofs.Beans.Shadowing
import Mathlib.Data.List.Sort

/-!
# The nearest level with a bean of a type

A lookup by type is decided by the nearest level that holds any bean of the type. If it holds one,
that bean is found, if it holds several, their names are listed in ascending order, and the levels
behind it are not asked in either case.
-/

namespace RouteLoom

/-! ### One level -/

namespace Bindings

variable {b : Bindings} {type bean : String} {names : List String}

def Several (b : Bindings) (type : String) : Prop :=
  ∃ m n, m ≠ n ∧ b.get? m = some type ∧ b.get? n = some type

/-- The names of the level's beans of this type, in ascending order. -/
def Lists (b : Bindings) (type : String) (names : List String) : Prop :=
  names.Pairwise (· < ·) ∧ ∀ n, n ∈ names ↔ b.get? n = some type

theorem lists_namesOf (b : Bindings) (type : String) : b.Lists type (b.namesOf type) := by
  constructor
  · rw [namesOf, List.pairwise_map]
    exact b.sorted.sublist List.filter_sublist
  · intro n
    exact mem_namesOf_iff

theorem lists_iff : b.Lists type names ↔ names = b.namesOf type := by
  constructor
  · rintro ⟨ascending, listed⟩
    obtain ⟨sorted, held⟩ := b.lists_namesOf type
    apply ascending.eq_of_mem_iff sorted
    intro n
    rw [listed, held]
  · rintro rfl
    exact b.lists_namesOf type

theorem namesOf_eq_nil_iff : b.namesOf type = [] ↔ ∀ n, b.get? n ≠ some type := by
  simp only [List.eq_nil_iff_forall_not_mem, mem_namesOf_iff, ne_eq]

theorem namesOf_eq_singleton_iff :
    b.namesOf type = [bean] ↔ ∀ n, b.get? n = some type ↔ n = bean := by
  rw [eq_comm, ← lists_iff, Lists]
  simp only [List.pairwise_singleton, List.mem_singleton, true_and]
  exact forall_congr' fun n => iff_comm

theorem several_iff : b.Several type ↔ 2 ≤ (b.namesOf type).length := by
  obtain ⟨ascending, held⟩ := b.lists_namesOf type
  simp only [Several, ← held]
  generalize b.namesOf type = names at ascending
  match names with
  | [] => simp
  | [name] =>
    refine iff_of_false ?_ (by simp)
    rintro ⟨m, n, apart, hm, hn⟩
    exact apart ((List.mem_singleton.mp hm).trans (List.mem_singleton.mp hn).symm)
  | m :: n :: rest =>
    have below : m < n := (List.pairwise_cons.mp ascending).1 n List.mem_cons_self
    refine iff_of_true ⟨m, n, Std.ne_of_lt below, ?_, ?_⟩ (by simp)
    · exact List.mem_cons_self
    · exact List.mem_cons_of_mem m List.mem_cons_self

end Bindings

/-! ### The chain -/

namespace Registry

variable {r : Registry} {type name bean : String} {level : Bindings} {names : List String}

def Nearest (r : Registry) (type : String) (level : Bindings) : Prop :=
  IsFirst (fun l => ∀ n, l.get? n ≠ some type) level r.levels ∧ ∃ n, level.get? n = some type

theorem nearest_iff : r.Nearest type level ↔
    IsFirst (fun l => l.namesOf type = []) level r.levels ∧ level.namesOf type ≠ [] := by
  simp only [Nearest, ne_eq, Bindings.namesOf_eq_nil_iff, not_forall, not_not]

theorem lookupType_of_nearest (nearest : r.Nearest type level) :
    r.lookupType type = findType type [level] := by
  obtain ⟨first, some⟩ := nearest_iff.mp nearest
  exact lookupType_of_isFirst first some

theorem lookupType_eq_ok_iff_nearest : r.lookupType type = .ok bean ↔
    ∃ level, r.Nearest type level ∧ ∀ n, level.get? n = some type ↔ n = bean := by
  simp only [← Bindings.namesOf_eq_singleton_iff]
  constructor
  · intro found
    obtain ⟨nearer, level, further, split, without, single⟩ := lookupType_eq_ok_iff.mp found
    refine ⟨level, nearest_iff.mpr ⟨⟨nearer, further, split, without⟩, ?_⟩, single⟩
    rw [single]
    exact List.cons_ne_nil bean []
  · rintro ⟨level, nearest, single⟩
    rw [lookupType_of_nearest nearest, findType, single]

theorem ambiguous_iff_nearest : r.Ambiguous type names ↔
    ∃ level, r.Nearest type level ∧ level.Several type ∧ level.Lists type names := by
  simp only [Ambiguous, nearest_iff, Bindings.several_iff, Bindings.lists_iff]
  refine exists_congr fun level => ?_
  constructor
  · rintro ⟨first, rfl, many⟩
    refine ⟨⟨first, fun none => ?_⟩, many, rfl⟩
    simp [none] at many
  · rintro ⟨⟨first, -⟩, many, rfl⟩
    exact ⟨first, rfl, many⟩

theorem lacksType_iff_get? :
    r.LacksType type ↔ ∀ level ∈ r.levels, ∀ n, level.get? n ≠ some type := by
  simp only [LacksType, Bindings.namesOf_eq_nil_iff]

theorem lookupName_eq_ok_iff_get? : r.lookupName name = .ok bean ↔
    bean = name ∧ ∃ level ∈ r.levels, ∃ type, level.get? name = some type := by
  rw [lookupName_eq_ok_iff, typeOf?, List.findSome?_isSome_iff]
  simp only [Option.isSome_iff_exists]

/-- Every lookup is decided by what the levels hold. By type, the nearest level with a bean of the
type is asked, and the answer is its only bean of the type, or the names of all of them in ascending
order if there are several; nothing is found exactly if no level has one. By name, the name itself is
the answer if any level has it. -/
theorem lookups_decided (r : Registry) (type name : String) :
    (∀ bean, r.lookupType type = .ok bean ↔
      ∃ level, r.Nearest type level ∧ ∀ n, level.get? n = some type ↔ n = bean) ∧
    ((∃ asked names, r.lookupType type = .error (.ambiguousDependency asked names)) ↔
      ∃ level, r.Nearest type level ∧ level.Several type) ∧
    (∀ asked names, r.lookupType type = .error (.ambiguousDependency asked names) ↔
      asked = type ∧
        ∃ level, r.Nearest type level ∧ level.Several type ∧ level.Lists type names) ∧
    (∀ lookup, r.lookupType type = .error (.dependencyNotFound lookup) ↔
      lookup = "type '" ++ type ++ "'" ∧ ∀ level ∈ r.levels, ∀ n, level.get? n ≠ some type) ∧
    (∀ bean, r.lookupName name = .ok bean ↔
      bean = name ∧ ∃ level ∈ r.levels, ∃ type, level.get? name = some type) ∧
    ∀ f, r.lookupName name = .error f ↔
      f = .dependencyNotFound ("name '" ++ name ++ "'") ∧
        ∀ level ∈ r.levels, level.get? name = none := by
  have ambiguous (asked : String) (names : List String) :
      r.lookupType type = .error (.ambiguousDependency asked names) ↔ asked = type ∧
        ∃ level, r.Nearest type level ∧ level.Several type ∧ level.Lists type names := by
    rw [← ambiguous_iff_nearest, lookupType_eq_error_iff]
    constructor
    · rintro (⟨-, ⟨⟩⟩ | ⟨names, several, ⟨⟩⟩)
      exact ⟨rfl, several⟩
    · rintro ⟨rfl, several⟩
      exact .inr ⟨names, several, rfl⟩
  refine ⟨fun bean => lookupType_eq_ok_iff_nearest, ?_, ambiguous, fun lookup => ?_,
    fun bean => lookupName_eq_ok_iff_get?, fun f => ?_⟩
  · simp only [ambiguous]
    constructor
    · rintro ⟨_, names, rfl, level, nearest, several, -⟩
      exact ⟨level, nearest, several⟩
    · rintro ⟨level, nearest, several⟩
      exact ⟨type, level.namesOf type, rfl, level, nearest, several, level.lists_namesOf type⟩
  · rw [← lacksType_iff_get?, lookupType_eq_error_iff]
    constructor
    · rintro (⟨lacking, ⟨⟩⟩ | ⟨names, -, ⟨⟩⟩)
      exact ⟨rfl, lacking⟩
    · rintro ⟨rfl, lacking⟩
      exact .inl ⟨lacking, rfl⟩
  · rw [lookupName_eq_error_iff]
    exact and_comm

/-- Two loggers of a level hide the only one of the level behind, and a delayer is found through a
level without one. -/
example :
    let r : Registry := ⟨.ofList [("net", "Logger"), ("file", "Logger")],
      [.empty, .ofList [("log", "Logger"), ("slow", "Delayer")]]⟩
    r.lookupType "Logger" = .error (.ambiguousDependency "Logger" ["file", "net"]) ∧
      r.lookupType "Delayer" = .ok "slow" := by
  decide

end Registry

end RouteLoom
