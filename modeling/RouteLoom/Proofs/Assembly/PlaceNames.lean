import RouteLoom.Proofs.Assembly.RouteIds
import Mathlib.Order.Bounds.Basic

/-!
# Routes named after their places

An underscore is added to a name as long as the name is declared. The declared ids are finitely many,
so the loop stops, at the least number of underscores for which the name is free.
-/

namespace RouteLoom

variable {taken : List String} {name final : String}

/-- The loop that adds underscores to a name as long as the name is taken, begun at `name`, stops at
`final`. -/
inductive Padding (taken : List String) : (name final : String) → Prop
  | stop {name : String} (free : name ∉ taken) : Padding taken name name
  | turn {name final : String} (hit : name ∈ taken) (later : Padding taken (name ++ "_") final) :
      Padding taken name final

theorem Padding.unique {other : String} (stops : Padding taken name final)
    (stops' : Padding taken name other) : final = other := by
  induction stops with
  | stop free =>
    cases stops' with
    | stop _ => rfl
    | turn hit _ => exact absurd hit free
  | turn hit _ ih =>
    cases stops' with
    | stop free => exact absurd hit free
    | turn _ later => exact ih later

theorem Padding.of_padded {k : Nat} (before : ∀ j < k, padded name j ∈ taken)
    (free : padded name k ∉ taken) : Padding taken name (padded name k) := by
  induction k generalizing name with
  | zero =>
    rw [padded_zero] at free ⊢
    exact .stop free
  | succ k ih =>
    have hit : name ∈ taken := padded_zero name ▸ before 0 k.succ_pos
    have later (j : Nat) (hj : j < k) : padded (name ++ "_") j ∈ taken := by
      rw [padded_append]
      exact before (j + 1) (Nat.succ_lt_succ hj)
    rw [← padded_append] at free ⊢
    exact .turn hit (ih later free)

theorem exists_isLeast_freeName (taken : List String) (name : String) :
    ∃ k ≤ taken.length, freeName taken taken.length name = padded name k ∧
      IsLeast {j | padded name j ∉ taken} k := by
  obtain ⟨k, found, before, -⟩ := freeName_eq taken taken.length name
  have free : padded name k ∉ taken := found ▸ freeName_not_mem taken name
  refine ⟨k, le_length_of_taken before, found, free, fun j untaken => ?_⟩
  by_contra earlier
  exact untaken (before j (Nat.lt_of_not_le earlier))

theorem padding_iff : Padding taken name final ↔ final = freeName taken taken.length name := by
  obtain ⟨k, -, found, free, least⟩ := exists_isLeast_freeName taken name
  have before (j : Nat) (hj : j < k) : padded name j ∈ taken := by
    by_contra untaken
    exact Nat.not_le_of_lt hj (least untaken)
  have stops : Padding taken name (padded name k) := .of_padded before free
  rw [found]
  constructor
  · intro stops'
    exact stops'.unique stops
  · rintro rfl
    exact stops

/-- What becomes of the route at the place `i`, if `declared` are the ids that are declared. -/
structure NamedAt (declared : List String) (i : Nat) (r given : Route) : Prop where
  outputs : given.outputs = r.outputs
  kept : r.id ≠ "" → given.id = r.id
  fresh : r.id = "" → given.id ∉ declared
  stops : r.id = "" → ∀ final,
    Padding declared ("route" ++ toString (i + 1)) final ↔ final = given.id
  least : r.id = "" → ∃ k ≤ declared.length, given.id = padded ("route" ++ toString (i + 1)) k ∧
    IsLeast {j | padded ("route" ++ toString (i + 1)) j ∉ declared} k

theorem namedAt_assignedId (declared : List String) (r : Route) (i : Nat) :
    NamedAt declared i r { r with id := assignedId declared r i } where
  outputs := rfl
  kept named := assignedId_of_named named i
  fresh unnamed := (assignedId_of_unnamed declared unnamed i).1
  stops unnamed final := by
    rw [padding_iff, assignedId, if_pos unnamed]
  least unnamed := by
    rw [assignedId, if_pos unnamed]
    exact exists_isLeast_freeName declared _

/-- All routes stay at their places, and each is named by the declared ids alone. The id that an
unnamed route is given differs from the ids of all other routes, declared or given. -/
theorem assignIds_positional (routes : List Route) :
    (assignIds routes).length = routes.length ∧
    (∀ (i : Nat) (r : Route), routes[i]? = some r →
      ∃ given, (assignIds routes)[i]? = some given ∧ NamedAt (declaredIds routes) i r given) ∧
    ∀ (i j : Nat) (r given other : Route), i ≠ j → routes[i]? = some r → r.id = "" →
      (assignIds routes)[i]? = some given → (assignIds routes)[j]? = some other →
        given.id ≠ other.id := by
  refine ⟨length_assignIds routes, fun i r hr => ?_, ?_⟩
  · refine ⟨_, ?_, namedAt_assignedId (declaredIds routes) r i⟩
    rw [getElem?_assignIds, hr, Option.map_some]
  · intro i j r given other apart hr unnamed hgiven hother same
    rw [getElem?_assignIds, hr, Option.map_some, Option.some.injEq] at hgiven
    rw [getElem?_assignIds] at hother
    obtain ⟨s, hs, rfl⟩ := Option.map_eq_some_iff.mp hother
    subst hgiven
    obtain ⟨named, -⟩ := named_of_same_assignedId (List.mem_of_getElem? hr)
      (List.mem_of_getElem? hs) apart same
    exact named unnamed

/-- Declared ids that look like given ones, or like the start of them, are gone around. -/
example :
    (assignIds [⟨"", []⟩, ⟨"route1", []⟩, ⟨"route1_", []⟩, ⟨"route11", []⟩, ⟨"", []⟩]).map Route.id =
      ["route1__", "route1", "route1_", "route11", "route5"] := by
  decide +kernel

end RouteLoom
