import RouteLoom.Assembly.RouteIds
import Mathlib.Data.List.Nodup

/-!
# The ids that routes are given

An unnamed route is given a name that nobody declared: of the names made from its place by adding
underscores, one more than there are declared ids cannot all be declared. Names made from different
places differ as well, because a number has no underscore in it and so can be read off the name.
-/

namespace RouteLoom

/-! ### Names with underscores behind them -/

def padded (name : String) (k : Nat) : String := name ++ String.ofList (List.replicate k '_')

theorem toList_padded (name : String) (k : Nat) :
    (padded name k).toList = name.toList ++ List.replicate k '_' := by
  rw [padded, String.toList_append, String.toList_ofList]

@[simp] theorem padded_zero (name : String) : padded name 0 = name := by
  rw [padded, List.replicate_zero]
  exact String.append_empty

theorem padded_append (name : String) (k : Nat) : padded (name ++ "_") k = padded name (k + 1) := by
  rw [← String.toList_inj, toList_padded, toList_padded, String.toList_append, List.append_assoc,
    List.replicate_succ]
  rfl

theorem padded_injective (name : String) : Function.Injective (padded name) := by
  intro j k same
  have chars := congrArg (fun s => s.toList.length) same
  simpa [toList_padded] using chars

/-! ### A name that is free -/

/-- The search tries one underscore more each time. It stops at the first name that is not taken, or
when there are no underscores to spare. -/
theorem freeName_eq (taken : List String) (spare : Nat) (name : String) :
    ∃ k, freeName taken spare name = padded name k ∧ (∀ j < k, padded name j ∈ taken) ∧
      (padded name k ∈ taken → k = spare) := by
  induction spare generalizing name with
  | zero => exact ⟨0, by rw [freeName, padded_zero], nofun, fun _ => rfl⟩
  | succ spare ih =>
    rw [freeName]
    split
    next occupied =>
      obtain ⟨k, found, before, last⟩ := ih (name ++ "_")
      simp only [padded_append] at found before last
      refine ⟨k + 1, found, fun j hj => ?_, fun hit => by rw [last hit]⟩
      cases j with
      | zero => rwa [padded_zero]
      | succ j => exact before j (Nat.lt_of_succ_lt_succ hj)
    next free => exact ⟨0, (padded_zero name).symm, nofun, fun hit => absurd (padded_zero name ▸ hit) free⟩

/-- Names with more and more underscores are distinct, so no more of them are taken than there are
taken names. -/
theorem le_length_of_taken {taken : List String} {name : String} {k : Nat}
    (before : ∀ j < k, padded name j ∈ taken) : k ≤ taken.length := by
  have all : (List.range k).map (padded name) ⊆ taken := by
    intro n hn
    obtain ⟨j, hj, rfl⟩ := List.mem_map.mp hn
    exact before j (List.mem_range.mp hj)
  have distinct : ((List.range k).map (padded name)).Nodup :=
    List.nodup_range.map (padded_injective name)
  have bound := distinct.length_le_of_subset all
  rwa [List.length_map, List.length_range] at bound

theorem freeName_not_mem (taken : List String) (name : String) :
    freeName taken taken.length name ∉ taken := by
  obtain ⟨k, found, before, last⟩ := freeName_eq taken taken.length name
  rw [found]
  intro hit
  -- Otherwise one name more would be taken than there are taken names.
  have all : ∀ j < k + 1, padded name j ∈ taken := by
    intro j hj
    rcases Nat.lt_or_eq_of_le (Nat.le_of_lt_succ hj) with earlier | rfl
    · exact before j earlier
    · exact hit
  have bound : k + 1 ≤ taken.length := le_length_of_taken all
  rw [last hit] at bound
  exact Nat.lt_irrefl _ bound

/-! ### Places -/

theorem underscore_not_mem_digits (n : Nat) : '_' ∉ (toString n).toList := by
  intro listed
  have digit := Nat.isDigit_of_mem_toDigits (by decide) (by decide) (Nat.toList_repr ▸ listed)
  revert digit
  decide

theorem digits_injective {m n : Nat} (same : (toString m).toList = (toString n).toList) : m = n := by
  have digits : Nat.toDigits 10 m = Nat.toDigits 10 n := by
    rw [← Nat.toList_repr, ← Nat.toList_repr]
    exact same
  calc m = Nat.ofDigitChars 10 (Nat.toDigits 10 m) 0 :=
        (Nat.ofDigitChars_toDigits (by decide) (by decide)).symm
    _ = Nat.ofDigitChars 10 (Nat.toDigits 10 n) 0 := by rw [digits]
    _ = n := Nat.ofDigitChars_toDigits (by decide) (by decide)

theorem place_injective {m n j k : Nat}
    (same : padded ("route" ++ toString m) j = padded ("route" ++ toString n) k) : m = n := by
  have digits (n k : Nat) :
      ((toString n).toList ++ List.replicate k '_').takeWhile (· ≠ '_') = (toString n).toList := by
    have number : ∀ c ∈ (toString n).toList, (decide (c ≠ '_')) = true := fun c hc =>
      decide_eq_true fun same => underscore_not_mem_digits n (same ▸ hc)
    rw [List.takeWhile_append_of_pos number]
    cases k <;> simp [List.replicate_succ]
  rw [← String.toList_inj, toList_padded, toList_padded, String.toList_append, String.toList_append,
    List.append_assoc, List.append_assoc, List.append_cancel_left_eq] at same
  have numbers := congrArg (List.takeWhile (· ≠ '_')) same
  rw [digits, digits] at numbers
  exact digits_injective numbers

/-! ### The routes -/

section

variable {routes : List Route} {taken : List String} {r : Route}

@[simp] theorem length_assignIds (routes : List Route) :
    (assignIds routes).length = routes.length := by
  simp [assignIds]

theorem getElem?_assignIds (routes : List Route) (i : Nat) :
    (assignIds routes)[i]? =
      routes[i]?.map fun r => { r with id := assignedId (declaredIds routes) r i } := by
  rw [assignIds, List.getElem?_map, List.getElem?_zipIdx, Option.map_map, Nat.zero_add]
  rfl

theorem exists_route_of_mem_assignIds (hr : r ∈ assignIds routes) :
    ∃ declared ∈ routes, r.outputs = declared.outputs := by
  obtain ⟨⟨declared, i⟩, hi, rfl⟩ := List.mem_map.mp hr
  exact ⟨declared, List.fst_mem_of_mem_zipIdx hi, rfl⟩

theorem assignedId_of_named (named : r.id ≠ "") (i : Nat) : assignedId taken r i = r.id :=
  if_neg named

theorem assignedId_of_unnamed (taken : List String) (unnamed : r.id = "") (i : Nat) :
    assignedId taken r i ∉ taken ∧
      ∃ k, assignedId taken r i = padded ("route" ++ toString (i + 1)) k := by
  rw [assignedId, if_pos unnamed]
  obtain ⟨k, found, -⟩ := freeName_eq taken taken.length ("route" ++ toString (i + 1))
  exact ⟨freeName_not_mem taken _, k, found⟩

theorem assignedId_ne_empty (taken : List String) (r : Route) (i : Nat) :
    assignedId taken r i ≠ "" := by
  by_cases named : r.id = ""
  · obtain ⟨-, k, found⟩ := assignedId_of_unnamed taken named i
    rw [found]
    intro empty
    have chars := congrArg String.toList empty
    simp [toList_padded] at chars
  · rwa [assignedId_of_named named]

theorem assignIds_of_named (named : ∀ r ∈ routes, r.id ≠ "") : assignIds routes = routes := by
  refine List.ext_getElem? fun i => ?_
  rw [getElem?_assignIds]
  cases hr : routes[i]? with
  | none => rfl
  | some r => rw [Option.map_some, assignedId_of_named (named r (List.mem_of_getElem? hr))]

theorem mem_assignIds_of_named (hr : r ∈ routes) (named : r.id ≠ "") : r ∈ assignIds routes := by
  obtain ⟨i, hi⟩ := List.getElem?_of_mem hr
  have given := getElem?_assignIds routes i
  rw [hi, Option.map_some, assignedId_of_named named] at given
  exact List.mem_of_getElem? given

theorem mem_declaredIds (hr : r ∈ routes) (named : r.id ≠ "") : r.id ∈ declaredIds routes :=
  List.mem_filter.mpr ⟨List.mem_map_of_mem hr, decide_eq_true named⟩

/-- At different places only named routes can have the same id. -/
theorem named_of_same_assignedId {s : Route} {i j : Nat} (hr : r ∈ routes) (hs : s ∈ routes)
    (apart : i ≠ j)
    (same : assignedId (declaredIds routes) r i = assignedId (declaredIds routes) s j) :
    r.id ≠ "" ∧ s.id ≠ "" := by
  have given {r s : Route} {i j : Nat} (hs : s ∈ routes) (unnamed : r.id = "")
      (same : assignedId (declaredIds routes) r i = assignedId (declaredIds routes) s j) :
      s.id = "" := by
    by_contra named
    rw [assignedId_of_named named] at same
    exact (assignedId_of_unnamed _ unnamed i).1 (same ▸ mem_declaredIds hs named)
  have not_both : ¬ (r.id = "" ∧ s.id = "") := by
    rintro ⟨unnamed_r, unnamed_s⟩
    obtain ⟨-, k, made_r⟩ := assignedId_of_unnamed (declaredIds routes) unnamed_r i
    obtain ⟨-, l, made_s⟩ := assignedId_of_unnamed (declaredIds routes) unnamed_s j
    rw [made_r, made_s] at same
    exact apart (Nat.succ_inj.mp (place_injective same))
  exact ⟨fun unnamed => not_both ⟨unnamed, given hs unnamed same⟩,
    fun unnamed => not_both ⟨given hr unnamed same.symm, unnamed⟩⟩

theorem nodup_assignIds (distinct : (declaredIds routes).Nodup) :
    ((assignIds routes).map Route.id).Nodup := by
  have declared : (routes.map Route.id).Pairwise fun a b => a ≠ "" → b ≠ "" → a ≠ b := by
    have filtered := List.pairwise_filter.mp distinct
    simpa only [decide_eq_true_eq] using filtered
  have each (i : Nat) (hi : i < routes.length) :
      ((assignIds routes).map Route.id)[i]? = some (assignedId (declaredIds routes) routes[i] i) := by
    rw [List.getElem?_map, getElem?_assignIds, List.getElem?_eq_getElem hi]
    rfl
  rw [List.nodup_iff_getElem?_ne_getElem?]
  intro i j before bound
  rw [List.length_map, length_assignIds] at bound
  have hi : i < routes.length := Nat.lt_trans before bound
  rw [each i hi, each j bound, ne_eq, Option.some.injEq]
  intro same
  obtain ⟨named_i, named_j⟩ := named_of_same_assignedId (List.getElem_mem hi)
    (List.getElem_mem bound) (Nat.ne_of_lt before) same
  rw [assignedId_of_named named_i, assignedId_of_named named_j] at same
  rw [List.pairwise_map, List.pairwise_iff_getElem] at declared
  exact declared i j hi bound before named_i named_j same

end

end RouteLoom
