import RouteLoom.Context.Finding
import Mathlib.Data.Finset.Card
import Mathlib.Data.List.Count

/-!
# Repeated ids

Two scans go through a list of ids from the front, one for the places where an id is repeated and
one for those where an id is new. Each keeps the set of the ids that it has seen, and for every id
in the list that set holds just the ids in front of it. So what one more id at the end of the list
adds is decided by the ids in front, and all that is said here of whole lists is said by induction
on the list from its end.
-/

namespace RouteLoom

/-- The ids at the places where `p` holds of the ids in front and of the id there, in the order of the
places. -/
def idsWhere (p : List String → String → Bool) (ids : List String) : List String :=
  (ids.zipIdx.filter fun (id, i) => p (ids.take i) id).map Prod.fst

theorem idsWhere_concat (p : List String → String → Bool) (ids : List String) (id : String) :
    idsWhere p (ids ++ [id]) = idsWhere p ids ++ if p ids id then [id] else [] := by
  have before : ∀ x ∈ ids.zipIdx, p ((ids ++ [id]).take x.2) x.1 = p (ids.take x.2) x.1 := by
    intro x hx
    have inside : x.2 ≤ ids.length := by
      have bound := List.snd_lt_add_of_mem_zipIdx hx
      omega
    rw [List.take_append_of_le_length inside]
  have last : (ids ++ [id]).take ids.length = ids := List.take_left
  rw [idsWhere, List.zipIdx_append, List.filter_append, List.map_append,
    List.filter_congr before, idsWhere, List.zipIdx_singleton, Nat.zero_add]
  cases holds : p ids id <;> simp [last, holds]

namespace Rule

variable {seen ids : List String} {id x : String}

/-! ### One more id -/

theorem mem_or_mem_cons : id ∈ seen ∨ id ∈ x :: ids ↔ id ∈ x :: seen ∨ id ∈ ids := by
  rw [List.mem_cons, List.mem_cons, or_left_comm, or_assoc]

theorem mem_or_mem_cons_of_mem (found : x ∈ seen) :
    id ∈ seen ∨ id ∈ x :: ids ↔ id ∈ seen ∨ id ∈ ids := by
  rw [List.mem_cons, ← or_assoc, or_iff_left_of_imp fun same : id = x => same ▸ found]

theorem repeated_concat (seen ids : List String) (id : String) :
    repeated seen (ids ++ [id]) =
      repeated seen ids ++ if id ∈ seen ∨ id ∈ ids then [id] else [] := by
  induction ids generalizing seen with
  | nil => simp [repeated]
  | cons x ids ih =>
    rw [List.cons_append, repeated, repeated, ih, ih]
    split
    next found => simp only [mem_or_mem_cons_of_mem found, List.cons_append]
    next absent => simp only [mem_or_mem_cons]

theorem distinct_concat (seen ids : List String) (id : String) :
    distinct seen (ids ++ [id]) =
      distinct seen ids ++ if id ∈ seen ∨ id ∈ ids then [] else [id] := by
  induction ids generalizing seen with
  | nil => simp [distinct]
  | cons x ids ih =>
    rw [List.cons_append, distinct, distinct, ih, ih]
    split
    next found => simp only [mem_or_mem_cons_of_mem found]
    next absent => simp only [mem_or_mem_cons, List.cons_append]

/-! ### Numbers -/

/-- An id is repeated exactly if it stands at two places or more. -/
theorem mem_repeated_iff : id ∈ repeated [] ids ↔ 2 ≤ ids.count id := by
  induction ids using List.reverseRecOn with
  | nil => simp [repeated]
  | append_singleton ids x ih =>
    rw [repeated_concat, List.mem_append, ih, List.count_append]
    rcases eq_or_ne x id with rfl | other
    · have known : x ∈ ids ↔ 0 < ids.count x := List.count_pos_iff.symm
      have added : x ∈ (if x ∈ [] ∨ x ∈ ids then [x] else []) ↔ x ∈ ids := by simp
      rw [added, known, List.count_singleton_self]
      omega
    · have absent : id ∉ [x] := by simpa using other.symm
      have added : id ∉ (if x ∈ [] ∨ x ∈ ids then [x] else []) := by simp [other.symm]
      rw [or_iff_left added, List.count_eq_zero_of_not_mem absent, Nat.add_zero]

theorem mem_distinct_iff : id ∈ distinct [] ids ↔ id ∈ ids := by
  induction ids using List.reverseRecOn with
  | nil => rfl
  | append_singleton ids x ih =>
    rw [distinct_concat, List.mem_append, List.mem_append, ih]
    split
    next known =>
      have listed : x ∈ ids := known.resolve_left List.not_mem_nil
      rw [or_iff_left List.not_mem_nil, List.mem_singleton]
      exact (or_iff_left_of_imp fun same : id = x => same ▸ listed).symm
    next absent => rfl

theorem nodup_distinct (ids : List String) : (distinct [] ids).Nodup := by
  induction ids using List.reverseRecOn with
  | nil => exact List.nodup_nil
  | append_singleton ids x ih =>
    rw [distinct_concat]
    split
    next known => rwa [List.append_nil]
    next absent =>
      rw [← List.concat_eq_append]
      exact ih.concat fun listed => absent (.inr (mem_distinct_iff.mp listed))

/-- Each place repeats an id or is the first of its id. -/
theorem length_repeated_add_length_distinct (ids : List String) :
    (repeated [] ids).length + (distinct [] ids).length = ids.length := by
  induction ids using List.reverseRecOn with
  | nil => rfl
  | append_singleton ids x ih =>
    rw [repeated_concat, distinct_concat, List.length_append, List.length_append,
      List.length_append, ← ih]
    split <;> simp <;> omega

theorem length_distinct (ids : List String) : (distinct [] ids).length = ids.toFinset.card := by
  have same : (distinct [] ids).toFinset = ids.toFinset := by
    ext id
    rw [List.mem_toFinset, List.mem_toFinset, mem_distinct_iff]
  rw [← same, List.toFinset_card_of_nodup (nodup_distinct ids)]

theorem count_named (ids : List String) (id : String) :
    (ids.filter (· ≠ "")).count id = if id = "" then 0 else ids.count id := by
  split
  next unnamed => exact List.count_eq_zero_of_not_mem (by simp [unnamed])
  next named => exact List.count_filter (by simpa using named)

/-! ### Places -/

theorem repeated_eq (ids : List String) :
    repeated [] ids = idsWhere (fun front id => id ∈ front) ids := by
  induction ids using List.reverseRecOn with
  | nil => rfl
  | append_singleton ids id ih =>
    rw [repeated_concat, idsWhere_concat, ih]
    simp

theorem distinct_repeated_concat (ids : List String) (id : String) :
    distinct [] (repeated [] (ids ++ [id])) =
      distinct [] (repeated [] ids) ++ if ids.count id = 1 then [id] else [] := by
  rw [repeated_concat]
  by_cases known : id ∈ ids
  · have positive : 0 < ids.count id := List.count_pos_iff.mpr known
    have once : ids.count id = 1 ↔ id ∉ repeated [] ids := by
      rw [mem_repeated_iff]
      omega
    rw [if_pos (.inr known), distinct_concat]
    by_cases told : id ∈ repeated [] ids <;> simp [once, told]
  · simp [known, List.count_eq_zero_of_not_mem known]

/-- Of the ids that are not empty, each repeated one is told at its second place. -/
theorem distinct_repeated_eq (ids : List String) :
    distinct [] (repeated [] (ids.filter (· ≠ ""))) =
      idsWhere (fun front id => id ≠ "" ∧ front.count id = 1) ids := by
  induction ids using List.reverseRecOn with
  | nil => rfl
  | append_singleton ids id ih =>
    rw [idsWhere_concat, ← ih, List.filter_append]
    by_cases unnamed : id = ""
    · simp [unnamed]
    · have kept : [id].filter (· ≠ "") = [id] := by simp [unnamed]
      rw [kept, distinct_repeated_concat, count_named, if_neg unnamed]
      simp only [ne_eq, unnamed, not_false_eq_true, true_and, decide_eq_true_eq]

end Rule

end RouteLoom
