import RouteLoom.Proofs.Beans.Shadowing
import Mathlib.Data.Finset.Insert
import Mathlib.Data.Finset.Dedup

/-!
# Tables and what is written into them

A table is known by what its names are bound to, and writing an entry changes that for one name. So
there is a table for every finite set of names and every choice of their values.
-/

namespace RouteLoom

variable {name value n : String}

theorem lookup_entry (m v : String) (rest : List (String × String)) (n : String) :
    ((m, v) :: rest).lookup n = if n = m then some v else rest.lookup n := by
  by_cases same : n = m
  · rw [if_pos same, same, List.lookup_cons_self]
  · rw [if_neg same, List.lookup_cons, beq_eq_false_iff_ne.mpr same]

theorem lookup_insertEntry (name value : String) (entries : List (String × String)) (n : String) :
    (insertEntry name value entries).lookup n =
      if n = name then some value else entries.lookup n := by
  induction entries with
  | nil => rw [insertEntry, lookup_entry]
  | cons hd rest ih =>
    obtain ⟨m, v⟩ := hd
    rw [insertEntry]
    split
    next => rw [lookup_entry]
    next =>
      split
      next same_name =>
        rw [lookup_entry, lookup_entry, ← same_name]
        by_cases same : n = name
        · rw [if_pos same, if_pos same]
        · rw [if_neg same, if_neg same, if_neg same]
      next apart =>
        rw [lookup_entry, lookup_entry, ih]
        by_cases same : n = name
        · rw [if_pos same, if_pos same, if_neg (same ▸ apart)]
        · rw [if_neg same, if_neg same]

namespace Bindings

theorem get?_insert (b : Bindings) (name value n : String) :
    (b.insert name value).get? n = if n = name then some value else b.get? n :=
  lookup_insertEntry name value b.entries n

def names (b : Bindings) : Finset String := (b.entries.map Prod.fst).toFinset

theorem mem_names_iff {b : Bindings} : n ∈ b.names ↔ ∃ value, b.get? n = some value := by
  simp [names, get?_eq_some_iff]

theorem get?_eq_none_iff {b : Bindings} : b.get? n = none ↔ n ∉ b.names := by
  rw [mem_names_iff, not_exists, Option.eq_none_iff_forall_ne_some]

theorem names_insert (b : Bindings) (name value : String) :
    (b.insert name value).names = Insert.insert name b.names := by
  ext n
  by_cases same : n = name
  · simp [mem_names_iff, get?_insert, same]
  · simp [mem_names_iff, get?_insert, same]

theorem exists_of_names (known : Finset String) (value : String → String) :
    ∃ b : Bindings, b.names = known ∧ ∀ n ∈ known, b.get? n = some (value n) := by
  induction known using Finset.induction_on with
  | empty => exact ⟨.empty, rfl, by simp⟩
  | insert name rest _ ih =>
    obtain ⟨b, bound, values⟩ := ih
    refine ⟨b.insert name (value name), by rw [names_insert, bound], fun n hn => ?_⟩
    rw [get?_insert]
    by_cases same : n = name
    · rw [if_pos same, same]
    · rw [if_neg same]
      exact values n (Finset.mem_of_mem_insert_of_ne hn same)

end Bindings

end RouteLoom
