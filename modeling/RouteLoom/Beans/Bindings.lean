/-!
# Bindings

A table from names to texts, sorted by name in the order of code points. It holds the beans of one
level, each with its type, and the values that an intercept's variables are bound to.
-/

namespace RouteLoom

/-- Writes an entry into a sorted list, over the entry of the same name if there is one. -/
def insertEntry (name value : String) : List (String × String) → List (String × String)
  | [] => [(name, value)]
  | (n, v) :: rest =>
    if name < n then (name, value) :: (n, v) :: rest
    else if name = n then (name, value) :: rest
    else (n, v) :: insertEntry name value rest

abbrev SortedByName (entries : List (String × String)) : Prop :=
  entries.Pairwise fun a b => a.1 < b.1

theorem mem_of_mem_insertEntry {name value : String} {e : String × String}
    {entries : List (String × String)} (he : e ∈ insertEntry name value entries) :
    e = (name, value) ∨ e ∈ entries := by
  induction entries with
  | nil => simpa [insertEntry] using he
  | cons hd rest ih =>
    obtain ⟨n, v⟩ := hd
    rw [insertEntry] at he
    split at he
    · simpa using he
    · split at he
      · exact (List.mem_cons.mp he).imp id (List.mem_cons_of_mem _)
      · rcases List.mem_cons.mp he with rfl | he
        · exact .inr List.mem_cons_self
        · exact (ih he).imp id (List.mem_cons_of_mem _)

theorem SortedByName.insertEntry (name value : String) {entries : List (String × String)}
    (sorted : SortedByName entries) : SortedByName (insertEntry name value entries) := by
  induction entries with
  | nil => exact List.pairwise_singleton _ _
  | cons hd rest ih =>
    obtain ⟨n, v⟩ := hd
    have ⟨first, tail⟩ := List.pairwise_cons.mp sorted
    rw [RouteLoom.insertEntry]
    split
    next below =>
      refine List.pairwise_cons.mpr ⟨fun e he => ?_, sorted⟩
      rcases List.mem_cons.mp he with rfl | he
      · exact below
      · exact String.lt_trans below (first e he)
    next notBelow =>
      split
      next same => exact List.pairwise_cons.mpr ⟨fun e he => same ▸ first e he, tail⟩
      next differs =>
        refine List.pairwise_cons.mpr ⟨fun e he => ?_, ih tail⟩
        rcases mem_of_mem_insertEntry he with rfl | he
        · exact Std.lt_of_le_of_ne (String.not_lt.mp notBelow) (Ne.symm differs)
        · exact first e he

structure Bindings where
  entries : List (String × String)
  sorted : SortedByName entries
deriving DecidableEq, Repr

namespace Bindings

def empty : Bindings := ⟨[], List.Pairwise.nil⟩

def insert (b : Bindings) (name value : String) : Bindings :=
  ⟨insertEntry name value b.entries, b.sorted.insertEntry name value⟩

/-- Of several entries of one name the last one stays. -/
def ofList (entries : List (String × String)) : Bindings :=
  entries.foldl (fun b (name, value) => b.insert name value) empty

def get? (b : Bindings) (name : String) : Option String := b.entries.lookup name

def size (b : Bindings) : Nat := b.entries.length

/-- The names that are bound to `value`, in ascending order. -/
def namesOf (b : Bindings) (value : String) : List String :=
  (b.entries.filter fun e => e.2 = value).map Prod.fst

end Bindings

end RouteLoom
