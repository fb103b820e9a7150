import RouteLoom.Json.Record
import RouteLoom.Proofs.FirstFault

/-!
# Binding what was written

A written value fits into a place if it opens no more arrays and objects than may be opened there
and its numbers have 64 bits. A binder that takes the draft of a value to what the value was written
from does so in every place that the value fits into.
-/

namespace RouteLoom

/-! ### Values that fit -/

namespace Json

mutual

def depth : Json → Nat
  | .array items => depthOfItems items + 1
  | .object members => depthOfMembers members + 1
  | .null => 0
  | .bool _ => 0
  | .natural _ => 0
  | .text _ => 0

def depthOfItems : List Json → Nat
  | [] => 0
  | j :: rest => max j.depth (depthOfItems rest)

def depthOfMembers : List (String × Json) → Nat
  | [] => 0
  | (_, j) :: rest => max j.depth (depthOfMembers rest)

end

mutual

/-- All numbers have 64 bits. -/
def words : Json → Bool
  | .array items => wordsOfItems items
  | .object members => wordsOfMembers members
  | .natural n => n < Nat.pow 2 64
  | .null => true
  | .bool _ => true
  | .text _ => true

def wordsOfItems : List Json → Bool
  | [] => true
  | j :: rest => j.words && wordsOfItems rest

def wordsOfMembers : List (String × Json) → Bool
  | [] => true
  | (_, j) :: rest => j.words && wordsOfMembers rest

end

/-- A value that may be written where so many arrays and objects may be opened. -/
structure Fits (levels : Nat) (j : Json) : Prop where
  depth : j.depth ≤ levels
  words : j.words = true

variable {levels n : Nat} {items : List Json} {members : List (String × Json)}

theorem depthOfItems_le_iff : depthOfItems items ≤ n ↔ ∀ j ∈ items, j.depth ≤ n := by
  induction items with
  | nil => simp [depthOfItems]
  | cons j rest ih => rw [depthOfItems, Nat.max_le, ih, List.forall_mem_cons]

theorem depthOfMembers_le_iff : depthOfMembers members ≤ n ↔ ∀ m ∈ members, m.2.depth ≤ n := by
  induction members with
  | nil => simp [depthOfMembers]
  | cons m rest ih => rw [depthOfMembers, Nat.max_le, ih, List.forall_mem_cons]

theorem wordsOfItems_iff : wordsOfItems items = true ↔ ∀ j ∈ items, j.words = true := by
  induction items with
  | nil => simp [wordsOfItems]
  | cons j rest ih => rw [wordsOfItems, Bool.and_eq_true, ih, List.forall_mem_cons]

theorem wordsOfMembers_iff : wordsOfMembers members = true ↔ ∀ m ∈ members, m.2.words = true := by
  induction members with
  | nil => simp [wordsOfMembers]
  | cons m rest ih => rw [wordsOfMembers, Bool.and_eq_true, ih, List.forall_mem_cons]

theorem fits_bool (b : Bool) : Fits levels (.bool b) := ⟨Nat.zero_le _, rfl⟩

theorem fits_text (s : String) : Fits levels (.text s) := ⟨Nat.zero_le _, rfl⟩

theorem fits_natural_iff : Fits levels (.natural n) ↔ n < Nat.pow 2 64 :=
  ⟨fun fits => of_decide_eq_true fits.words, fun word => ⟨Nat.zero_le _, decide_eq_true word⟩⟩

theorem fits_array_iff :
    Fits levels (.array items) ↔ ∃ inner, levels = inner + 1 ∧ ∀ j ∈ items, Fits inner j := by
  constructor
  · rintro ⟨depth, words⟩
    rw [Json.depth] at depth
    rw [Json.words, wordsOfItems_iff] at words
    obtain ⟨inner, rfl⟩ := Nat.exists_eq_add_of_le' (Nat.le_trans (Nat.le_add_left 1 _) depth)
    have items_depth := depthOfItems_le_iff.mp (Nat.le_of_succ_le_succ depth)
    exact ⟨inner, rfl, fun j hj => ⟨items_depth j hj, words j hj⟩⟩
  · rintro ⟨inner, rfl, fits⟩
    refine ⟨?_, ?_⟩
    · rw [Json.depth]
      exact Nat.succ_le_succ (depthOfItems_le_iff.mpr fun j hj => (fits j hj).depth)
    · rw [Json.words]
      exact wordsOfItems_iff.mpr fun j hj => (fits j hj).words

theorem fits_object_iff :
    Fits levels (.object members) ↔ ∃ inner, levels = inner + 1 ∧ ∀ m ∈ members, Fits inner m.2 := by
  constructor
  · rintro ⟨depth, words⟩
    rw [Json.depth] at depth
    rw [Json.words, wordsOfMembers_iff] at words
    obtain ⟨inner, rfl⟩ := Nat.exists_eq_add_of_le' (Nat.le_trans (Nat.le_add_left 1 _) depth)
    have members_depth := depthOfMembers_le_iff.mp (Nat.le_of_succ_le_succ depth)
    exact ⟨inner, rfl, fun m hm => ⟨members_depth m hm, words m hm⟩⟩
  · rintro ⟨inner, rfl, fits⟩
    refine ⟨?_, ?_⟩
    · rw [Json.depth]
      exact Nat.succ_le_succ (depthOfMembers_le_iff.mpr fun m hm => (fits m hm).depth)
    · rw [Json.words]
      exact wordsOfMembers_iff.mpr fun m hm => (fits m hm).words

/-! ### Drafts -/

theorem itemDrafts_eq (items : List Json) : itemDrafts items = items.map draft := by
  induction items with
  | nil => rfl
  | cons j rest ih => rw [itemDrafts, ih, List.map_cons]

theorem memberDrafts_eq (members : List (String × Json)) :
    memberDrafts members = members.map fun m => (.text (some m.1), m.2.draft) := by
  induction members with
  | nil => rfl
  | cons m rest ih => rw [memberDrafts, ih, List.map_cons]

mutual

theorem flaw?_draft (j : Json) : j.draft.flaw? = none := by
  cases j with
  | array items => rw [draft, Draft.flaw?, flawOfItems_itemDrafts items]
  | object members => rw [draft, Draft.flaw?, flawOfMembers_memberDrafts members]
  | null => rfl
  | bool b => rfl
  | natural n => rfl
  | text s => rfl
termination_by sizeOf j

theorem flawOfItems_itemDrafts (items : List Json) : Draft.flawOfItems (itemDrafts items) = none := by
  cases items with
  | nil => rfl
  | cons j rest =>
    rw [itemDrafts, Draft.flawOfItems, flaw?_draft j, flawOfItems_itemDrafts rest]
    rfl
termination_by sizeOf items

theorem flawOfMembers_memberDrafts (members : List (String × Json)) :
    Draft.flawOfMembers (memberDrafts members) = none := by
  match members with
  | [] => rfl
  | (k, j) :: rest =>
    rw [memberDrafts, Draft.flawOfMembers, flaw?_draft j, flawOfMembers_memberDrafts rest]
    rfl
termination_by sizeOf members

end

theorem skipFault_draft (j : Json) : Binder.skipFault j.draft = none := by
  rw [Binder.skipFault, flaw?_draft, Option.map_none]

theorem integer?_ofNat {n : Nat} (word : n < Nat.pow 2 64) :
    (Numeral.ofNat n).integer? = some (.ofNat n) := by
  simp [Numeral.integer?, Numeral.ofNat, word]

mutual

theorem keepFault_draft {levels : Nat} (j : Json) (fits : Fits levels j) :
    Binder.keepFault levels j.draft = none := by
  cases j with
  | array items =>
    obtain ⟨inner, rfl, inside⟩ := fits_array_iff.mp fits
    rw [draft, Binder.keepFault, keepItems_itemDrafts items inside]
  | object members =>
    obtain ⟨inner, rfl, inside⟩ := fits_object_iff.mp fits
    rw [draft, Binder.keepFault, keepMembers_memberDrafts members inside]
  | natural n =>
    have value : (Numeral.ofNat n).hasValue = true := by
      rw [Numeral.hasValue, integer?_ofNat (fits_natural_iff.mp fits)]
      rfl
    rw [draft, Binder.keepFault, value]
    rfl
  | null => rw [draft, Binder.keepFault]
  | bool b => rw [draft, Binder.keepFault]
  | text s => rw [draft, Binder.keepFault]; rfl
termination_by sizeOf j

theorem keepItems_itemDrafts {levels : Nat} (items : List Json) (fits : ∀ j ∈ items, Fits levels j) :
    Binder.keepItems levels (itemDrafts items) = none := by
  cases items with
  | nil => rw [itemDrafts, Binder.keepItems]
  | cons j rest =>
    obtain ⟨first, others⟩ := List.forall_mem_cons.mp fits
    rw [itemDrafts, Binder.keepItems, keepFault_draft j first, keepItems_itemDrafts rest others]
    rfl
termination_by sizeOf items

theorem keepMembers_memberDrafts {levels : Nat} (members : List (String × Json))
    (fits : ∀ m ∈ members, Fits levels m.2) :
    Binder.keepMembers levels (memberDrafts members) = none := by
  match members with
  | [] => rw [memberDrafts, Binder.keepMembers]
  | (k, j) :: rest =>
    obtain ⟨first, others⟩ := List.forall_mem_cons.mp fits
    rw [memberDrafts, Binder.keepMembers, keepFault_draft j first,
      keepMembers_memberDrafts rest others]
    rfl
termination_by sizeOf members

end

end Json

/-! ### Binders -/

section

variable {α β : Type} {bind : Binder α} {j : Json} {a : α}

/-- The value was written from `a`, and the binder takes it back. -/
def Binder.Binds (bind : Binder α) (j : Json) (a : α) : Prop :=
  ∀ p : Place, Json.Fits p.levels j → bind p j.draft = .ok a

namespace Binder

theorem binds_text (s : String) : text.Binds (.text s) s := fun _ _ => rfl

theorem binds_boolean (b : Bool) : boolean.Binds (.bool b) b := fun _ _ => rfl

theorem binds_natural (wanted : String) (n : Nat) : (natural wanted).Binds (.natural n) n := by
  intro p fits
  rw [Json.draft, natural, Json.integer?_ofNat (Json.fits_natural_iff.mp fits)]

theorem binds_null (bind : Binder α) : (optional bind).Binds .null none := fun _ _ => rfl

theorem Binds.some (binds : bind.Binds j a) (present : j ≠ .null) :
    (optional bind).Binds j (some a) := by
  intro p fits
  have bound := binds p fits
  cases j with
  | null => exact absurd rfl present
  | bool b => exact congrArg (Except.map Option.some) bound
  | natural n => exact congrArg (Except.map Option.some) bound
  | text s => exact congrArg (Except.map Option.some) bound
  | array items => exact congrArg (Except.map Option.some) bound
  | object members => exact congrArg (Except.map Option.some) bound

theorem mapM_map_eq_ok {ε : Type} {f : β → Except ε α} {g : α → β} {as : List α}
    (each : ∀ a ∈ as, f (g a) = .ok a) : (as.map g).mapM f = .ok as := by
  induction as with
  | nil => rfl
  | cons a rest ih =>
    obtain ⟨first, others⟩ := List.forall_mem_cons.mp each
    rw [List.map_cons, List.mapM_cons, first, ih others]
    rfl

theorem binds_list {write : α → Json} {as : List α} (each : ∀ a ∈ as, bind.Binds (write a) a) :
    (list bind).Binds (.array (as.map write)) as := by
  rintro ⟨medium, levels⟩ fits
  obtain ⟨inner, rfl, inside⟩ := Json.fits_array_iff.mp fits
  rw [Json.draft, Json.itemDrafts_eq, List.map_map]
  exact mapM_map_eq_ok fun a ha => each a ha ⟨medium, inner⟩ (inside _ (List.mem_map_of_mem ha))

end Binder

/-! ### What is bound -/

theorem Place.inner_eq_ok {p q : Place} (opened : p.inner = .ok q) :
    ∃ inner, p.levels = inner + 1 ∧ q = ⟨p.medium, inner⟩ := by
  obtain ⟨medium, levels⟩ := p
  cases levels with
  | zero => cases opened
  | succ inner => exact ⟨inner, rfl, (Except.ok.inj opened).symm⟩

namespace Binder

variable {d : Draft} {p : Place}

theorem refuse_ne_ok {wanted : String} : refuse wanted d ≠ .ok a := by
  intro bound
  obtain ⟨_, -, thrown⟩ := bind_eq_ok_iff.mp bound
  cases thrown

theorem parse_eq_ok_iff {source : String} {a : α} : bind.parse source = .ok a ↔
    bind ⟨.text, depthLimit⟩ (Draft.read source).draft = .ok a ∧
      (Draft.read source).surplus = false := by
  rw [Binder.parse]
  constructor
  · intro parsed
    obtain ⟨b, bound, rest⟩ := bind_eq_ok_iff.mp parsed
    cases surplus : (Draft.read source).surplus with
    | true =>
      rw [surplus] at rest
      cases rest
    | false =>
      rw [surplus] at rest
      cases rest
      exact ⟨bound, rfl⟩
  · rintro ⟨bound, ends⟩
    rw [ends]
    exact bind_eq_ok_iff.mpr ⟨a, bound, rfl⟩

/-- What is bound in a place with `least` levels fits into it when it is written. -/
def Refits (bind : Binder α) (write : α → Json) (least : Nat) : Prop :=
  ∀ (p : Place) (d : Draft) (a : α), least ≤ p.levels → bind p d = .ok a →
    Json.Fits p.levels (write a)

theorem mapM_eq_ok_iff {ε : Type} {f : β → Except ε α} {bs : List β} {as : List α} :
    bs.mapM f = .ok as ↔
      (∀ b ∈ bs, ∃ a, f b = .ok a) ∧ as = bs.filterMap fun b => (f b).toOption := by
  induction bs generalizing as with
  | nil => simp [pure, Except.pure, eq_comm]
  | cons b rest ih =>
    rw [List.mapM_cons, List.forall_mem_cons, bind_eq_ok_iff]
    constructor
    · rintro ⟨a, first, bound⟩
      obtain ⟨others, mapped, same⟩ := bind_eq_ok_iff.mp bound
      obtain ⟨each, rfl⟩ := ih.mp mapped
      cases same
      exact ⟨⟨⟨a, first⟩, each⟩, by rw [List.filterMap_cons_some (by rw [first]; rfl)]⟩
    · rintro ⟨⟨⟨a, first⟩, each⟩, rfl⟩
      refine ⟨a, first, bind_eq_ok_iff.mpr ⟨_, ih.mpr ⟨each, rfl⟩, ?_⟩⟩
      rw [List.filterMap_cons_some (by rw [first]; rfl)]
      rfl

theorem list_eq_ok {as : List α} (bound : list bind p d = .ok as) :
    ∃ inner, p.levels = inner + 1 ∧ ∀ a ∈ as, ∃ d, bind ⟨p.medium, inner⟩ d = .ok a := by
  rw [list.eq_def] at bound
  split at bound
  next items =>
    obtain ⟨q, opened, mapped⟩ := bind_eq_ok_iff.mp bound
    obtain ⟨inner, levels, rfl⟩ := Place.inner_eq_ok opened
    refine ⟨inner, levels, fun a ha => ?_⟩
    obtain ⟨each, rfl⟩ := mapM_eq_ok_iff.mp mapped
    obtain ⟨d, hd, same⟩ := List.mem_filterMap.mp ha
    obtain ⟨b, here⟩ := each d hd
    rw [here] at same
    cases same
    exact ⟨d, here⟩
  next => cases refuse_ne_ok bound

theorem Refits.list {write : α → Json} {least inner : Nat} (items : bind.Refits write inner)
    (enough : inner ≤ least - 1) : (list bind).Refits (fun as => .array (as.map write)) least := by
  intro p d as room bound
  obtain ⟨levels, outer, each⟩ := list_eq_ok bound
  refine Json.fits_array_iff.mpr ⟨levels, outer, fun j hj => ?_⟩
  obtain ⟨a, ha, rfl⟩ := List.mem_map.mp hj
  obtain ⟨d, here⟩ := each a ha
  exact items ⟨p.medium, levels⟩ d a (by dsimp only; omega) here

theorem optional_eq_ok {o : Option α} (bound : optional bind p d = .ok o) :
    ∀ a, o = some a → bind p d = .ok a := by
  rw [optional.eq_def] at bound
  split at bound
  · cases bound
    nofun
  · rintro a rfl
    cases here : bind p d with
    | error f =>
      rw [here] at bound
      cases bound
    | ok b =>
      rw [here] at bound
      cases bound
      rfl

theorem lt_of_integer? {m : Numeral} {n : Nat} (value : m.integer? = some (.ofNat n)) :
    n < Nat.pow 2 64 := by
  rw [Numeral.integer?] at value
  split at value
  · cases value
  · split at value
    · split at value
      next range =>
        simp only [Bool.and_eq_true, decide_eq_true_eq] at range
        have negative := Option.some.inj value
        simp only [Int.ofNat_eq_natCast] at negative
        omega
      · cases value
    · split at value
      next range =>
        have same := Option.some.inj value
        simp only [Int.ofNat_eq_natCast, Int.natCast_inj] at same
        exact same ▸ range
      · cases value

theorem natural_eq_ok {wanted : String} {n : Nat} (bound : natural wanted p d = .ok n) :
    n < Nat.pow 2 64 := by
  rw [natural.eq_def] at bound
  split at bound
  next m =>
    split at bound
    next value =>
      cases bound
      exact lt_of_integer? value
    · cases bound
    · cases refuse_ne_ok bound
  next => cases refuse_ne_ok bound

end Binder

end

end RouteLoom
