import RouteLoom.Proofs.Json.Binding

/-!
# The members that a record is bound from

A record is bound exactly if all its fields are gathered and nothing is wrong with the members as
such: every key is a text, no field is given twice, and what is no field has no fault.
-/

namespace RouteLoom

theorem Draft.text?_eq_some_iff {d : Draft} {name : String} :
    d.text? = some name ↔ d = .text (some name) := by
  cases d with
  | text s => simp [Draft.text?]
  | _ => simp [Draft.text?]

namespace Draft

theorem flawOfItems_eq_none_iff {items : List Draft} :
    flawOfItems items = none ↔ ∀ d ∈ items, d.flaw? = none := by
  induction items with
  | nil => simp [flawOfItems]
  | cons d rest ih => simp [flawOfItems, ih]

theorem flawOfMembers_eq_none_iff {ms : List (Draft × Draft)} :
    flawOfMembers ms = none ↔ ∀ m ∈ ms, m.1.flaw? = none ∧ m.2.flaw? = none := by
  induction ms with
  | nil => simp [flawOfMembers]
  | cons m rest ih => simp [flawOfMembers, ih, and_assoc]

end Draft

namespace Binder

theorem key_eq_ok_iff {d : Draft} {name : String} :
    Binder.key d = .ok name ↔ d = .text (some name) := by
  rw [Binder.key.eq_def]
  split
  · simp
  · simp
  · simp_all

theorem keepItems_eq_none_iff {levels : Nat} {items : List Draft} :
    keepItems levels items = none ↔ ∀ d ∈ items, keepFault levels d = none := by
  induction items with
  | nil => simp [keepItems]
  | cons d rest ih => simp [keepItems, ih]

theorem keepMembers_eq_none_iff {levels : Nat} {ms : List (Draft × Draft)} :
    keepMembers levels ms = none ↔
      ∀ m ∈ ms, (∃ name, m.1 = .text (some name)) ∧ keepFault levels m.2 = none := by
  induction ms with
  | nil => simp [keepMembers]
  | cons m rest ih =>
    simp only [← key_eq_ok_iff] at ih ⊢
    rw [keepMembers]
    cases hk : key m.1 with
    | error f => simp [hk]
    | ok name => simp [hk, ih]

end Binder

namespace Record

variable {α : Type} {name title : String} {names seen : List String} {p : Place} {a : α}
  {ms : List (Draft × Draft)} {d e : Draft} {other : Draft → Option JsonFault} {r : Record α}

/-! ### Members as such -/

/-- The fields that the members give, in the order of the members. -/
def given (names : List String) (ms : List (Draft × Draft)) : List String :=
  ms.filterMap fun m => m.1.text?.filter (· ∈ names)

theorem given_cons_field (field : name ∈ names) :
    given names ((.text (some name), d) :: ms) = name :: given names ms :=
  List.filterMap_cons_some (by simp [Draft.text?, Option.filter, field])

theorem given_cons_other (other : name ∉ names) :
    given names ((.text (some name), d) :: ms) = given names ms :=
  List.filterMap_cons_none (by simp [Draft.text?, Option.filter, other])

theorem memberBlame_eq_none_iff (place : Nat) : memberBlame names other place seen ms = none ↔
    (∀ m ∈ ms, ∃ key, m.1 = .text (some key) ∧ (key ∈ names ∨ other m.2 = none)) ∧
      (given names ms).Nodup ∧ ∀ key ∈ given names ms, key ∉ seen := by
  induction ms generalizing place seen with
  | nil => simp [memberBlame, given]
  | cons m rest ih =>
    obtain ⟨k, d⟩ := m
    rw [memberBlame]
    cases hk : Binder.key k with
    | error f =>
      have unnamed (key : String) : k ≠ .text (some key) := fun same => by
        rw [Binder.key_eq_ok_iff.mpr same] at hk
        cases hk
      simp [unnamed]
    | ok key =>
      have named := Binder.key_eq_ok_iff.mp hk
      subst named
      by_cases field : key ∈ names
      · rw [given_cons_field field]
        by_cases again : key ∈ seen
        · simp [field, again]
        · have first : ∃ name, Draft.text (some key) = .text (some name) ∧
              (name ∈ names ∨ other d = none) := ⟨key, rfl, .inl field⟩
          dsimp only
          rw [if_pos field, if_neg again, ih, List.forall_mem_cons, List.forall_mem_cons,
            List.nodup_cons]
          constructor
          · rintro ⟨others, nodup, apart⟩
            exact ⟨⟨first, others⟩, ⟨fun found => apart key found List.mem_cons_self, nodup⟩, again,
              fun name found => List.not_mem_of_not_mem_cons (apart name found)⟩
          · rintro ⟨⟨-, others⟩, ⟨new, nodup⟩, -, apart⟩
            exact ⟨others, nodup, fun name found =>
              List.not_mem_cons_of_ne_of_not_mem (fun same => new (same ▸ found)) (apart name found)⟩
      · rw [given_cons_other field]
        cases hother : other d with
        | some f => simp [field, hother]
        | none => simp [field, hother, ih]

/-! ### The member of a field -/

theorem find?_eq (name : String) (ms : List (Draft × Draft)) : (find? name ms).map Prod.snd =
    (ms.find? fun m => m.1.text? = some name).map Prod.snd := by
  induction ms with
  | nil => rfl
  | cons m rest ih =>
    obtain ⟨k, d⟩ := m
    rw [find?, List.find?_cons]
    by_cases same : k.text? = some name
    · simp [same]
    · simp [same, ← ih, Option.map_map, Function.comp_def]

theorem find?_eq_none_iff :
    (find? name ms).map Prod.snd = none ↔ ∀ d, (Draft.text (some name), d) ∉ ms := by
  rw [find?_eq, Option.map_eq_none_iff, List.find?_eq_none]
  simp only [decide_eq_true_eq, Draft.text?_eq_some_iff]
  exact ⟨fun none d hd => none _ hd rfl, fun none m hm same => none m.2 (by rwa [← same])⟩

theorem mem_of_find? (found : (find? name ms).map Prod.snd = some d) :
    (Draft.text (some name), d) ∈ ms := by
  rw [find?_eq, Option.map_eq_some_iff] at found
  obtain ⟨⟨k, d⟩, found, rfl⟩ := found
  have named : k = .text (some name) := by
    simpa [Draft.text?_eq_some_iff] using List.find?_some found
  subst named
  exact List.mem_of_find?_eq_some found

theorem mem_given (field : name ∈ names) (hd : (Draft.text (some name), d) ∈ ms) :
    name ∈ given names ms :=
  List.mem_filterMap.mpr ⟨_, hd, by simp [Draft.text?, Option.filter, field]⟩

theorem eq_of_nodup_given (nodup : (given names ms).Nodup) (field : name ∈ names)
    (hd : (Draft.text (some name), d) ∈ ms) (he : (Draft.text (some name), e) ∈ ms) : d = e := by
  induction ms with
  | nil => cases hd
  | cons m rest ih =>
    have rest_nodup := ((List.sublist_cons_self m rest).filterMap _).nodup nodup
    have once {d : Draft} (first : m = (.text (some name), d)) : name ∉ given names rest := by
      rw [first, given_cons_field field] at nodup
      exact (List.nodup_cons.mp nodup).1
    rcases List.mem_cons.mp hd with d_first | hd <;> rcases List.mem_cons.mp he with e_first | he
    · exact (Prod.mk.inj (d_first.trans e_first.symm)).2
    · exact absurd (mem_given field he) (once d_first.symm)
    · exact absurd (mem_given field hd) (once e_first.symm)
    · exact ih rest_nodup hd he

theorem find?_of_mem (nodup : (given names ms).Nodup) (field : name ∈ names)
    (hd : (Draft.text (some name), d) ∈ ms) : (find? name ms).map Prod.snd = some d := by
  cases found : (find? name ms).map Prod.snd with
  | none => exact absurd hd (find?_eq_none_iff.mp found d)
  | some e => rw [eq_of_nodup_given nodup field hd (mem_of_find? found)]

theorem find?_filter (kept : Draft → Bool) (stays : kept (.text (some name)) = true) :
    (find? name (ms.filter fun m => kept m.1)).map Prod.snd = (find? name ms).map Prod.snd := by
  rw [find?_eq, find?_eq, List.find?_filter]
  congr 2
  funext m
  by_cases named : m.1 = .text (some name)
  · simp [named, stays]
  · simp [named, Draft.text?_eq_some_iff]

/-! ### Binding -/

theorem blaming_eq_ok_iff {place : Nat} {step : Except JsonFault α} :
    blaming place step = .ok a ↔ step = .ok a := by
  cases step <;> simp [blaming]

variable {bind : Binder α} {noMember noItem : Option α} {index : Nat}

theorem gather_field_members_iff :
    (field name bind noMember noItem).gather p (.members ms) index = .ok a ↔
      match (find? name ms).map Prod.snd with
      | some d => bind p d = .ok a
      | none => noMember = some a := by
  simp only [field]
  cases find? name ms with
  | none => cases noMember <;> simp
  | some found => simp [blaming_eq_ok_iff]

theorem gather_field_items_iff {items : List Draft} {short : Nat → Mismatch} :
    (field name bind noMember noItem).gather p (.items items short) index = .ok a ↔
      match items[index]? with
      | some d => bind p d = .ok a
      | none => noItem = some a := by
  simp only [field]
  cases items[index]? with
  | none => cases noItem <;> simp
  | some d => simp [blaming_eq_ok_iff]

theorem ofMembers_eq_ok_iff : r.ofMembers p other ms = .ok a ↔
    memberBlame r.names other 0 [] ms = none ∧ r.gather p (.members ms) 0 = .ok a := by
  simp only [Record.ofMembers]
  cases memberBlame r.names other 0 [] ms <;> cases r.gather p (.members ms) 0 <;> simp

theorem exists_member_of_required
    (bound : (required name bind).ofMembers p other ms = .ok a) :
    ∃ d, (find? name ms).map Prod.snd = some d ∧ bind p d = .ok a := by
  have gathered := gather_field_members_iff.mp (ofMembers_eq_ok_iff.mp bound).2
  cases found : (find? name ms).map Prod.snd with
  | none => simp only [found, reduceCtorEq] at gathered
  | some d =>
    simp only [found] at gathered
    exact ⟨d, rfl, gathered⟩

theorem ofItems_eq_ok_iff {surplus : List Draft → Except JsonFault Unit} {items : List Draft} :
    r.ofItems title p surplus items = .ok a ↔
      r.gather p (.items items fun index =>
        .wrongLength index (title ++ " with " ++ elements r.names.length)) 0 = .ok a ∧
      surplus (items.drop r.names.length) = .ok () := by
  rw [Record.ofItems]
  split
  next b gathered =>
    rw [gathered]
    cases surplus (items.drop r.names.length) <;> simp [bind, Except.bind, pure, Except.pure]
  next b gathered => simp [gathered, throw, throwThe, MonadExceptOf.throw]

theorem noSurplus_eq_ok_iff {medium : Medium} {total : Nat} {rest : List Draft} :
    noSurplus medium total rest = .ok () ↔ rest = [] := by
  cases rest with
  | nil => simp [noSurplus]
  | cons d rest => cases medium <;> simp [noSurplus]

end Record

end RouteLoom
