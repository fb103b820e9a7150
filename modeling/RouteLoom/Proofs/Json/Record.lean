import RouteLoom.Proofs.Json.Members

/-!
# Binding records

A record whose fields each find their member among those that were written is gathered from them,
and so it is bound, as the keys do not repeat. The other way round, all that a record is bound to
was gathered from its fields, each of which was bound itself or took the value that may be left out.
-/

namespace RouteLoom.Record

variable {α β : Type} {name : String} {bind : Binder α} {noMember noItem : Option α}
  {ms : List (String × Json)} {p : Place} {a : α} {j : Json}

/-! ### Gathering written members -/

@[simp] theorem lookup_memberOf (name key : String) (write : α → Json) (o : Option α) :
    (Json.memberOf key write o).lookup name = if name = key then o.map write else none := by
  cases o with
  | none => simp [Json.memberOf]
  | some a =>
    rw [Json.memberOf, List.lookup_cons, List.lookup_nil]
    by_cases same : name = key
    · simp [same]
    · simp [same, beq_eq_false_iff_ne.mpr same]

/-- From the members `ms`, as they were written, the fields make up `a`. -/
def Gathers (r : Record α) (ms : List (String × Json)) (a : α) : Prop :=
  ∀ (p : Place) (index : Nat), (∀ m ∈ ms, Json.Fits p.levels m.2) →
    r.gather p (.members (Json.memberDrafts ms)) index = .ok a

theorem map_find? (name : String) (ms : List (String × Json)) :
    (find? name (Json.memberDrafts ms)).map Prod.snd = (ms.lookup name).map Json.draft := by
  induction ms with
  | nil => rfl
  | cons m rest ih =>
    obtain ⟨k, j⟩ := m
    rw [Json.memberDrafts, find?, List.lookup_cons, Draft.text?]
    by_cases same : k = name
    · subst same
      rw [if_pos rfl, beq_self_eq_true]
      rfl
    · have other : some k ≠ some name := fun h => same (Option.some.inj h)
      rw [if_neg other, beq_eq_false_iff_ne.mpr (Ne.symm same), ← ih, Option.map_map]
      rfl

theorem gathers_field (found : ms.lookup name = some j) (binds : bind.Binds j a) :
    (field name bind noMember noItem).Gathers ms a := by
  intro p index fits
  rw [gather_field_members_iff, map_find?, found]
  obtain ⟨front, back, rfl, -⟩ := List.lookup_eq_some_iff.mp found
  exact binds p (fits (name, j) (by simp))

theorem gathers_absent (missing : ms.lookup name = none) :
    (field name bind (some a) noItem).Gathers ms a := by
  intro p index _
  rw [gather_field_members_iff, map_find?, missing]
  rfl

theorem gathers_memberOf {write : α → Json} {o : Option α} {noItem : Option (Option α)}
    (found : ms.lookup name = o.map write) (binds : ∀ a, bind.Binds (write a) a)
    (present : ∀ a, write a ≠ .null) :
    (field name (Binder.optional bind) (some none) noItem).Gathers ms o := by
  cases o with
  | none => exact gathers_absent found
  | some a => exact gathers_field found ((binds a).some (present a))

theorem gathers_unlessEmpty {write : α → Json} {as : List α} {noItem : Option (List α)}
    (found : ms.lookup name = if as.isEmpty then none else some (.array (as.map write)))
    (binds : ∀ a ∈ as, bind.Binds (write a) a) :
    (field name (Binder.list bind) (some []) noItem).Gathers ms as := by
  cases as with
  | nil => exact gathers_absent found
  | cons a rest => exact gathers_field found (Binder.binds_list binds)

theorem gathers_constant (a : α) : (constant a).Gathers ms a := fun _ _ _ => rfl

theorem Gathers.map {r : Record α} (f : α → β) (h : r.Gathers ms a) : (f <$> r).Gathers ms (f a) := by
  intro p index fits
  change (Record.map f r).gather p _ index = _
  simp only [Record.map, h p index fits]

theorem Gathers.seq {f : Record (α → β)} {r : Record α} {g : α → β} (hf : f.Gathers ms g)
    (h : r.Gathers ms a) : (f <*> r).Gathers ms (g a) := by
  intro p index fits
  change (Record.seq f r).gather p _ index = _
  simp only [Record.seq, hf p index fits, h p _ fits]

/-! ### Binding written members -/

theorem given_memberDrafts (names : List String) (ms : List (String × Json)) :
    given names (Json.memberDrafts ms) = (ms.map Prod.fst).filter (· ∈ names) := by
  induction ms with
  | nil => rfl
  | cons m rest ih =>
    rw [Json.memberDrafts, List.map_cons]
    by_cases field : m.1 ∈ names
    · rw [given_cons_field field, ih, List.filter_cons_of_pos (by simpa using field)]
    · rw [given_cons_other field, ih, List.filter_cons_of_neg (by simpa using field)]

theorem memberBlame_eq_none {other : Draft → Option JsonFault} (names : List String)
    (nodup : (ms.map Prod.fst).Nodup) (clean : ∀ m ∈ ms, other m.2.draft = none) :
    memberBlame names other 0 [] (Json.memberDrafts ms) = none := by
  refine (memberBlame_eq_none_iff 0).mpr ⟨?_, ?_, fun _ _ => List.not_mem_nil⟩
  · rw [Json.memberDrafts_eq, List.forall_mem_map]
    exact fun m hm => ⟨m.1, rfl, .inr (clean m hm)⟩
  · rw [given_memberDrafts]
    exact nodup.filter _

theorem Gathers.ofMembers {r : Record α} (gathers : r.Gathers ms a)
    (nodup : (ms.map Prod.fst).Nodup) {other : Draft → Option JsonFault}
    (fits : ∀ m ∈ ms, Json.Fits p.levels m.2) (clean : ∀ m ∈ ms, other m.2.draft = none) :
    r.ofMembers p other (Json.memberDrafts ms) = .ok a :=
  ofMembers_eq_ok_iff.mpr ⟨memberBlame_eq_none r.names nodup clean, gathers p 0 fits⟩

/-- A written record is bound to what it was written from. -/
theorem Gathers.binds {r : Record α} {title : String} (gathers : r.Gathers ms a)
    (nodup : (ms.map Prod.fst).Nodup) : (Record.binder title r).Binds (.object ms) a := by
  rintro ⟨medium, levels⟩ fits
  obtain ⟨inner, rfl, inside⟩ := Json.fits_object_iff.mp fits
  exact gathers.ofMembers (p := ⟨medium, inner⟩) nodup inside fun m _ => Json.skipFault_draft m.2

/-! ### What records are bound from -/

variable {parts : Parts} {index : Nat} {d : Draft}

theorem gather_field_eq_ok
    (gathered : (field name bind noMember noItem).gather p parts index = .ok a) :
    (∃ d, bind p d = .ok a) ∨ noMember = some a ∨ noItem = some a := by
  cases parts with
  | members ms =>
    rw [gather_field_members_iff] at gathered
    split at gathered
    · exact .inl ⟨_, gathered⟩
    · exact .inr (.inl gathered)
  | items ds short =>
    rw [gather_field_items_iff] at gathered
    split at gathered
    · exact .inl ⟨_, gathered⟩
    · exact .inr (.inr gathered)

theorem gather_required_eq_ok (gathered : (required name bind).gather p parts index = .ok a) :
    ∃ d, bind p d = .ok a := by
  rcases gather_field_eq_ok gathered with bound | ⟨⟨⟩⟩ | ⟨⟨⟩⟩
  exact bound

theorem gather_optional_eq_ok {absent : α}
    (gathered : (optional name absent bind).gather p parts index = .ok a) :
    a = absent ∨ ∃ d, bind p d = .ok a := by
  rcases gather_field_eq_ok gathered with bound | same | same
  · exact .inr bound
  · exact .inl (Option.some.inj same).symm
  · exact .inl (Option.some.inj same).symm

theorem gather_map_eq_ok {r : Record α} {f : α → β} {b : β}
    (gathered : (f <$> r).gather p parts index = .ok b) :
    ∃ a, r.gather p parts index = .ok a ∧ b = f a := by
  change (Record.map f r).gather p parts index = .ok b at gathered
  simp only [Record.map] at gathered
  split at gathered
  next a ha =>
    cases gathered
    exact ⟨a, ha, rfl⟩
  next => cases gathered

theorem gather_seq_eq_ok {f : Record (α → β)} {r : Record α} {b : β}
    (gathered : (f <*> r).gather p parts index = .ok b) :
    ∃ g a, f.gather p parts index = .ok g ∧
      r.gather p parts (index + f.names.length) = .ok a ∧ b = g a := by
  change (Record.seq f r).gather p parts index = .ok b at gathered
  simp only [Record.seq] at gathered
  split at gathered
  next g a hg ha =>
    cases gathered
    exact ⟨g, a, hg, ha, rfl⟩
  next => cases gathered
  next => cases gathered
  next => cases gathered

theorem gather_of_binder {r : Record α} {title : String} (bound : Record.binder title r p d = .ok a) :
    ∃ inner parts, p.levels = inner + 1 ∧ r.gather ⟨p.medium, inner⟩ parts 0 = .ok a := by
  rw [Record.binder.eq_def] at bound
  split at bound
  next members =>
    obtain ⟨q, opened, bound⟩ := bind_eq_ok_iff.mp bound
    obtain ⟨inner, levels, rfl⟩ := Place.inner_eq_ok opened
    exact ⟨inner, _, levels, (ofMembers_eq_ok_iff.mp bound).2⟩
  next items =>
    obtain ⟨q, opened, bound⟩ := bind_eq_ok_iff.mp bound
    obtain ⟨inner, levels, rfl⟩ := Place.inner_eq_ok opened
    exact ⟨inner, _, levels, (ofItems_eq_ok_iff.mp bound).1⟩
  next => cases Binder.refuse_ne_ok bound

end RouteLoom.Record
