import Mathlib.Data.List.Forall2
import RouteLoom.Proofs.Format.Rearrangement
import RouteLoom.Proofs.Json.Record

/-!
# Binders that do not mind a rearrangement

A binder is steady in a place if it takes a rearranged draft to what it takes the draft to. For words
there is nothing to rearrange. Lists, optional parts, variants and records are steady if their parts
are: a record is gathered from the fields that are found, and these are found in any order.
-/

namespace RouteLoom

namespace Binder

variable {α β : Type} {bind : Binder α} {shape : Shape} {p : Place}

/-- In this place, what is bound stays the same when a draft is rearranged. -/
def Steady (bind : Binder α) (shape : Shape) (p : Place) : Prop :=
  ∀ (d d' : Draft) (a : α), Rearranged shape p.levels d d' → bind p d = .ok a → bind p d' = .ok a

/-! ### Words -/

theorem steady_of_isWord (words : ∀ d a, bind p d = .ok a → d.isWord = true) :
    bind.Steady shape p := by
  intro d d' a rearranged bound
  rwa [rearranged.eq_of_isWord (words d a bound)]

theorem isWord_of_text {d : Draft} {s : String} (bound : text p d = .ok s) : d.isWord = true := by
  rw [text.eq_def] at bound
  split at bound
  · rfl
  · cases refuse_ne_ok bound

theorem steady_text : text.Steady shape p := steady_of_isWord fun _ _ => isWord_of_text

theorem steady_boolean : boolean.Steady shape p := by
  refine steady_of_isWord fun d b bound => ?_
  rw [boolean.eq_def] at bound
  split at bound
  · rfl
  · cases refuse_ne_ok bound

theorem isWord_of_unit {d : Draft} {u : Unit} (bound : unit p d = .ok u) : d.isWord = true := by
  rw [unit.eq_def] at bound
  split at bound
  · rfl
  · cases refuse_ne_ok bound

theorem steady_natural (wanted : String) : (natural wanted).Steady shape p := by
  refine steady_of_isWord fun d n bound => ?_
  rw [natural.eq_def] at bound
  split at bound
  · rfl
  · cases refuse_ne_ok bound

/-! ### Optional parts and lists -/

theorem Steady.map (steady : bind.Steady shape p) (f : α → β) :
    Steady (fun p d => f <$> bind p d) shape p := by
  intro d d' b rearranged bound
  obtain ⟨a, here, same⟩ := map_eq_ok_iff.mp bound
  exact map_eq_ok_iff.mpr ⟨a, steady d d' a rearranged here, same⟩

theorem optional_of_ne_null {d : Draft} (present : d ≠ .null) :
    optional bind p d = some <$> bind p d := by
  cases d with
  | null => exact absurd rfl present
  | _ => rfl

theorem Steady.optional (steady : bind.Steady shape p) : (optional bind).Steady shape p := by
  intro d d' o rearranged bound
  by_cases word : d.isWord = true
  · rwa [rearranged.eq_of_isWord word]
  · have present : d ≠ .null := fun null => word (by rw [null]; rfl)
    have present' : d' ≠ .null := by
      cases rearranged with
      | same => exact present
      | array => exact Draft.noConfusion
      | object => exact Draft.noConfusion
    rw [optional_of_ne_null present] at bound
    rw [optional_of_ne_null present']
    exact steady.map some d d' o rearranged bound

theorem mapM_of_forall₂ {f : Draft → Except JsonFault α} {ds ds' : List Draft} {as : List α}
    (each : List.Forall₂ (fun d d' => ∀ a, f d = .ok a → f d' = .ok a) ds ds')
    (mapped : ds.mapM f = .ok as) : ds'.mapM f = .ok as := by
  induction each generalizing as with
  | nil => exact mapped
  | cons first _ ih =>
    rw [List.mapM_cons] at mapped ⊢
    obtain ⟨a, ha, mapped⟩ := bind_eq_ok_iff.mp mapped
    obtain ⟨others, hothers, same⟩ := bind_eq_ok_iff.mp mapped
    exact bind_eq_ok_iff.mpr ⟨a, first a ha, bind_eq_ok_iff.mpr ⟨others, ih hothers, same⟩⟩

theorem Steady.list (items : ∀ inner, p.levels = inner + 1 → ∀ i,
    bind.Steady (shape.item i) ⟨p.medium, inner⟩) : (list bind).Steady shape p := by
  intro d d' as rearranged bound
  cases rearranged with
  | same => exact bound
  | array length each =>
    obtain ⟨q, opened, mapped⟩ := bind_eq_ok_iff.mp bound
    obtain ⟨inner, levels, rfl⟩ := Place.inner_eq_ok opened
    refine bind_eq_ok_iff.mpr ⟨_, opened, mapM_of_forall₂ ?_ mapped⟩
    refine List.forall₂_iff_get.mpr ⟨length.symm, fun i h h' a here => ?_⟩
    have rearranged := each i _ _ (List.getElem?_eq_getElem h) (List.getElem?_eq_getElem h')
    rw [levels, Nat.add_sub_cancel] at rearranged
    exact items inner levels i _ _ a rearranged here
  | object => cases refuse_ne_ok bound

theorem steady_list {item : Shape} (steady : ∀ q, bind.Steady item q) :
    (list bind).Steady (.list item) p :=
  Steady.list fun _ _ _ => steady _

theorem steady_texts : (Binder.list Binder.text).Steady .plain p :=
  Steady.list fun _ _ _ => steady_text

/-! ### Variants -/

theorem refuseVariant_ne_ok {d : Draft} {a : α} : refuseVariant p d ≠ .ok a := by
  intro bound
  rw [refuseVariant] at bound
  split at bound
  · cases bound
  · cases refuse_ne_ok bound

theorem lookup_of_variant {variants : List (String × α)} {name : String} {a : α}
    (known : variant variants name = .ok a) : variants.lookup name = some a := by
  rw [variant] at known
  split at known
  next found => rw [found, Except.ok.inj known]
  next => cases known

theorem soleMember_eq_ok_iff {f : Place → String → Draft → Except JsonFault α}
    {ms : List (Draft × Draft)} {a : α} : soleMember f p ms = .ok a ↔
      ∃ inner name d, p.levels = inner + 1 ∧ ms = [(.text (some name), d)] ∧
        f ⟨p.medium, inner⟩ name d = .ok a := by
  obtain ⟨medium, levels⟩ := p
  constructor
  · intro bound
    obtain ⟨q, opened, bound⟩ := bind_eq_ok_iff.mp bound
    obtain ⟨inner, rfl, rfl⟩ := Place.inner_eq_ok opened
    match ms with
    | [] => cases medium <;> cases bound
    | [(k, d)] =>
      obtain ⟨name, named, here⟩ := bind_eq_ok_iff.mp bound
      rw [key_eq_ok_iff.mp named]
      exact ⟨inner, name, d, rfl, rfl, here⟩
    | _ :: _ :: _ =>
      cases medium with
      | text =>
        obtain ⟨_, -, bound⟩ := bind_eq_ok_iff.mp bound
        obtain ⟨_, -, bound⟩ := bind_eq_ok_iff.mp bound
        cases bound
      | value => cases bound
  · rintro ⟨inner, name, d, rfl, rfl, here⟩
    exact here

theorem steady_soleMember {f : Place → String → Draft → Except JsonFault α}
    {ms ms' : List (Draft × Draft)} {kept : List Stay} {added : List (String × Json)} {a : α}
    (reordered : Reordered shape.member (shape.Ignores ms) (p.levels - 1) kept added ms ms')
    (strict : ∀ name, ¬ shape.Ignores ms name)
    (steady : ∀ inner, p.levels = inner + 1 → ∀ name,
      Steady (fun p => f p name) (shape.member (.text (some name))) ⟨p.medium, inner⟩)
    (bound : soleMember f p ms = .ok a) : soleMember f p ms' = .ok a := by
  obtain ⟨inner, name, d, levels, rfl, here⟩ := soleMember_eq_ok_iff.mp bound
  obtain ⟨d', after, rearranged⟩ := reordered.exists_after (List.mem_singleton_self _)
  rw [levels, Nat.add_sub_cancel] at rearranged
  have alone : ms' = [(.text (some name), d')] := by
    have one_kept : 1 = kept.length := by
      simpa using congrArg List.length reordered.before
    have one : ms'.length = 1 := by
      simpa [reordered.added_eq_nil strict, Json.memberDrafts, ← one_kept] using
        reordered.after.length_eq
    obtain ⟨m, rfl⟩ := List.length_eq_one_iff.mp one
    rw [List.mem_singleton.mp after]
  exact soleMember_eq_ok_iff.mpr
    ⟨inner, name, d', levels, alone, steady inner levels name d d' a rearranged here⟩

theorem steady_plainVariant (variants : List (String × α)) :
    (plainVariant variants).Steady .plain p := by
  intro d d' a rearranged bound
  cases rearranged with
  | same => exact bound
  | array => cases refuseVariant_ne_ok bound
  | object distinct before each ignored after =>
    refine steady_soleMember ⟨before, each, ignored, after⟩ (fun _ => id) ?_ bound
    refine fun inner _ name => steady_of_isWord fun d a bound => ?_
    obtain ⟨_, -, bound⟩ := bind_eq_ok_iff.mp bound
    obtain ⟨_, null, -⟩ := bind_eq_ok_iff.mp bound
    exact isWord_of_unit null

theorem Steady.parts (steady : bind.Steady shape p) : (parts bind).Steady shape p := by
  intro d d' a rearranged bound
  obtain ⟨medium, levels⟩ := p
  cases medium with
  | text => exact steady d d' a rearranged bound
  | value =>
    cases rearranged with
    | same => exact bound
    | array => cases refuse_ne_ok bound
    | object distinct before each ignored after =>
      exact steady _ _ a (.object distinct before each ignored after) bound

theorem steady_of_lookup {variants : List (String × Binder α)} {cases : List (String × Shape)}
    {name : String}
    (each : List.Forall₂ (fun v c => v.1 = c.1 ∧ v.2.Steady c.2 p) variants cases)
    (known : variants.lookup name = some bind) :
    bind.Steady (Shape.member (.variant cases) (.text (some name))) p := by
  change bind.Steady ((cases.lookup name).getD .plain) p
  induction each with
  | nil => cases known
  | @cons v c _ _ first _ ih =>
    obtain ⟨same, steady⟩ := first
    rw [List.lookup_cons] at known ⊢
    rw [← same]
    cases here : name == v.1 with
    | true =>
      rw [here] at known
      cases known
      exact steady
    | false =>
      rw [here] at known
      exact ih known

theorem steady_partsVariant {variants : List (String × Binder α)} {cases : List (String × Shape)}
    (each : ∀ inner, p.levels = inner + 1 →
      List.Forall₂ (fun v c => v.1 = c.1 ∧ v.2.Steady c.2 ⟨p.medium, inner⟩) variants cases) :
    (partsVariant variants).Steady (.variant cases) p := by
  intro d d' a rearranged bound
  cases rearranged with
  | same => exact bound
  | array => cases refuseVariant_ne_ok bound
  | object distinct before each' ignored after =>
    refine steady_soleMember ⟨before, each', ignored, after⟩ (fun _ => id) ?_ bound
    intro inner levels name d d' a rearranged bound
    obtain ⟨bind, known, bound⟩ := bind_eq_ok_iff.mp bound
    refine bind_eq_ok_iff.mpr ⟨bind, known, ?_⟩
    have steady := steady_of_lookup (each inner levels) (lookup_of_variant known)
    exact steady.parts d d' a rearranged bound

end Binder

/-! ### Records -/

/-- Where a field is looked for, it is found on both sides, rearranged, or on neither. -/
def Parts.Rearranged (fields : List (String × Shape)) (levels index : Nat) : Parts → Parts → Prop
  | .members ms, .members ms' => ∀ f ∈ fields, Option.Rel (RouteLoom.Rearranged f.2 levels)
      ((Record.find? f.1 ms).map Prod.snd) ((Record.find? f.1 ms').map Prod.snd)
  | .items ds _, .items ds' _ => ∀ (i : Nat) (f : String × Shape), fields[i]? = some f →
      Option.Rel (RouteLoom.Rearranged f.2 levels) ds[index + i]? ds'[index + i]?
  | _, _ => False

theorem Parts.Rearranged.of_append {fields more : List (String × Shape)} {levels index : Nat}
    {parts parts' : Parts} (rearranged : Parts.Rearranged (fields ++ more) levels index parts parts') :
    Parts.Rearranged fields levels index parts parts' ∧
      Parts.Rearranged more levels (index + fields.length) parts parts' := by
  match parts, parts' with
  | .members ms, .members ms' => exact List.forall_mem_append.mp rearranged
  | .items ds short, .items ds' short' =>
    refine ⟨fun i f hf => ?_, fun i f hf => ?_⟩
    · obtain ⟨short, -⟩ := List.getElem?_eq_some_iff.mp hf
      exact rearranged i f (by rwa [List.getElem?_append_left short])
    · rw [Nat.add_assoc]
      exact rearranged (fields.length + i) f (by
        rwa [List.getElem?_append_right (Nat.le_add_right _ _), Nat.add_sub_cancel_left])
  | .members _, .items _ _ => exact rearranged.elim
  | .items _ _, .members _ => exact rearranged.elim

namespace Record

variable {α β : Type} {p : Place} {fields more : List (String × Shape)}

/-- A record with these fields is gathered alike wherever they are found. -/
structure Steady (r : Record α) (fields : List (String × Shape)) (p : Place) : Prop where
  names : r.names = fields.map Prod.fst
  gather : ∀ (parts parts' : Parts) (index : Nat) (a : α),
    Parts.Rearranged fields p.levels index parts parts' →
      r.gather p parts index = .ok a → r.gather p parts' index = .ok a

theorem steady_field {bind : Binder α} {shape : Shape} (steady : bind.Steady shape p) (name : String)
    (noMember noItem : Option α) :
    (field name bind noMember noItem).Steady [(name, shape)] p where
  names := rfl
  gather parts parts' index a rearranged gathered := by
    match parts, parts' with
    | .members ms, .members ms' =>
      have found := rearranged (name, shape) (List.mem_singleton_self _)
      rw [gather_field_members_iff] at gathered ⊢
      dsimp only at found
      generalize (find? name ms).map Prod.snd = here at found gathered
      generalize (find? name ms').map Prod.snd = there at found ⊢
      cases found with
      | none => exact gathered
      | some rearranged => exact steady _ _ a rearranged gathered
    | .items ds short, .items ds' short' =>
      have found := rearranged 0 (name, shape) rfl
      rw [gather_field_items_iff] at gathered ⊢
      rw [Nat.add_zero] at found
      generalize ds[index]? = here at found gathered
      generalize ds'[index]? = there at found ⊢
      cases found with
      | none => exact gathered
      | some rearranged => exact steady _ _ a rearranged gathered
    | .members _, .items _ _ => exact rearranged.elim
    | .items _ _, .members _ => exact rearranged.elim

theorem steady_required {bind : Binder α} {shape : Shape} (steady : bind.Steady shape p)
    (name : String) : (required name bind).Steady [(name, shape)] p :=
  steady_field steady name none none

theorem steady_optional {bind : Binder α} {shape : Shape} (steady : bind.Steady shape p)
    (name : String) (absent : α) : (optional name absent bind).Steady [(name, shape)] p :=
  steady_field steady name (some absent) (some absent)

theorem steady_constant (a : α) : (constant a).Steady [] p where
  names := rfl
  gather _ _ _ _ _ gathered := gathered

theorem Steady.map {r : Record α} (steady : r.Steady fields p) (f : α → β) :
    (f <$> r).Steady fields p where
  names := steady.names
  gather parts parts' index b rearranged gathered := by
    obtain ⟨a, here, rfl⟩ := gather_map_eq_ok gathered
    have there := steady.gather parts parts' index a rearranged here
    change (Record.map f r).gather p parts' index = _
    simp only [Record.map, there]

theorem Steady.seq {f : Record (α → β)} {r : Record α} (hf : f.Steady fields p)
    (hr : r.Steady more p) : (f <*> r).Steady (fields ++ more) p where
  names := by
    rw [List.map_append, ← hf.names, ← hr.names]
    rfl
  gather parts parts' index b rearranged gathered := by
    obtain ⟨g, a, hg, ha, rfl⟩ := gather_seq_eq_ok gathered
    obtain ⟨front, back⟩ := rearranged.of_append
    have length : f.names.length = fields.length := by rw [hf.names, List.length_map]
    have hg' := hf.gather parts parts' index g front hg
    have ha' := hr.gather parts parts' _ a (length ▸ back) ha
    change (Record.seq f r).gather p parts' index = _
    simp only [Record.seq, hg', ha']

variable {r : Record α}

theorem Steady.ofMembers {shape : Draft → Shape} {ignores : String → Prop} {kept : List Stay}
    {added : List (String × Json)} {ms ms' : List (Draft × Draft)}
    {other : Draft → Option JsonFault} {a : α} (steady : r.Steady fields p)
    (reordered : Reordered shape ignores p.levels kept added ms ms') (calm : Calm other p.levels)
    (shapes : ∀ f ∈ fields, shape (.text (some f.1)) = f.2) (apart : ∀ f ∈ fields, ¬ ignores f.1)
    (bound : r.ofMembers p other ms = .ok a) : r.ofMembers p other ms' = .ok a := by
  obtain ⟨blameless, gathered⟩ := ofMembers_eq_ok_iff.mp bound
  have named : ∀ name ∈ r.names, ¬ ignores name := by
    rw [steady.names]
    exact List.forall_mem_map.mpr apart
  have nodup := ((memberBlame_eq_none_iff 0).mp blameless).2.1
  have found : Parts.Rearranged fields p.levels 0 (.members ms) (.members ms') := fun f hf => by
    have field : f.1 ∈ r.names := by
      rw [steady.names]
      exact List.mem_map_of_mem hf
    rw [← shapes f hf]
    exact reordered.rel_find? named nodup field
  exact ofMembers_eq_ok_iff.mpr
    ⟨reordered.memberBlame_eq_none calm named blameless, steady.gather _ _ 0 a found gathered⟩

theorem lookup_of_nodup (nodup : (fields.map Prod.fst).Nodup) {f : String × Shape}
    (hf : f ∈ fields) : fields.lookup f.1 = some f.2 := by
  induction fields with
  | nil => cases hf
  | cons g rest ih =>
    obtain ⟨new, nodup⟩ := List.nodup_cons.mp nodup
    rw [List.lookup_cons]
    rcases List.mem_cons.mp hf with rfl | hf
    · rw [beq_self_eq_true]
    · have other : f.1 ≠ g.1 := fun same => new (same ▸ List.mem_map_of_mem hf)
      rw [beq_eq_false_iff_ne.mpr other]
      exact ih nodup hf

theorem rel_getElem? {R : Nat → Draft → Draft → Prop} {items items' : List Draft}
    (length : items'.length = items.length)
    (each : ∀ i d d', items[i]? = some d → items'[i]? = some d' → R i d d') (i : Nat) :
    Option.Rel (R i) items[i]? items'[i]? := by
  by_cases short : i < items.length
  · have short' : i < items'.length := length ▸ short
    rw [List.getElem?_eq_getElem short, List.getElem?_eq_getElem short']
    exact .some (each i _ _ (List.getElem?_eq_getElem short) (List.getElem?_eq_getElem short'))
  · rw [List.getElem?_eq_none (Nat.le_of_not_lt short),
      List.getElem?_eq_none (length ▸ Nat.le_of_not_lt short)]
    exact .none

/-- A record is bound alike from its members in any order, and from its items. -/
theorem Steady.binder {title : String}
    (steady : ∀ inner, p.levels = inner + 1 → r.Steady fields ⟨p.medium, inner⟩)
    (nodup : (fields.map Prod.fst).Nodup) :
    (Record.binder title r).Steady (.record fields) p := by
  intro d d' a rearranged bound
  cases rearranged with
  | same => exact bound
  | @array _ _ items items' length each =>
    obtain ⟨q, opened, bound⟩ := bind_eq_ok_iff.mp bound
    obtain ⟨inner, levels, rfl⟩ := Place.inner_eq_ok opened
    refine bind_eq_ok_iff.mpr ⟨_, opened, ?_⟩
    obtain ⟨gathered, ends⟩ := ofItems_eq_ok_iff.mp bound
    have found (short : Nat → Mismatch) :
        Parts.Rearranged fields inner 0 (.items items short) (.items items' short) := by
      intro i f hf
      have rel := rel_getElem? length each i
      rw [levels, Nat.add_sub_cancel, Shape.item, hf] at rel
      rwa [Nat.zero_add]
    refine ofItems_eq_ok_iff.mpr ⟨(steady inner levels).gather _ _ 0 a (found _) gathered, ?_⟩
    rw [noSurplus_eq_ok_iff, List.drop_eq_nil_iff] at ends ⊢
    rwa [length]
  | object distinct before each ignored after =>
    obtain ⟨q, opened, bound⟩ := bind_eq_ok_iff.mp bound
    obtain ⟨inner, levels, rfl⟩ := Place.inner_eq_ok opened
    refine bind_eq_ok_iff.mpr ⟨_, opened, ?_⟩
    rw [levels, Nat.add_sub_cancel] at each ignored
    refine (steady inner levels).ofMembers ⟨before, each, ignored, after⟩ (calm_skipFault inner)
      (fun f hf => ?_) (fun f hf ignored => ignored (List.mem_map_of_mem hf)) bound
    change (fields.lookup f.1).getD .plain = f.2
    rw [lookup_of_nodup nodup hf, Option.getD_some]

end Record

end RouteLoom
