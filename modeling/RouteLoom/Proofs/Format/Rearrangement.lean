import RouteLoom.Format.Node
import RouteLoom.Proofs.Json.Members
import RouteLoom.Proofs.Json.Words

/-!
# Rearranged drafts

Two texts can differ in the order of the members of their objects, and in members that have no
meaning where they stand. Which members have one depends on what a draft is bound as, and this is
its `Shape`. A rearranged draft is as sound as the first: what could be skipped or kept still can.
-/

namespace RouteLoom

/-! ### Shapes -/

namespace Node

def kindName? (members : List (Draft × Draft)) : Option KindName :=
  (Record.find? "kind" members).bind fun (_, d) => (KindName.byTextOrNumber ⟨.text, 0⟩ d).toOption

/-- The names that have a meaning in a node: those of its parts, and of the fields of its kind. -/
def names (members : List (Draft × Draft)) : List String :=
  ["id", "outputs", "kind"] ++ ((kindName? members).map fun kind => kind.record.names).getD []

end Node

/-- What a draft is bound as, so far as members may be added to it or to its parts. -/
inductive Shape
  /-- Nothing may be added. -/
  | plain
  | list (item : Shape)
  | record (fields : List (String × Shape))
  | node
  /-- A variant with parts. Nothing may be added beside it. -/
  | variant (cases : List (String × Shape))

namespace Shape

def member (shape : Shape) (key : Draft) : Shape :=
  match shape, key.text? with
  | .record fields, some name => (fields.lookup name).getD .plain
  | .variant cases, some name => (cases.lookup name).getD .plain
  | .node, some name => if name = "outputs" then .list .node else .plain
  | _, _ => .plain

/-- The shape of an item. A record may be written as the array of its fields. -/
def item (shape : Shape) (i : Nat) : Shape :=
  match shape with
  | .list item => item
  | .record fields => (fields[i]?.map Prod.snd).getD .plain
  | _ => .plain

def Ignores (shape : Shape) (members : List (Draft × Draft)) (name : String) : Prop :=
  match shape with
  | .record fields => name ∉ fields.map Prod.fst
  | .node => name ∉ Node.names members
  | _ => False

instance (shape : Shape) (members : List (Draft × Draft)) (name : String) :
    Decidable (shape.Ignores members name) :=
  match shape with
  | .record fields => inferInstanceAs (Decidable (name ∉ fields.map Prod.fst))
  | .node => inferInstanceAs (Decidable (name ∉ Node.names members))
  | .plain => instDecidableFalse
  | .list _ => instDecidableFalse
  | .variant _ => instDecidableFalse

end Shape

/-! ### Rearranging -/

/-- A member that stays, and its value before and after. -/
structure Stay where
  key : Draft
  before : Draft
  after : Draft

/-- The second draft is the first with the members of its objects in another order, and with members
that are ignored added to them. No object that is rearranged repeats a key. So many arrays and objects
may be opened, and what is added keeps to that. -/
inductive Rearranged : Shape → Nat → Draft → Draft → Prop
  | same (shape : Shape) (levels : Nat) (d : Draft) : Rearranged shape levels d d
  | array {shape : Shape} {levels : Nat} {items items' : List Draft}
      (length : items'.length = items.length)
      (each : ∀ (i : Nat) (d d' : Draft), items[i]? = some d → items'[i]? = some d' →
        Rearranged (shape.item i) (levels - 1) d d') :
      Rearranged shape levels (.array items) (.array items')
  | object {shape : Shape} {levels : Nat} {members members' : List (Draft × Draft)}
      {kept : List Stay} {added : List (String × Json)}
      (distinct : (members.filterMap fun m => m.1.text?).Nodup)
      (before : members = kept.map fun m => (m.key, m.before))
      (each : ∀ m ∈ kept, Rearranged (shape.member m.key) (levels - 1) m.before m.after)
      (ignored : ∀ m ∈ added, shape.Ignores members m.1 ∧ Json.Fits (levels - 1) m.2)
      (after : members'.Perm (kept.map (fun m => (m.key, m.after)) ++ Json.memberDrafts added)) :
      Rearranged shape levels (.object members) (.object members')

section

variable {shape : Shape} {levels : Nat} {d d' : Draft}

theorem Rearranged.eq_of_isWord (rearranged : Rearranged shape levels d d')
    (word : d.isWord = true) : d' = d := by
  cases rearranged with
  | same => rfl
  | array => cases word
  | object => cases word

/-! ### Soundness -/

theorem exists_item_before {items items' : List Draft} (length : items'.length = items.length)
    (hd' : d' ∈ items') :
    ∃ (i : Nat) (d : Draft), d ∈ items ∧ items[i]? = some d ∧ items'[i]? = some d' := by
  obtain ⟨i, found⟩ := List.mem_iff_getElem?.mp hd'
  obtain ⟨short, -⟩ := List.getElem?_eq_some_iff.mp found
  have there : items[i]? = some _ := List.getElem?_eq_getElem (length ▸ short)
  exact ⟨i, _, List.mem_of_getElem? there, there, found⟩

theorem Rearranged.flaw?_eq_none (rearranged : Rearranged shape levels d d')
    (sound : d.flaw? = none) : d'.flaw? = none := by
  induction rearranged with
  | same => exact sound
  | array length each ih =>
    rw [Draft.flaw?, Draft.flawOfItems_eq_none_iff] at sound ⊢
    intro e' he'
    obtain ⟨i, e, he, before, after⟩ := exists_item_before length he'
    exact ih i e e' before after (sound e he)
  | object distinct before each ignored after ih =>
    rw [Draft.flaw?, Draft.flawOfMembers_eq_none_iff] at sound ⊢
    intro m hm
    rcases List.mem_append.mp (after.mem_iff.mp hm) with stays | new
    · obtain ⟨stay, hstay, rfl⟩ := List.mem_map.mp stays
      obtain ⟨key, value⟩ := sound (stay.key, stay.before)
        (by rw [before]; exact List.mem_map_of_mem hstay)
      exact ⟨key, ih stay hstay value⟩
    · rw [Json.memberDrafts_eq] at new
      obtain ⟨⟨key, j⟩, -, rfl⟩ := List.mem_map.mp new
      exact ⟨rfl, Json.flaw?_draft j⟩

theorem Rearranged.keepFault_eq_none (rearranged : Rearranged shape levels d d')
    (sound : Binder.keepFault levels d = none) : Binder.keepFault levels d' = none := by
  induction rearranged with
  | same => exact sound
  | @array _ levels _ _ length each ih =>
    cases levels with
    | zero => cases sound
    | succ inner =>
      rw [Binder.keepFault, Binder.keepItems_eq_none_iff] at sound ⊢
      intro e' he'
      obtain ⟨i, e, he, before, after⟩ := exists_item_before length he'
      exact ih i e e' before after (sound e he)
  | @object _ levels _ _ _ _ distinct before each ignored after ih =>
    cases levels with
    | zero => cases sound
    | succ inner =>
      rw [Binder.keepFault, Binder.keepMembers_eq_none_iff] at sound ⊢
      intro m hm
      rcases List.mem_append.mp (after.mem_iff.mp hm) with stays | new
      · obtain ⟨stay, hstay, rfl⟩ := List.mem_map.mp stays
        obtain ⟨named, value⟩ := sound (stay.key, stay.before)
          (by rw [before]; exact List.mem_map_of_mem hstay)
        exact ⟨named, ih stay hstay value⟩
      · rw [Json.memberDrafts_eq] at new
        obtain ⟨⟨key, j⟩, hj, rfl⟩ := List.mem_map.mp new
        exact ⟨⟨key, rfl⟩, Json.keepFault_draft j (ignored _ hj).2⟩

end

/-! ### Members -/

/-- Members of which some stay, with their values rearranged, and others are added that are ignored,
in any order. -/
structure Reordered (shape : Draft → Shape) (ignores : String → Prop) (levels : Nat)
    (kept : List Stay) (added : List (String × Json)) (ms ms' : List (Draft × Draft)) : Prop where
  before : ms = kept.map fun m => (m.key, m.before)
  each : ∀ m ∈ kept, Rearranged (shape m.key) levels m.before m.after
  ignored : ∀ m ∈ added, ignores m.1 ∧ Json.Fits levels m.2
  after : ms'.Perm (kept.map (fun m => (m.key, m.after)) ++ Json.memberDrafts added)

namespace Reordered

variable {shape : Draft → Shape} {ignores : String → Prop} {levels : Nat} {kept : List Stay}
  {added : List (String × Json)} {ms ms' : List (Draft × Draft)} {names : List String}
  {name : String} {d : Draft}

theorem mem_before (reordered : Reordered shape ignores levels kept added ms ms') {m : Stay}
    (hm : m ∈ kept) : (m.key, m.before) ∈ ms := by
  rw [reordered.before]
  exact List.mem_map_of_mem hm

theorem mem_after (reordered : Reordered shape ignores levels kept added ms ms')
    {m : Draft × Draft} (hm : m ∈ ms') :
    (∃ stay ∈ kept, m = (stay.key, stay.after)) ∨
      ∃ new ∈ added, m = (.text (some new.1), new.2.draft) := by
  rcases List.mem_append.mp (reordered.after.mem_iff.mp hm) with stays | new
  · obtain ⟨stay, hstay, rfl⟩ := List.mem_map.mp stays
    exact .inl ⟨stay, hstay, rfl⟩
  · rw [Json.memberDrafts_eq] at new
    obtain ⟨added, hadded, rfl⟩ := List.mem_map.mp new
    exact .inr ⟨added, hadded, rfl⟩

theorem exists_after (reordered : Reordered shape ignores levels kept added ms ms')
    {k : Draft} (hd : (k, d) ∈ ms) : ∃ d', (k, d') ∈ ms' ∧ Rearranged (shape k) levels d d' := by
  rw [reordered.before] at hd
  obtain ⟨stay, hstay, same⟩ := List.mem_map.mp hd
  cases same
  exact ⟨stay.after, reordered.after.mem_iff.mpr
    (List.mem_append_left _ (List.mem_map_of_mem hstay)), reordered.each stay hstay⟩

theorem added_eq_nil (reordered : Reordered shape ignores levels kept added ms ms')
    (strict : ∀ name, ¬ ignores name) : added = [] :=
  List.eq_nil_iff_forall_not_mem.mpr fun m hm => strict m.1 (reordered.ignored m hm).1

theorem perm_of_words (reordered : Reordered shape ignores levels kept added ms ms')
    (strict : ∀ name, ¬ ignores name) (words : ∀ m ∈ ms, m.2.isWord = true) : ms'.Perm ms := by
  have same : kept.map (fun m => (m.key, m.after)) = ms := by
    rw [reordered.before]
    refine List.map_congr_left fun m hm => ?_
    rw [(reordered.each m hm).eq_of_isWord (words _ (reordered.mem_before hm))]
  have after := reordered.after
  rwa [reordered.added_eq_nil strict, same, Json.memberDrafts, List.append_nil] at after

theorem filter (reordered : Reordered shape ignores levels kept added ms ms')
    (chosen : Draft → Bool) :
    Reordered shape ignores levels (kept.filter fun m => chosen m.key)
      (added.filter fun m => chosen (.text (some m.1))) (ms.filter fun m => chosen m.1)
      (ms'.filter fun m => chosen m.1) where
  before := by
    rw [reordered.before, List.filter_map]
    rfl
  each m hm := reordered.each m (List.mem_of_mem_filter hm)
  ignored m hm := reordered.ignored m (List.mem_of_mem_filter hm)
  after := by
    have stays := reordered.after.filter fun m => chosen m.1
    rw [List.filter_append, List.filter_map, Json.memberDrafts_eq, List.filter_map] at stays
    rw [Json.memberDrafts_eq]
    exact stays

theorem given_perm (reordered : Reordered shape ignores levels kept added ms ms')
    (apart : ∀ name ∈ names, ¬ ignores name) :
    (Record.given names ms').Perm (Record.given names ms) := by
  have none_added : Record.given names (Json.memberDrafts added) = [] := by
    rw [Record.given, List.filterMap_eq_nil_iff, Json.memberDrafts_eq, List.forall_mem_map]
    intro m hm
    simp only [Draft.text?, Option.filter_eq_none_iff, Option.some.injEq, forall_eq',
      decide_eq_true_eq]
    exact fun field => apart m.1 field (reordered.ignored m hm).1
  have same : Record.given names (kept.map fun m => (m.key, m.after)) = Record.given names ms := by
    rw [reordered.before, Record.given, Record.given, List.filterMap_map, List.filterMap_map]
    rfl
  have perm := reordered.after.filterMap fun m => m.1.text?.filter (· ∈ names)
  rw [List.filterMap_append] at perm
  change (Record.given names ms').Perm (Record.given names _ ++ Record.given names _) at perm
  rwa [none_added, List.append_nil, same] at perm

/-- Where no field is given twice, a field is found on both sides or on neither. -/
theorem rel_find? (reordered : Reordered shape ignores levels kept added ms ms')
    (apart : ∀ name ∈ names, ¬ ignores name) (nodup : (Record.given names ms).Nodup)
    (field : name ∈ names) :
    Option.Rel (Rearranged (shape (.text (some name))) levels)
      ((Record.find? name ms).map Prod.snd) ((Record.find? name ms').map Prod.snd) := by
  have nodup' := (reordered.given_perm apart).nodup_iff.mpr nodup
  cases found : (Record.find? name ms).map Prod.snd with
  | none =>
    have missing := Record.find?_eq_none_iff.mp found
    have none_after : (Record.find? name ms').map Prod.snd = none := by
      refine Record.find?_eq_none_iff.mpr fun d' hd' => ?_
      rcases reordered.mem_after hd' with ⟨stay, hstay, same⟩ | ⟨new, hnew, same⟩
      · refine missing stay.before ?_
        rw [(Prod.mk.inj same).1]
        exact reordered.mem_before hstay
      · have same_name := Option.some.inj (Draft.text.inj (Prod.mk.inj same).1)
        exact apart name field (same_name ▸ (reordered.ignored new hnew).1)
    rw [none_after]
    exact .none
  | some d =>
    obtain ⟨d', hd', rearranged⟩ := reordered.exists_after (Record.mem_of_find? found)
    rw [Record.find?_of_mem nodup' field hd']
    exact .some rearranged

end Reordered

/-! ### Members that are no fields -/

/-- What such members may be blamed for does not come by rearranging or with what is added. -/
structure Calm (other : Draft → Option JsonFault) (levels : Nat) : Prop where
  rearranged : ∀ (shape : Shape) (d d' : Draft), Rearranged shape levels d d' → other d = none →
    other d' = none
  added : ∀ j : Json, Json.Fits levels j → other j.draft = none

theorem calm_skipFault (levels : Nat) : Calm Binder.skipFault levels where
  rearranged shape d d' rearranged skipped := by
    rw [Binder.skipFault, Option.map_eq_none_iff] at skipped ⊢
    exact rearranged.flaw?_eq_none skipped
  added j _ := Json.skipFault_draft j

theorem calm_keepFault (levels : Nat) : Calm (Binder.keepFault levels) levels where
  rearranged _ _ _ rearranged kept := rearranged.keepFault_eq_none kept
  added j fits := Json.keepFault_draft j fits

theorem calm_noFault (levels : Nat) : Calm Kind.noFault levels := ⟨fun _ _ _ _ _ => rfl, fun _ _ => rfl⟩

theorem Reordered.memberBlame_eq_none {shape : Draft → Shape} {ignores : String → Prop}
    {levels : Nat} {kept : List Stay} {added : List (String × Json)} {ms ms' : List (Draft × Draft)}
    {names : List String} {other : Draft → Option JsonFault}
    (reordered : Reordered shape ignores levels kept added ms ms') (calm : Calm other levels)
    (apart : ∀ name ∈ names, ¬ ignores name)
    (blameless : Record.memberBlame names other 0 [] ms = none) :
    Record.memberBlame names other 0 [] ms' = none := by
  rw [Record.memberBlame_eq_none_iff] at blameless ⊢
  obtain ⟨sound, nodup, -⟩ := blameless
  refine ⟨fun m hm => ?_, (reordered.given_perm apart).nodup_iff.mpr nodup, fun _ _ => nofun⟩
  rcases reordered.mem_after hm with ⟨stay, hstay, rfl⟩ | ⟨new, hnew, rfl⟩
  · obtain ⟨key, named, clean⟩ := sound _ (reordered.mem_before hstay)
    exact ⟨key, named, clean.imp_right (calm.rearranged _ _ _ (reordered.each stay hstay))⟩
  · exact ⟨new.1, rfl, .inr (calm.added _ (reordered.ignored new hnew).2)⟩

end RouteLoom
