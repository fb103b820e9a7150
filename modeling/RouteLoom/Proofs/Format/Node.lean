import RouteLoom.Format.Node
import RouteLoom.Proofs.Json.Record

/-!
# Reading nodes back

A node's kind is bound from what is left of its members when the id and the outputs are taken away,
and these are the members that were written for the kind. The levels that are counted down while
outputs are bound only say where counting ends: outputs are bound as a list of nodes.
-/

namespace RouteLoom

open Record

/-! ### Kinds -/

namespace Kind

def named : Kind → KindName
  | .step _ => .step
  | .onException _ _ => .onException
  | .proceed => .proceed
  | .proxy _ => .proxy

def fields (k : Kind) : List (String × Json) := k.members.tail

theorem members_eq (k : Kind) : ∃ name, k.members = ("kind", .text name) :: k.fields ∧
    Binder.variant KindName.variants name = .ok k.named := by
  cases k with
  | step uri => exact ⟨"step", rfl, rfl⟩
  | onException exceptions handled => exact ⟨"on_exception", rfl, rfl⟩
  | proceed => exact ⟨"proceed", rfl, rfl⟩
  | proxy intercept => exact ⟨"proxy", rfl, rfl⟩

theorem gathers_fields (k : Kind) : k.named.record.Gathers k.fields k := by
  cases k with
  | step uri => exact (gathers_field rfl (Binder.binds_text uri)).map Kind.step
  | onException exceptions handled =>
    have texts : (Binder.list Binder.text).Binds (texts exceptions) exceptions :=
      Binder.binds_list fun s _ => Binder.binds_text s
    exact ((gathers_field rfl texts).map Kind.onException).seq
      (gathers_field rfl (Binder.binds_boolean handled))
  | proceed => exact gathers_constant Kind.proceed
  | proxy intercept => exact (gathers_field rfl (Binder.binds_text intercept)).map Kind.proxy

theorem nodup_members (k : Kind) : (k.members.map Prod.fst).Nodup := by
  cases k <;> simp [members]

theorem nodup_fields (k : Kind) : (k.fields.map Prod.fst).Nodup :=
  ((List.tail_sublist k.members).map Prod.fst).nodup k.nodup_members

theorem filter_members (k : Kind) :
    (Json.memberDrafts k.members).filter (fun m => m.1.text? ≠ some "kind") =
      Json.memberDrafts k.fields := by
  cases k <;> simp [fields, members, Json.memberDrafts, Draft.text?]

theorem ofMembers_eq_ok {tag : Binder KindName} {p : Place} {other : Draft → Option JsonFault}
    (k : Kind) (fits : ∀ m ∈ k.members, Json.Fits p.levels m.2)
    (clean : ∀ m ∈ k.members, other m.2.draft = none)
    (named : ∀ name, Binder.variant KindName.variants name = .ok k.named →
      tag.Binds (.text name) k.named) :
    (Record.required "kind" tag).ofMembers p other (Json.memberDrafts k.members) = .ok k.named ∧
      k.named.record.ofMembers p noFault ((Json.memberDrafts k.members).filter fun m =>
        m.1.text? ≠ some "kind") = .ok k := by
  obtain ⟨name, split, variant⟩ := k.members_eq
  constructor
  · have gathers : (Record.required "kind" tag).Gathers k.members k.named :=
      gathers_field (by rw [split]; rfl) (named name variant)
    exact gathers.ofMembers k.nodup_members fits clean
  · rw [k.filter_members]
    have inside : ∀ m ∈ k.fields, Json.Fits p.levels m.2 := fun m hm =>
      fits m (by rw [split]; exact List.mem_cons_of_mem _ hm)
    exact k.gathers_fields.ofMembers k.nodup_fields inside fun _ _ => rfl

theorem binds_toJson (k : Kind) : Kind.binder.Binds k.toJson k := by
  rintro ⟨medium, levels⟩ fits
  obtain ⟨inner, rfl, inside⟩ := Json.fits_object_iff.mp fits
  have kept : ∀ m ∈ k.members, Binder.keepFault inner m.2.draft = none := fun m hm =>
    Json.keepFault_draft m.2 (inside m hm)
  have named (name : String) (variant : Binder.variant KindName.variants name = .ok k.named) :
      KindName.byText.Binds (.text name) k.named := fun _ _ => variant
  obtain ⟨tagged, rest⟩ := k.ofMembers_eq_ok (p := ⟨medium, inner⟩) inside kept named
  exact bind_eq_ok_iff.mpr ⟨⟨medium, inner⟩, rfl, bind_eq_ok_iff.mpr ⟨k.named, tagged, rest⟩⟩

end Kind

/-! ### Nodes -/

theorem Forest.jsonItems_eq (f : Forest) : jsonItems f = f.map Node.toJson := by
  induction f with
  | nil => rfl
  | cons n rest ih => rw [jsonItems, ih, List.map_cons]

theorem Forest.toJson_eq (f : Forest) : toJson f = .array (f.map Node.toJson) := by
  rw [toJson, jsonItems_eq]

namespace Node

def members (n : Node) : List (String × Json) :=
  n.kind.members ++ Json.memberOf "id" .text n.id ++
    if n.outputs.isEmpty then [] else [("outputs", Forest.toJson n.outputs)]

theorem toJson_eq (n : Node) : n.toJson = .object n.members := by
  obtain ⟨kind, id, outputs⟩ := n
  cases outputs with
  | nil => rw [toJson, members]; simp
  | cons m rest => rw [toJson, members]; rfl

theorem nodup_members (n : Node) : (n.members.map Prod.fst).Nodup := by
  obtain ⟨kind, id, outputs⟩ := n
  cases kind <;> cases id <;> cases outputs <;> simp [members, Kind.members, Json.memberOf]

theorem lookup_id (n : Node) : n.members.lookup "id" = n.id.map .text := by
  obtain ⟨kind, id, outputs⟩ := n
  cases kind <;> cases outputs <;> simp [members, Kind.members, List.lookup_append, List.lookup_cons]

theorem lookup_outputs (n : Node) : n.members.lookup "outputs" =
    if n.outputs.isEmpty then none else some (.array (n.outputs.map toJson)) := by
  obtain ⟨kind, id, outputs⟩ := n
  cases kind <;> cases outputs <;>
    simp [members, Kind.members, List.lookup_append, List.lookup_cons, Forest.toJson_eq]

theorem filter_members (n : Node) :
    (Json.memberDrafts n.members).filter
        (fun m => m.1.text? ≠ some "id" ∧ m.1.text? ≠ some "outputs") =
      Json.memberDrafts n.kind.members := by
  obtain ⟨kind, id, outputs⟩ := n
  cases kind <;> cases id <;> cases outputs <;>
    simp [members, Kind.members, Json.memberOf, Json.memberDrafts, Draft.text?]

end Node

/-! ### Forests -/

theorem Binder.list_congr {α : Type} {bind bind' : Binder α} {medium : Medium} {inner : Nat}
    (same : bind ⟨medium, inner⟩ = bind' ⟨medium, inner⟩) :
    Binder.list bind ⟨medium, inner + 1⟩ = Binder.list bind' ⟨medium, inner + 1⟩ := by
  funext d
  cases d with
  | array items => exact congrArg items.mapM same
  | _ => rfl

theorem Forest.binder_eq : Forest.binder = Binder.list Node.binder := by
  funext ⟨medium, levels⟩
  change Forest.binderAt medium levels = _
  match levels with
  | 0 =>
    rw [Forest.binderAt]
    funext d
    cases d <;> rfl
  | 1 =>
    rw [Forest.binderAt]
    refine Binder.list_congr ?_
    funext d
    cases d <;> rfl
  | levels + 2 =>
    rw [Forest.binderAt]
    refine Binder.list_congr ?_
    funext d
    cases d <;> rfl

theorem Node.gathers_parts (n : Node) (outputs : ∀ m ∈ n.outputs, Node.binder.Binds m.toJson m) :
    (Node.parts Forest.binder).Gathers n.members (n.id, n.outputs) := by
  have id : (Record.optional "id" none (Binder.optional Binder.text)).Gathers n.members n.id :=
    gathers_memberOf n.lookup_id Binder.binds_text fun _ => nofun
  have outputs : (Record.optional "outputs" [] Forest.binder).Gathers n.members n.outputs := by
    rw [Forest.binder_eq]
    exact gathers_unlessEmpty n.lookup_outputs outputs
  exact (id.map Prod.mk).seq outputs

theorem Node.binds_of_outputs (n : Node) (outputs : ∀ m ∈ n.outputs, Node.binder.Binds m.toJson m) :
    Node.binder.Binds n.toJson n := by
  rintro ⟨medium, levels⟩ fits
  rw [Node.toJson_eq] at fits ⊢
  obtain ⟨inner, rfl, inside⟩ := Json.fits_object_iff.mp fits
  have kept : ∀ m ∈ n.members, Binder.keepFault inner m.2.draft = none := fun m hm =>
    Json.keepFault_draft m.2 (inside m hm)
  have met := (n.gathers_parts outputs).ofMembers (p := ⟨medium, inner⟩) n.nodup_members inside kept
  have of_kind : ∀ m ∈ n.kind.members, Json.Fits inner m.2 := fun m hm =>
    inside m (List.mem_append_left _ (List.mem_append_left _ hm))
  have named (name : String) (variant : Binder.variant KindName.variants name = .ok n.kind.named) :
      KindName.byTextOrNumber.Binds (.text name) n.kind.named := fun _ _ => variant
  have clean : ∀ m ∈ n.kind.members, Kind.noFault m.2.draft = none := fun _ _ => rfl
  obtain ⟨tagged, rest⟩ := n.kind.ofMembers_eq_ok (p := ⟨medium, inner⟩) of_kind clean named
  have kind : Kind.ofMembers KindName.byTextOrNumber ⟨medium, inner⟩ (Json.memberDrafts n.kind.members) =
      .ok n.kind := bind_eq_ok_iff.mpr ⟨n.kind.named, tagged, rest⟩
  refine bind_eq_ok_iff.mpr ⟨⟨medium, inner⟩, rfl, bind_eq_ok_iff.mpr ⟨(n.id, n.outputs), met, ?_⟩⟩
  rw [n.filter_members]
  dsimp only
  rw [kind]
  obtain ⟨kind, id, outputs⟩ := n
  rfl

mutual

theorem Node.binds_toJson (n : Node) : Node.binder.Binds n.toJson n := by
  cases n with
  | mk kind id outputs =>
    exact Node.binds_of_outputs ⟨kind, id, outputs⟩ (Forest.forall_binds outputs)
termination_by sizeOf n

theorem Forest.forall_binds (f : Forest) : ∀ n ∈ f, Node.binder.Binds n.toJson n := by
  cases f with
  | nil => nofun
  | cons n rest => exact List.forall_mem_cons.mpr ⟨Node.binds_toJson n, Forest.forall_binds rest⟩
termination_by sizeOf f

end

theorem Forest.binds_toJson (f : Forest) : Forest.binder.Binds (Forest.toJson f) f := by
  rw [Forest.binder_eq, Forest.toJson_eq]
  exact Binder.binds_list fun n _ => Node.binds_toJson n

/-! ### What is bound can be written in its place -/

theorem fits_texts (items : List String) {levels : Nat} (room : 1 ≤ levels) :
    Json.Fits levels (texts items) := by
  refine Json.fits_array_iff.mpr ⟨levels - 1, by omega, fun j hj => ?_⟩
  obtain ⟨s, -, rfl⟩ := List.mem_map.mp hj
  exact Json.fits_text s

theorem Binder.room_of_list {α : Type} {bind : Binder α} {p : Place} {d : Draft} {as : List α}
    (bound : Binder.list bind p d = .ok as) : 1 ≤ p.levels := by
  obtain ⟨inner, levels, -⟩ := Binder.list_eq_ok bound
  omega

theorem Kind.fits_of_gather {name : KindName} {p : Place} {parts : Parts} {index : Nat} {k : Kind}
    (gathered : name.record.gather p parts index = .ok k) :
    ∀ m ∈ k.members, Json.Fits p.levels m.2 := by
  cases name with
  | step =>
    obtain ⟨uri, -, rfl⟩ := gather_map_eq_ok gathered
    simp [Kind.members, Json.fits_text]
  | onException =>
    obtain ⟨_, handled, first, -, rfl⟩ := gather_seq_eq_ok gathered
    obtain ⟨exceptions, given, rfl⟩ := gather_map_eq_ok first
    obtain ⟨d, bound⟩ := gather_required_eq_ok given
    have room := Binder.room_of_list bound
    simp [Kind.members, Json.fits_text, Json.fits_bool, fits_texts exceptions room]
  | proceed =>
    cases gathered
    simp [Kind.members, Json.fits_text]
  | proxy =>
    obtain ⟨intercept, -, rfl⟩ := gather_map_eq_ok gathered
    simp [Kind.members, Json.fits_text]

theorem Kind.fits_of_ofMembers {tag : Binder KindName} {p : Place} {members : List (Draft × Draft)}
    {k : Kind} (bound : Kind.ofMembers tag p members = .ok k) :
    ∀ m ∈ k.members, Json.Fits p.levels m.2 := by
  obtain ⟨name, -, rest⟩ := bind_eq_ok_iff.mp bound
  exact Kind.fits_of_gather (ofMembers_eq_ok_iff.mp rest).2

theorem fits_memberOf_text {name : String} {o : Option String} {levels : Nat} :
    ∀ m ∈ Json.memberOf name .text o, Json.Fits levels m.2 := by
  cases o <;> simp [Json.memberOf, Json.fits_text]

theorem Node.binder_eq_ok {p : Place} {d : Draft} {n : Node} (bound : Node.binder p d = .ok n) :
    ∃ inner, p.levels = inner + 1 ∧ (∀ m ∈ n.kind.members, Json.Fits inner m.2) ∧
      (n.outputs = [] ∨ ∃ d, Forest.binder ⟨p.medium, inner⟩ d = .ok n.outputs) := by
  cases d with
  | object members =>
    obtain ⟨q, opened, bound⟩ := bind_eq_ok_iff.mp bound
    obtain ⟨inner, levels, rfl⟩ := Place.inner_eq_ok opened
    obtain ⟨⟨id, outputs⟩, met, bound⟩ := bind_eq_ok_iff.mp bound
    obtain ⟨kind, hkind, same⟩ := bind_eq_ok_iff.mp bound
    cases same
    refine ⟨inner, levels, Kind.fits_of_ofMembers hkind, ?_⟩
    obtain ⟨_, _, first, given, same⟩ := gather_seq_eq_ok (ofMembers_eq_ok_iff.mp met).2
    obtain ⟨_, -, rfl⟩ := gather_map_eq_ok first
    cases same
    exact gather_optional_eq_ok given
  | _ => cases Binder.refuse_ne_ok bound

theorem Node.fits_members {n : Node} {levels : Nat} (kind : ∀ m ∈ n.kind.members, Json.Fits levels m.2)
    (outputs : n.outputs ≠ [] → Json.Fits levels (Forest.toJson n.outputs)) :
    ∀ m ∈ n.members, Json.Fits levels m.2 := by
  intro m hm
  rcases List.mem_append.mp hm with front | last
  · rcases List.mem_append.mp front with ofKind | ofId
    · exact kind m ofKind
    · exact fits_memberOf_text m ofId
  · split at last
    · cases last
    next some =>
      rw [List.mem_singleton.mp last]
      exact outputs fun none => some (List.isEmpty_iff.mpr none)

theorem Node.refits : Node.binder.Refits Node.toJson 0 := by
  rintro ⟨medium, levels⟩ d n - bound
  -- A node's outputs are nodes that were bound with two levels less.
  induction levels using Nat.strongRecOn generalizing d n with
  | ind levels ih =>
    obtain ⟨inner, outer, kind, outputs⟩ := Node.binder_eq_ok bound
    rw [Node.toJson_eq]
    refine Json.fits_object_iff.mpr ⟨inner, outer, Node.fits_members kind fun some => ?_⟩
    rcases outputs with none | ⟨d, hd⟩
    · exact absurd none some
    · rw [Forest.binder_eq] at hd
      obtain ⟨innermost, next, each⟩ := Binder.list_eq_ok hd
      dsimp only at outer next
      rw [Forest.toJson_eq]
      refine Json.fits_array_iff.mpr ⟨innermost, next, fun j hj => ?_⟩
      obtain ⟨m, hm, rfl⟩ := List.mem_map.mp hj
      obtain ⟨d, bound⟩ := each m hm
      exact ih innermost (by omega) d m bound

theorem Forest.refits : Forest.binder.Refits Forest.toJson 0 := by
  rw [Forest.binder_eq, funext Forest.toJson_eq]
  exact Node.refits.list (Nat.zero_le _)

end RouteLoom
