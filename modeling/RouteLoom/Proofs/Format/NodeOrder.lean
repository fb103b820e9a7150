import RouteLoom.Proofs.Format.Node
import RouteLoom.Proofs.Format.Steady

/-!
# The order of a node's members

A node is bound in two stages. The id and the outputs are bound as they are met, and the second stage
is given what the first has left: the kind, its fields and all that is of no use, told apart by their
names only. So neither stage minds where its members stand among those of the other.
-/

namespace RouteLoom

open Binder Record

variable {p : Place}

/-! ### Kinds -/

namespace KindName

theorem byTextOrNumber_congr (p q : Place) (d : Draft) :
    byTextOrNumber p d = byTextOrNumber q d := by
  cases d with
  | text s => cases s <;> rfl
  | _ => rfl

theorem isWord_of_byTextOrNumber {d : Draft} {k : KindName} (bound : byTextOrNumber p d = .ok k) :
    d.isWord = true := by
  rw [byTextOrNumber.eq_def] at bound
  split at bound
  · rfl
  · rfl
  · cases refuse_ne_ok bound

theorem steady_record (k : KindName) :
    k.record.Steady (k.record.names.map fun name => (name, .plain)) p := by
  cases k with
  | step => exact (steady_required steady_text "uri").map Kind.step
  | onException =>
    exact ((steady_required steady_texts "exceptions").map Kind.onException).seq
      (steady_optional steady_boolean "handled" false)
  | proceed => exact steady_constant Kind.proceed
  | proxy => exact (steady_required steady_text "intercept").map Kind.proxy

theorem outputs_not_mem_names (k : KindName) : "outputs" ∉ k.record.names := by
  cases k <;> decide

end KindName

/-! ### Nodes -/

namespace Node

theorem mem_names_of_field {ms : List (Draft × Draft)} {d : Draft} {k : KindName} {name : String}
    (found : (Record.find? "kind" ms).map Prod.snd = some d)
    (known : KindName.byTextOrNumber p d = .ok k) (field : name ∈ k.record.names) :
    name ∈ names ms := by
  obtain ⟨⟨place, d⟩, hd, rfl⟩ := Option.map_eq_some_iff.mp found
  have kind : kindName? ms = some k := by
    rw [kindName?, hd, Option.bind_some]
    dsimp only
    rw [KindName.byTextOrNumber_congr _ p, known]
    rfl
  rw [names, kind]
  exact List.mem_append_right _ field

variable {ms ms' : List (Draft × Draft)} {kept : List Stay} {added : List (String × Json)}

theorem steady_parts (outputs : Forest.binder.Steady (.list .node) p) :
    (parts Forest.binder).Steady [("id", .plain), ("outputs", .list .node)] p :=
  ((steady_optional steady_text.optional "id" none).map Prod.mk).seq
    (steady_optional outputs "outputs" [])

/-- What the first stage has left gives the same kind in any order. Nothing is added that is a field of
the kind which all members of the node together name. -/
theorem steady_kind {all : List (Draft × Draft)} {k : Kind}
    (reordered :
      Reordered (Shape.member .node) (Shape.Ignores .node all) p.levels kept added ms ms')
    (tag : (Record.find? "kind" ms).map Prod.snd = (Record.find? "kind" all).map Prod.snd)
    (bound : Kind.ofMembers KindName.byTextOrNumber p ms = .ok k) :
    Kind.ofMembers KindName.byTextOrNumber p ms' = .ok k := by
  obtain ⟨name, named, fields⟩ := bind_eq_ok_iff.mp bound
  have known : KindName.byTextOrNumber.Steady .plain p :=
    steady_of_isWord fun _ _ => KindName.isWord_of_byTextOrNumber
  have named' := (steady_required known "kind").ofMembers reordered (calm_noFault p.levels)
    (by simp [Shape.member, Draft.text?]) (by simp [Shape.Ignores, names]) named
  refine bind_eq_ok_iff.mpr ⟨name, named', ?_⟩
  have others := reordered.filter fun k => k.text? ≠ some "kind"
  refine name.steady_record.ofMembers others (calm_noFault p.levels) ?_ ?_ fields
  · rw [List.forall_mem_map]
    intro field hfield
    have inside : field ≠ "outputs" := fun same => name.outputs_not_mem_names (same ▸ hfield)
    exact if_neg inside
  · rw [List.forall_mem_map]
    intro field hfield ignored
    obtain ⟨d, found, bound⟩ := exists_member_of_required named
    exact ignored (mem_names_of_field (tag ▸ found) bound hfield)

theorem steady_binder (p : Place) : Node.binder.Steady .node p := by
  obtain ⟨medium, levels⟩ := p
  -- The outputs of a node are nodes with two levels less.
  induction levels using Nat.strongRecOn with
  | ind levels ih =>
    intro d d' n rearranged bound
    cases rearranged with
    | same => exact bound
    | array => cases refuse_ne_ok bound
    | @object _ _ ms ms' kept added distinct before each ignored after =>
      obtain ⟨q, opened, bound⟩ := bind_eq_ok_iff.mp bound
      obtain ⟨inner, outer, rfl⟩ := Place.inner_eq_ok opened
      obtain ⟨⟨id, outputs⟩, met, bound⟩ := bind_eq_ok_iff.mp bound
      obtain ⟨kind, left, same⟩ := bind_eq_ok_iff.mp bound
      cases same
      dsimp only at outer
      subst outer
      have reordered : Reordered (Shape.member .node) (Shape.Ignores .node ms) inner kept added
          ms ms' := ⟨before, each, ignored, after⟩
      have nodes : Forest.binder.Steady (.list .node) ⟨medium, inner⟩ := by
        rw [Forest.binder_eq]
        exact Binder.Steady.list fun innermost next _ => ih innermost (by dsimp only at next; omega)
      have met' := (steady_parts nodes).ofMembers reordered (calm_keepFault inner)
        (by simp [Shape.member, Draft.text?]) (by simp [Shape.Ignores, names]) met
      have rest := reordered.filter fun k => k.text? ≠ some "id" ∧ k.text? ≠ some "outputs"
      have tag : (Record.find? "kind" (ms.filter fun m =>
          m.1.text? ≠ some "id" ∧ m.1.text? ≠ some "outputs")).map Prod.snd =
          (Record.find? "kind" ms).map Prod.snd :=
        Record.find?_filter (fun k => k.text? ≠ some "id" ∧ k.text? ≠ some "outputs") rfl
      have left' := steady_kind (p := ⟨medium, inner⟩) rest tag left
      refine bind_eq_ok_iff.mpr ⟨⟨medium, inner⟩, rfl, bind_eq_ok_iff.mpr ⟨(id, outputs), met', ?_⟩⟩
      exact bind_eq_ok_iff.mpr ⟨kind, left', rfl⟩

end Node

theorem Forest.steady_binder (p : Place) : Forest.binder.Steady (.list .node) p := by
  rw [Forest.binder_eq]
  exact steady_list Node.steady_binder

end RouteLoom
