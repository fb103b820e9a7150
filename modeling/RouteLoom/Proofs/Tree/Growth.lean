import RouteLoom.Proofs.Tree.FirstMarker
import RouteLoom.Proofs.Tree.Labels

/-!
# Growing trees

Outputs are only ever added behind those that a node already has. So addresses stay good: what stands
at an address keeps its kind, its id and its outputs in their order, whatever is added anywhere.
Only what is added at the address itself or below is seen from there.
-/

namespace RouteLoom

variable {g : Node → Node} {a b : Address} {n n' m : Node} {f f' more : Forest}

/-! ### What is seen of a change -/

theorem Node.at?_update_append (hn : Node.update g (a ++ b) n = some n') :
    Node.at? a n' = (Node.at? a n).bind (Node.update g b) := by
  induction a generalizing n n' with
  | nil => exact hn.symm
  | cons i rest ih =>
    obtain ⟨t, t', ht, ht', rfl⟩ := Node.update_cons_eq_some_iff.mp hn
    have hi : i < n.outputs.length := (List.getElem?_eq_some_iff.mp ht).1
    rw [Node.at?, Node.at?, ht, List.getElem?_set_self hi]
    exact ih ht'

theorem Node.update_append (hn : Node.update g (a ++ b) n = some n') :
    Node.update (fun m => (Node.update g b m).getD m) a n = some n' := by
  induction a generalizing n n' with
  | nil =>
    rw [List.nil_append] at hn
    rw [Node.update, hn, Option.getD_some]
  | cons i rest ih =>
    obtain ⟨t, t', ht, ht', rfl⟩ := Node.update_cons_eq_some_iff.mp hn
    rw [Node.update, ht, Option.bind_some, ih ht', Option.map_some]

/-- Outputs that are added neither at an address nor below are not seen from there. -/
theorem Node.at?_addOutputs_of_not_prefix (apart : ¬ a <+: b)
    (hn : Node.update (·.addOutputs more) b n = some n') (hm : Node.at? a n = some m) :
    Node.at? a n' = some m := by
  induction a generalizing b n n' with
  | nil => exact absurd List.nil_prefix apart
  | cons i rest ih =>
    obtain ⟨t, ht, below⟩ := Option.bind_eq_some_iff.mp hm
    have hi : i < n.outputs.length := (List.getElem?_eq_some_iff.mp ht).1
    cases b with
    | nil =>
      rw [← Option.some.inj hn]
      change (n.outputs ++ more)[i]?.bind (Node.at? rest) = some m
      rw [List.getElem?_append_left hi, ht]
      exact below
    | cons j deeper =>
      obtain ⟨u, u', hu, hu', rfl⟩ := Node.update_cons_eq_some_iff.mp hn
      rw [Node.at?]
      dsimp only
      by_cases same : i = j
      · subst same
        have split : ¬ rest <+: deeper := fun h => apart (List.cons_prefix_cons.mpr ⟨rfl, h⟩)
        rw [ht, Option.some.injEq] at hu
        subst hu
        rw [List.getElem?_set_self hi, Option.bind_some]
        exact ih split hu' below
      · rw [List.getElem?_set_ne (Ne.symm same), ht]
        exact below

/-! ### Labels -/

/-- A node's label and those of its outputs stay, and further outputs come behind. -/
def Node.Grown (n m : Node) : Prop :=
  m.label = n.label ∧ n.outputs.map Node.label <+: m.outputs.map Node.label

theorem Node.Grown.refl (n : Node) : n.Grown n := ⟨rfl, List.prefix_rfl⟩

theorem Node.Grown.trans (first : n.Grown m) (second : m.Grown n') : n.Grown n' :=
  ⟨second.1.trans first.1, first.2.trans second.2⟩

theorem Node.label_update (keeps : ∀ m, (g m).label = m.label) (hn : Node.update g a n = some n') :
    n'.label = n.label := by
  cases a with
  | nil =>
    rw [← Option.some.inj hn]
    exact keeps n
  | cons i rest =>
    obtain ⟨t, t', -, -, rfl⟩ := Node.update_cons_eq_some_iff.mp hn
    rfl

theorem Node.grown_addOutputs (hn : Node.update (·.addOutputs more) a n = some n') : n.Grown n' := by
  have keeps (m : Node) : (m.addOutputs more).label = m.label := rfl
  refine ⟨Node.label_update keeps hn, ?_⟩
  cases a with
  | nil =>
    have grown : n'.outputs.map Node.label = n.outputs.map Node.label ++ more.map Node.label := by
      rw [← Option.some.inj hn, ← List.map_append]
      rfl
    rw [grown]
    exact List.prefix_append _ _
  | cons i rest =>
    obtain ⟨t, t', ht, ht', rfl⟩ := Node.update_cons_eq_some_iff.mp hn
    have same : t'.label = t.label := Node.label_update keeps ht'
    obtain ⟨hi, hget⟩ := List.getElem?_eq_some_iff.mp ht
    have bound : i < (n.outputs.map Node.label).length := by rwa [List.length_map]
    have there : (n.outputs.map Node.label)[i] = t.label := by rw [List.getElem_map, hget]
    have kept : (n.outputs.set i t').map Node.label = n.outputs.map Node.label := by
      rw [List.map_set, same, ← there, List.set_getElem_self]
    exact kept.symm ▸ List.prefix_rfl

/-! ### Forests -/

namespace Forest

/-- Whatever an address leads to in the first forest, it leads to the same node in the second, where
that may have grown. -/
def Grown (f g : Forest) : Prop := ∀ a n, at? a f = some n → ∃ m, at? a g = some m ∧ n.Grown m

theorem Grown.refl (f : Forest) : Grown f f := fun _ n hn => ⟨n, hn, .refl n⟩

theorem Grown.trans {g h : Forest} (first : Grown f g) (second : Grown g h) : Grown f h := by
  intro a n hn
  obtain ⟨m, hm, grown⟩ := first a n hn
  obtain ⟨k, hk, more⟩ := second a m hm
  exact ⟨k, hk, grown.trans more⟩

theorem update_eq_some_iff (ha : a ≠ []) : update g a f = some f' ↔
    Node.update g a ⟨.proceed, none, f⟩ = some ⟨.proceed, none, f'⟩ := by
  rw [Node.update_of_ne_nil ha, Option.map_eq_some_iff]
  constructor
  · intro h
    exact ⟨f', h, rfl⟩
  · rintro ⟨_, h, ⟨⟩⟩
    exact h

theorem ne_nil_of_update (hf : update g a f = some f') : a ≠ [] := by
  rintro rfl
  cases hf

theorem at?_update_append (ha : a ≠ []) (hf : update g (a ++ b) f = some f') :
    at? a f' = (at? a f).bind (Node.update g b) := by
  have whole := Node.at?_update_append ((update_eq_some_iff (ne_nil_of_update hf)).mp hf)
  rwa [Node.at?_of_ne_nil ha, Node.at?_of_ne_nil ha] at whole

theorem at?_appendAt_of_not_prefix (apart : ¬ a <+: b) (hf : appendAt b more f = some f')
    (hm : at? a f = some m) : at? a f' = some m := by
  have ha : a ≠ [] := by
    rintro rfl
    cases hm
  rw [← Node.at?_of_ne_nil ha ⟨.proceed, none, f⟩] at hm
  have whole := Node.at?_addOutputs_of_not_prefix apart
    ((update_eq_some_iff (ne_nil_of_update hf)).mp hf) hm
  rwa [Node.at?_of_ne_nil ha] at whole

theorem grown_appendAt (hf : appendAt b more f = some f') : Grown f f' := by
  intro a n hn
  by_cases above : a <+: b
  · obtain ⟨c, rfl⟩ := above
    have ha : a ≠ [] := by
      rintro rfl
      cases hn
    have reached : (at? (a ++ c) f).isSome = true := by
      rw [← isSome_update, ← appendAt, hf]
      rfl
    rw [at?_append ha, hn, Option.bind_some, ← Node.isSome_update (·.addOutputs more)] at reached
    obtain ⟨m, hm⟩ := Option.isSome_iff_exists.mp reached
    have seen : at? a f' = some m := by rw [at?_update_append ha hf, hn, Option.bind_some, hm]
    exact ⟨m, seen, Node.grown_addOutputs hm⟩
  · exact ⟨n, at?_appendAt_of_not_prefix above hf hn, .refl n⟩

end Forest

/-! ### The first marker

Outputs that are added on the way to the first marker come behind that way, and those added below it
come behind the marker. -/

theorem Forest.firstMarker_append_of_some (found : Forest.firstMarker f = some a) (more : Forest) :
    Forest.firstMarker (f ++ more) = some a := by
  induction f generalizing a with
  | nil => simp at found
  | cons n rest ih =>
    rw [List.cons_append]
    cases hn : n.firstMarker with
    | some b =>
      rw [Forest.firstMarker_cons_of_some hn] at found ⊢
      exact found
    | none =>
      rw [Forest.firstMarker_cons_of_none hn] at found ⊢
      obtain ⟨b, hb, rfl⟩ := Option.map_eq_some_iff.mp found
      rw [ih hb, Option.map_some]

theorem Node.firstMarker_addOutputs (found : n.firstMarker = some a) (more : Forest) :
    (n.addOutputs more).firstMarker = some a := by
  cases hn : n.isMarker with
  | true =>
    rw [Node.firstMarker_of_isMarker hn] at found
    rw [← found]
    exact Node.firstMarker_of_isMarker hn
  | false =>
    rw [Node.firstMarker_of_not_isMarker hn] at found
    rw [Node.firstMarker_of_not_isMarker (by exact hn)]
    exact Forest.firstMarker_append_of_some found more

theorem Node.firstMarker_update_addOutputs (found : n.firstMarker = some a)
    (related : b <+: a ∨ a <+: b) (hn : Node.update (·.addOutputs more) b n = some n') :
    n'.firstMarker = some a := by
  rcases related with ⟨c, rfl⟩ | ⟨c, rfl⟩
  · exact Node.firstMarker_update_append (fun m hm => Node.firstMarker_addOutputs hm more) n found hn
  · have keeps (m : Node) (hm : m.firstMarker = some []) :
        ((Node.update (·.addOutputs more) c m).getD m).firstMarker = some [] := by
      rw [Node.firstMarker_eq_nil_iff, Node.isMarker_iff] at hm ⊢
      cases changed : Node.update (·.addOutputs more) c m with
      | none => exact hm
      | some m' => exact (congrArg Prod.fst (Node.grown_addOutputs changed).1).trans hm
    rw [← List.append_nil a] at found ⊢
    exact Node.firstMarker_update_append keeps n found (Node.update_append hn)

end RouteLoom
