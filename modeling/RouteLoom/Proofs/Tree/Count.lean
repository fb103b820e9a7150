import RouteLoom.Proofs.Tree.Labels
import RouteLoom.Proofs.Tree.Located

/-!
# Counting nodes by their labels

How many nodes of a forest, at every depth, satisfy a property that can be told from a node's label.
Such a count depends on the labels alone and not on how the nodes hang together, so whatever moves
nodes without losing any keeps it.
-/

namespace RouteLoom

open scoped List

variable {p : Node → Bool} {a : Address} {n m : Node} {f g : Forest}

/-! ### Counts -/

/-- Whether `p` holds of a node can be told from the node's label. -/
def Node.ByLabel (p : Node → Bool) : Prop := ∀ n m : Node, n.label = m.label → p n = p m

theorem Node.byLabel_isClause : ByLabel isClause := fun n m same => by
  have kind : n.kind = m.kind := congrArg Prod.fst same
  rw [isClause, isClause, kind]

namespace Forest

@[simp] theorem count_nil (p : Node → Bool) : count p [] = 0 := by
  rw [count, preorder, List.countP_nil]

theorem count_cons (p : Node → Bool) (n : Node) (f : Forest) :
    count p (n :: f) = (if p n = true then 1 else 0) + count p n.outputs + count p f := by
  rw [count, preorder, List.countP_append, Node.preorder_eq, List.countP_cons, count, count]
  omega

@[simp] theorem count_append (p : Node → Bool) (f g : Forest) :
    count p (f ++ g) = count p f + count p g := by
  rw [count, preorder_eq_flatMap, List.flatMap_append, List.countP_append, ← preorder_eq_flatMap,
    ← preorder_eq_flatMap, count, count]

theorem count_eq_zero_iff : count p f = 0 ↔ any p f = false := by
  rw [count, any, List.countP_eq_zero, List.any_eq_false]

theorem count_of_labels_perm (hp : Node.ByLabel p) (same : labels f ~ labels g) :
    count p f = count p g := by
  have by_label (f : Forest) : count p f = (labels f).countP fun l => p ⟨l.1, l.2, []⟩ := by
    rw [count, labels, List.countP_map]
    exact List.countP_congr fun n _ => by rw [Function.comp_apply, hp n ⟨n.kind, n.id, []⟩ rfl]; rfl
  rw [by_label, by_label]
  exact same.countP_eq _

theorem eq_false_of_at? (none : count p f = 0) (hm : at? a f = some m) : p m = false := by
  have all := List.any_eq_false.mp (count_eq_zero_iff.mp none) m (mem_preorder_iff.mpr ⟨a, hm⟩)
  exact Bool.eq_false_iff.mpr all

end Forest

end RouteLoom
