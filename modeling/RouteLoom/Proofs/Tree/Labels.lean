import RouteLoom.Proofs.Tree.Address

/-!
# The labels of a forest

A node's label is its kind and its id, so the labels of a forest tell its nodes at every depth with
their multiplicity, but not how they hang together. Adding outputs to a node somewhere in a forest
adds their labels and takes none away.
-/

namespace RouteLoom

open scoped List

abbrev Label := Kind × Option String

def Node.label (n : Node) : Label := (n.kind, n.id)

namespace Forest

/-- The labels of the nodes at every depth. -/
def labels (f : Forest) : List Label := (preorder f).map Node.label

@[simp] theorem labels_nil : labels [] = [] := by
  rw [labels, preorder, List.map_nil]

@[simp] theorem labels_cons (n : Node) (f : Forest) :
    labels (n :: f) = n.label :: (labels n.outputs ++ labels f) := by
  cases n with
  | mk kind id outputs =>
    rw [labels, preorder, Node.preorder, List.cons_append, List.map_cons, List.map_append]
    rfl

@[simp] theorem labels_append (f g : Forest) : labels (f ++ g) = labels f ++ labels g := by
  induction f with
  | nil => rw [List.nil_append, labels_nil, List.nil_append]
  | cons n rest ih =>
    rw [List.cons_append, labels_cons, ih, labels_cons, List.cons_append, List.append_assoc]

theorem labels_eq_append (n : Node) (f : Forest) : labels (n :: f) = labels [n] ++ labels f :=
  labels_append [n] f

theorem labels_eq_flatMap (f : Forest) : labels f = f.flatMap fun n => labels [n] := by
  induction f with
  | nil => exact labels_nil
  | cons n rest ih => rw [labels_eq_append, ih, List.flatMap_cons]

theorem labels_perm {f g : Forest} (same : f ~ g) : labels f ~ labels g := by
  rw [labels_eq_flatMap f, labels_eq_flatMap g]
  exact same.flatMap_right _

theorem labels_eq_nil_iff {f : Forest} : labels f = [] ↔ f = [] := by
  cases f with
  | nil => simp
  | cons n rest => simp

theorem labels_set_split {f : Forest} {i : Nat} {n n' : Node} {front more back : List Label}
    (hn : f[i]? = some n) (old : labels [n] = front ++ back)
    (new : labels [n'] = front ++ more ++ back) :
    ∃ front back, labels f = front ++ back ∧ labels (f.set i n') = front ++ more ++ back := by
  obtain ⟨hi, rfl⟩ := List.getElem?_eq_some_iff.mp hn
  refine ⟨labels (f.take i) ++ front, back ++ labels (f.drop (i + 1)), ?_, ?_⟩
  · have parts : f = f.take i ++ f[i] :: f.drop (i + 1) := by
      rw [← List.drop_eq_getElem_cons hi, List.take_append_drop]
    calc labels f
      _ = labels (f.take i ++ f[i] :: f.drop (i + 1)) := congrArg labels parts
      _ = labels (f.take i) ++ front ++ (back ++ labels (f.drop (i + 1))) := by
        rw [labels_append, labels_eq_append, old]
        simp only [List.append_assoc]
  · rw [List.set_eq_take_append_cons_drop, if_pos hi, labels_append, labels_eq_append, new]
    simp only [List.append_assoc]

/-- Outputs that are added at an address put their labels in one place, in their order. -/
theorem labels_appendAt_split {a : Address} {more f f' : Forest} (hf : appendAt a more f = some f') :
    ∃ front back, labels f = front ++ back ∧ labels f' = front ++ labels more ++ back := by
  induction a generalizing f f' with
  | nil => cases hf
  | cons i rest ih =>
    obtain ⟨n, n', hn, hn', rfl⟩ := Forest.update_cons_eq_some_iff.mp hf
    cases rest with
    | nil =>
      cases hn'
      have old : labels [n] = labels [n] ++ [] := (List.append_nil _).symm
      exact labels_set_split hn old (by simp [Node.addOutputs, Node.label])
    | cons j below =>
      rw [Node.update_cons] at hn'
      obtain ⟨outputs, houtputs, rfl⟩ := Option.map_eq_some_iff.mp hn'
      obtain ⟨front, back, old, new⟩ := ih houtputs
      have whole : labels [n] = (n.label :: front) ++ back := by simp [old]
      exact labels_set_split hn whole (by simp [new, Node.label])

theorem labels_appendAt_perm {a : Address} {more f f' : Forest} (hf : appendAt a more f = some f') :
    labels f' ~ labels f ++ labels more := by
  obtain ⟨front, back, old, new⟩ := labels_appendAt_split hf
  rw [old, new, List.append_assoc, List.append_assoc]
  exact List.perm_append_comm.append_left front

end Forest

end RouteLoom
