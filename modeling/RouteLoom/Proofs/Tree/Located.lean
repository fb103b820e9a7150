import RouteLoom.Proofs.Tree.Address
import Mathlib.Data.List.Nodup

/-!
# The nodes of a forest with their addresses

`located` lists the nodes of a forest in pre-order, each with its address. Its addresses ascend
lexicographically, so no address is listed twice, and it lists exactly what addresses lead to.
-/

namespace RouteLoom

variable {a b : Address} {n m : Node} {f : Forest}

mutual

def Node.located : Node → List (Address × Node)
  | ⟨kind, id, outputs⟩ => ([], ⟨kind, id, outputs⟩) :: Forest.located outputs

/-- The nodes at every depth, each with its address and before its own outputs. -/
def Forest.located : Forest → List (Address × Node)
  | [] => []
  | n :: rest =>
    n.located.map (Prod.map (0 :: ·) id) ++ (Forest.located rest).map (Prod.map Address.shift id)

end

theorem Node.located_eq (n : Node) : n.located = ([], n) :: Forest.located n.outputs := by
  cases n
  rw [Node.located]

mutual

theorem Node.map_snd_located (n : Node) : n.located.map Prod.snd = n.preorder := by
  cases n with
  | mk kind id outputs =>
    rw [Node.located, Node.preorder, List.map_cons, Forest.map_snd_located outputs]
termination_by sizeOf n

theorem Forest.map_snd_located (f : Forest) : (Forest.located f).map Prod.snd = Forest.preorder f := by
  cases f with
  | nil => simp [Forest.located, Forest.preorder]
  | cons n rest =>
    have kept (g : Address → Address) : Prod.snd ∘ Prod.map g (id : Node → Node) = Prod.snd := rfl
    rw [Forest.located, Forest.preorder, List.map_append, List.map_map, List.map_map, kept, kept,
      Node.map_snd_located n, Forest.map_snd_located rest]
termination_by sizeOf f

end

theorem Forest.mem_located_cons :
    (a, m) ∈ Forest.located (n :: f) ↔
      (∃ b, (b, m) ∈ n.located ∧ 0 :: b = a) ∨ ∃ b, (b, m) ∈ Forest.located f ∧ b.shift = a := by
  simp [Forest.located]

mutual

theorem Node.mem_located_iff (n : Node) (a : Address) (m : Node) :
    (a, m) ∈ n.located ↔ Node.at? a n = some m := by
  cases n with
  | mk kind id outputs =>
    rw [Node.located, List.mem_cons, Forest.mem_located_iff outputs a m]
    cases a with
    | nil => simp [Forest.at?, eq_comm]
    | cons i rest => simp [Node.at?, Forest.at?]
termination_by sizeOf n

theorem Forest.mem_located_iff (f : Forest) (a : Address) (m : Node) :
    (a, m) ∈ Forest.located f ↔ Forest.at? a f = some m := by
  cases f with
  | nil => cases a <;> simp [Forest.located, Forest.at?]
  | cons n rest =>
    rw [Forest.mem_located_cons]
    have first (b : Address) := Node.mem_located_iff n b m
    have later (b : Address) := Forest.mem_located_iff rest b m
    constructor
    · rintro (⟨b, listed, rfl⟩ | ⟨b, listed, rfl⟩)
      · rw [Forest.at?_zero_cons, ← first]
        exact listed
      · rw [Forest.at?_shift, ← later]
        exact listed
    · intro found
      match a with
      | [] => cases found
      | 0 :: b => exact .inl ⟨b, (first b).mpr found, rfl⟩
      | (i + 1) :: b => exact .inr ⟨i :: b, (later (i :: b)).mpr found, rfl⟩
termination_by sizeOf f

end

theorem Forest.mem_preorder_iff : m ∈ preorder f ↔ ∃ a, at? a f = some m := by
  rw [← map_snd_located, List.mem_map]
  constructor
  · rintro ⟨⟨a, n⟩, listed, rfl⟩
    exact ⟨a, (mem_located_iff f a n).mp listed⟩
  · rintro ⟨a, found⟩
    exact ⟨(a, m), (mem_located_iff f a m).mpr found, rfl⟩

theorem Forest.ne_nil_of_mem_located (listed : (a, m) ∈ Forest.located f) : a ≠ [] := by
  rintro rfl
  have found : Forest.at? [] f = some m := (Forest.mem_located_iff f [] m).mp listed
  cases found

/-! ### The order of the addresses -/

/-- The order of addresses: index by index, and a node before all that is below it. -/
abbrev Address.Before (a b : Address) : Prop := List.Lex (· < ·) a b

theorem Address.Before.shift (before : a.Before b) : a.shift.Before b.shift := by
  cases before with
  | nil => exact .nil
  | rel less => exact .rel (Nat.succ_lt_succ less)
  | cons below => exact .cons below

theorem Address.zero_before_shift (a : Address) (hb : b ≠ []) : Address.Before (0 :: a) b.shift := by
  cases b with
  | nil => exact absurd rfl hb
  | cons i rest => exact .rel (Nat.succ_pos i)

mutual

theorem Node.pairwise_located (n : Node) : n.located.Pairwise fun e e' => e.1.Before e'.1 := by
  cases n with
  | mk kind id outputs =>
    rw [Node.located, List.pairwise_cons]
    refine ⟨fun e he => ?_, Forest.pairwise_located outputs⟩
    obtain ⟨a, m⟩ := e
    cases a with
    | nil => exact absurd rfl (Forest.ne_nil_of_mem_located he)
    | cons i rest => exact .nil
termination_by sizeOf n

theorem Forest.pairwise_located (f : Forest) :
    (Forest.located f).Pairwise fun e e' => e.1.Before e'.1 := by
  cases f with
  | nil => simp [Forest.located]
  | cons n rest =>
    rw [Forest.located, List.pairwise_append, List.pairwise_map, List.pairwise_map]
    refine ⟨(Node.pairwise_located n).imp .cons, (Forest.pairwise_located rest).imp (.shift), ?_⟩
    intro e he e' he'
    obtain ⟨⟨a, m⟩, -, rfl⟩ := List.mem_map.mp he
    obtain ⟨⟨b, m'⟩, listed, rfl⟩ := List.mem_map.mp he'
    exact Address.zero_before_shift a (Forest.ne_nil_of_mem_located listed)
termination_by sizeOf f

end

/-! ### Each node once -/

/-- Whatever an address leads to is listed under that address, and no address is listed twice. -/
def Enumerates (l : List (Address × Node)) (find : Address → Option Node) : Prop :=
  (l.map Prod.fst).Nodup ∧ ∀ a m, (a, m) ∈ l ↔ find a = some m

theorem nodup_of_pairwise_before {l : List (Address × Node)}
    (ascending : l.Pairwise fun e e' => e.1.Before e'.1) : (l.map Prod.fst).Nodup := by
  rw [List.Nodup, List.pairwise_map]
  refine ascending.imp fun {e e'} before same => ?_
  rw [same] at before
  exact List.lex_irrefl Nat.lt_irrefl _ before

theorem Node.enumerates_located (n : Node) : Enumerates n.located (Node.at? · n) :=
  ⟨nodup_of_pairwise_before (Node.pairwise_located n), Node.mem_located_iff n⟩

theorem Forest.enumerates_located (f : Forest) : Enumerates (Forest.located f) (Forest.at? · f) :=
  ⟨nodup_of_pairwise_before (Forest.pairwise_located f), Forest.mem_located_iff f⟩

end RouteLoom
