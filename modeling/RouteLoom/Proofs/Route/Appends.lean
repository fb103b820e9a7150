import RouteLoom.Proofs.FirstFault
import RouteLoom.Proofs.Weaving.Construction

/-!
# Appends at different nodes

Two appends at different nodes of a route can be made in either order, also where one node is above
the other: an output comes behind those that the node has, so it never stands on the way to a node
that was there before.
-/

namespace RouteLoom

variable {g : Node → Node} {a b : Address} {n n' n₁ n₂ m new : Node} {f f' f₁ f₂ more other : Forest}

/-! ### In either order -/

theorem Node.update_addOutputs (hb : b ≠ []) (hn : Node.update g b n = some n') (more : Forest) :
    Node.update g b (n.addOutputs more) = some (n'.addOutputs more) := by
  cases b with
  | nil => exact absurd rfl hb
  | cons i rest =>
    obtain ⟨t, t', ht, ht', rfl⟩ := Node.update_cons_eq_some_iff.mp hn
    have hi : i < n.outputs.length := (List.getElem?_eq_some_iff.mp ht).1
    have there : (n.outputs ++ more)[i]? = some t := by rw [List.getElem?_append_left hi, ht]
    have kept : (n.outputs ++ more).set i t' = n.outputs.set i t' ++ more :=
      List.set_append_left i t' hi
    refine Node.update_cons_eq_some_iff.mpr ⟨t, t', there, ht', ?_⟩
    rw [Node.addOutputs, Node.addOutputs, kept]

/-- Where the addresses part, the changes are made in different outputs. Up to there, they are made
in the same one. -/
theorem Node.addOutputs_comm (apart : a ≠ b) (ha : Node.update (·.addOutputs more) a n = some n₁)
    (hb : Node.update (·.addOutputs other) b n = some n₂) :
    ∃ n', Node.update (·.addOutputs other) b n₁ = some n' ∧
      Node.update (·.addOutputs more) a n₂ = some n' := by
  induction a generalizing b n n₁ n₂ with
  | nil =>
    -- The outputs are added to `n` itself, and `b` leads below it.
    cases ha
    exact ⟨n₂.addOutputs more, Node.update_addOutputs apart.symm hb more, rfl⟩
  | cons i rest ih =>
    cases b with
    | nil =>
      cases hb
      exact ⟨n₁.addOutputs other, rfl, Node.update_addOutputs apart ha other⟩
    | cons j deeper =>
      obtain ⟨t, t', ht, ht', rfl⟩ := Node.update_cons_eq_some_iff.mp ha
      obtain ⟨u, u', hu, hu', rfl⟩ := Node.update_cons_eq_some_iff.mp hb
      have hi : i < n.outputs.length := (List.getElem?_eq_some_iff.mp ht).1
      by_cases same : i = j
      · subst same
        have split : rest ≠ deeper := fun h => apart (congrArg (i :: ·) h)
        rw [ht, Option.some.injEq] at hu
        subst hu
        obtain ⟨v, first, second⟩ := ih split ht' hu'
        refine ⟨{ n with outputs := n.outputs.set i v }, ?_, ?_⟩
        · exact Node.update_cons_eq_some_iff.mpr
            ⟨t', v, List.getElem?_set_self hi, first, by rw [List.set_set]⟩
        · exact Node.update_cons_eq_some_iff.mpr
            ⟨u', v, List.getElem?_set_self hi, second, by rw [List.set_set]⟩
      · have kept_j : (n.outputs.set i t')[j]? = some u := by rw [List.getElem?_set_ne same, hu]
        have kept_i : (n.outputs.set j u')[i]? = some t := by
          rw [List.getElem?_set_ne (Ne.symm same), ht]
        refine ⟨{ n with outputs := (n.outputs.set i t').set j u' }, ?_, ?_⟩
        · exact Node.update_cons_eq_some_iff.mpr ⟨u, u', kept_j, hu', rfl⟩
        · exact Node.update_cons_eq_some_iff.mpr
            ⟨t, t', kept_i, ht', by rw [List.set_comm _ _ same]⟩

theorem Node.exists_outputs_of_update (ha : a ≠ []) (hn : Node.update g a n = some n') :
    ∃ f', n' = { n with outputs := f' } := by
  rw [Node.update_of_ne_nil ha] at hn
  obtain ⟨f', -, rfl⟩ := Option.map_eq_some_iff.mp hn
  exact ⟨f', rfl⟩

theorem Forest.appendAt_comm (apart : a ≠ b) (ha : Forest.appendAt a more f = some f₁)
    (hb : Forest.appendAt b other f = some f₂) :
    ∃ f', Forest.appendAt b other f₁ = some f' ∧ Forest.appendAt a more f₂ = some f' := by
  have below_a : a ≠ [] := Forest.ne_nil_of_update ha
  have below_b : b ≠ [] := Forest.ne_nil_of_update hb
  obtain ⟨n', first, second⟩ := Node.addOutputs_comm apart
    ((Forest.update_eq_some_iff below_a).mp ha) ((Forest.update_eq_some_iff below_b).mp hb)
  obtain ⟨f', rfl⟩ := Node.exists_outputs_of_update below_b first
  exact ⟨f', (Forest.update_eq_some_iff below_b).mpr first,
    (Forest.update_eq_some_iff below_a).mpr second⟩

/-! ### What an append changes -/

theorem getElem?_concat_of_ne {α : Type} {l : List α} {i : Nat} (other : i ≠ l.length) (x : α) :
    (l ++ [x])[i]? = l[i]? := by
  rcases Nat.lt_or_gt_of_ne other with inside | outside
  · exact List.getElem?_append_left inside
  · have behind : (l ++ [x]).length ≤ i := by
      rw [List.length_append, List.length_singleton]
      exact outside
    rw [List.getElem?_eq_none behind, List.getElem?_eq_none (Nat.le_of_lt outside)]

/-- Addresses that are not on the way to the changed node, nor lead to its new output, lead where
they led, or still nowhere. -/
theorem Node.at?_append_output (hn : Node.update (·.addOutputs [new]) b n = some n')
    (hm : Node.at? b n = some m) (above : ¬ a <+: b) (below : ¬ b.child m.outputs.length <+: a) :
    Node.at? a n' = Node.at? a n := by
  induction b generalizing a n n' with
  | nil =>
    cases hm
    rw [← Option.some.inj hn]
    cases a with
    | nil => exact absurd List.nil_prefix above
    | cons i rest =>
      have other : i ≠ m.outputs.length := by
        rintro rfl
        exact below (List.cons_prefix_cons.mpr ⟨rfl, List.nil_prefix⟩)
      change (m.outputs ++ [new])[i]?.bind (Node.at? rest) = m.outputs[i]?.bind (Node.at? rest)
      rw [getElem?_concat_of_ne other new]
  | cons j deeper ih =>
    obtain ⟨t, t', ht, ht', rfl⟩ := Node.update_cons_eq_some_iff.mp hn
    have hj : j < n.outputs.length := (List.getElem?_eq_some_iff.mp ht).1
    rw [Node.at?, ht, Option.bind_some] at hm
    cases a with
    | nil => exact absurd List.nil_prefix above
    | cons i rest =>
      rw [Node.at?, Node.at?]
      by_cases same : i = j
      · subst same
        rw [List.getElem?_set_self hj, ht]
        exact ih ht' hm (fun h => above (List.cons_prefix_cons.mpr ⟨rfl, h⟩))
          fun h => below (List.cons_prefix_cons.mpr ⟨rfl, h⟩)
      · rw [List.getElem?_set_ne (Ne.symm same)]

theorem Forest.at?_append_output (hf : Forest.appendAt b [new] f = some f')
    (hm : Forest.at? b f = some m) (above : ¬ a <+: b)
    (below : ¬ b.child m.outputs.length <+: a) : Forest.at? a f' = Forest.at? a f := by
  have hb : b ≠ [] := Forest.ne_nil_of_update hf
  have ha : a ≠ [] := by
    rintro rfl
    exact above List.nil_prefix
  rw [← Node.at?_of_ne_nil hb ⟨.proceed, none, f⟩] at hm
  have whole := Node.at?_append_output ((Forest.update_eq_some_iff hb).mp hf) hm above below
  rwa [Node.at?_of_ne_nil ha, Node.at?_of_ne_nil ha] at whole

theorem Forest.at?_new_output (hf : Forest.appendAt b [new] f = some f')
    (hm : Forest.at? b f = some m) (c : Address) :
    Forest.at? (b.child m.outputs.length ++ c) f' = Node.at? c new := by
  have hb : b ≠ [] := Forest.ne_nil_of_update hf
  have grown : Forest.at? b f' = some (m.addOutputs [new]) := by
    rw [Forest.at?_update_self hf, hm, Option.map_some]
  have last : (m.outputs ++ [new])[m.outputs.length]? = some new := List.getElem?_concat_length
  rw [Address.child, List.append_assoc, Forest.at?_append hb, grown, Option.bind_some,
    List.singleton_append, Node.at?, Node.addOutputs, last, Option.bind_some]

/-! ### Routes -/

namespace Route

theorem exists_appendAt (r : Route) (x : Node) (found : r.at? a = some n) :
    ∃ outputs, Forest.appendAt a [x] r.outputs = some outputs ∧
      r.appendAt a x = .ok { r with outputs } := by
  rcases r.appendAt_cases a x with ⟨lost, -⟩ | ⟨-, outputs, -, added, done⟩
  · rw [found] at lost
    cases lost
  · exact ⟨outputs, added, done⟩

theorem appendAt_of_some {x : Node} {outputs : Forest} {r : Route}
    (added : Forest.appendAt a [x] r.outputs = some outputs) :
    r.appendAt a x = .ok { r with outputs } := by
  rw [appendAt, added]

/-- A node that is appended at an address stands behind the outputs that were there, with all that is
below it, and nothing changes beside the way to it. A second append, at another address that led to
a node before, can as well be made first: both orders succeed and give the same route. -/
theorem appendAt_commutes (r : Route) {a : Address} {n : Node} (found : r.at? a = some n)
    (x : Node) :
    (∃ r', r.appendAt a x = .ok r' ∧ r'.id = r.id ∧
      (∀ c, r'.at? (a.child n.outputs.length ++ c) = Node.at? c x) ∧
      ∀ c, ¬ c <+: a → ¬ a.child n.outputs.length <+: c → r'.at? c = r.at? c) ∧
    ∀ (b : Address) (y : Node), a ≠ b → (r.at? b).isSome = true →
      ∃ r', (r.appendAt a x >>= fun s => s.appendAt b y) = .ok r' ∧
        (r.appendAt b y >>= fun s => s.appendAt a x) = .ok r' := by
  obtain ⟨outputs, added, done⟩ := r.exists_appendAt x found
  refine ⟨⟨{ r with outputs }, done, rfl, Forest.at?_new_output added found,
    fun _ => Forest.at?_append_output added found⟩, fun b y apart reached => ?_⟩
  obtain ⟨m, hm⟩ := Option.isSome_iff_exists.mp reached
  obtain ⟨outputs₂, added₂, done₂⟩ := r.exists_appendAt y hm
  obtain ⟨both, first, second⟩ := Forest.appendAt_comm apart added added₂
  refine ⟨{ r with outputs := both }, bind_eq_ok_iff.mpr ⟨_, done, ?_⟩,
    bind_eq_ok_iff.mpr ⟨_, done₂, ?_⟩⟩
  · exact appendAt_of_some (r := { r with outputs }) first
  · exact appendAt_of_some (r := { r with outputs := outputs₂ }) second

/-- The proxy is above its marker, and a tree is appended at each. -/
theorem appendAt_commutes_above :
    let proxy : Node := Node.proxy "audit" [Node.step "log:audit", Node.marker]
    let r : Route := ⟨"orders", [Node.step "direct:in", proxy]⟩
    let x : Node := ⟨.step "choice", some "x", [Node.step "log:x"]⟩
    let y : Node := ⟨.step "mock:out", none, [Node.marker]⟩
    r.at? [1] = some proxy ∧ ([1] : Address) ≠ [1, 1] ∧ (r.at? [1, 1]).isSome = true ∧
    (∃ r', r.appendAt [1] x = .ok r' ∧ r'.id = r.id ∧ r'.at? [1, 2] = some x ∧
      r'.at? [1, 1] = some Node.marker ∧ r'.at? [1, 3] = none) ∧
    ∃ r', (r.appendAt [1] x >>= fun s => s.appendAt [1, 1] y) = .ok r' ∧
      (r.appendAt [1, 1] y >>= fun s => s.appendAt [1] x) = .ok r' := by
  intro proxy r x y
  have found : r.at? [1] = some proxy := by decide
  have apart : ([1] : Address) ≠ [1, 1] := by decide
  have reached : (r.at? [1, 1]).isSome = true := by decide
  obtain ⟨⟨r', done, same, new, kept⟩, comm⟩ := appendAt_commutes r found x
  have marker : r'.at? [1, 1] = some Node.marker := kept [1, 1] (by decide) (by decide)
  have nowhere : r'.at? [1, 3] = none := kept [1, 3] (by decide) (by decide)
  exact ⟨found, apart, reached, ⟨r', done, same, new [], marker, nowhere⟩,
    comm [1, 1] y apart reached⟩

end Route

end RouteLoom
