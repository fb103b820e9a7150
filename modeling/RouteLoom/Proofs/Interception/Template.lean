import RouteLoom.Interception.Any
import RouteLoom.Proofs.Tree.Count
import RouteLoom.Proofs.Tree.FirstMarker

/-!
# Templates and the bodies made from them

A body differs from the template it was expanded from in the endpoints of its steps at most. So the
first marker of a body can be read off the template, whatever beans were found for it, and so can
the number of its nodes of one kind.
-/

namespace RouteLoom

variable {registry : Registry}

/-! ### Expansion -/

theorem Kind.expand_eq_proceed_iff (b : Bindings) (k : Kind) :
    k.expand b = .proceed ↔ k = .proceed := by
  cases k <;> simp [Kind.expand]

mutual

theorem Node.firstMarker_expand (b : Bindings) (n : Node) :
    (n.expand b).firstMarker = n.firstMarker := by
  cases n with
  | mk kind id outputs =>
    rw [Node.expand, Node.firstMarker, Node.firstMarker, Forest.firstMarker_expand b outputs]
    simp only [Kind.expand_eq_proceed_iff]
termination_by sizeOf n

theorem Forest.firstMarker_expand (b : Bindings) (f : Forest) :
    Forest.firstMarker (Forest.expand b f) = Forest.firstMarker f := by
  cases f with
  | nil => rw [Forest.expand]
  | cons n rest =>
    rw [Forest.expand, Forest.firstMarker, Forest.firstMarker, Node.firstMarker_expand b n,
      Forest.firstMarker_expand b rest]
termination_by sizeOf f

end

mutual

theorem Node.preorder_expand (b : Bindings) (n : Node) :
    (n.expand b).preorder = n.preorder.map (Node.expand b) := by
  cases n with
  | mk kind id outputs =>
    rw [Node.expand, Node.preorder, Node.preorder, Forest.preorder_expand b outputs, List.map_cons,
      Node.expand]
termination_by sizeOf n

theorem Forest.preorder_expand (b : Bindings) (f : Forest) :
    Forest.preorder (Forest.expand b f) = (Forest.preorder f).map (Node.expand b) := by
  cases f with
  | nil => rw [Forest.expand, Forest.preorder, List.map_nil]
  | cons n rest =>
    rw [Forest.expand, Forest.preorder, Forest.preorder, List.map_append, Node.preorder_expand b n,
      Forest.preorder_expand b rest]
termination_by sizeOf f

end

theorem Forest.count_expand {p : Node → Bool} {b : Bindings} (same : ∀ n, p (n.expand b) = p n)
    (f : Forest) : Forest.count p (Forest.expand b f) = Forest.count p f := by
  rw [Forest.count, Forest.preorder_expand, List.countP_map]
  exact List.countP_congr fun n _ => by rw [Function.comp_apply, same]

theorem Node.isClause_expand (b : Bindings) (n : Node) : (n.expand b).isClause = n.isClause := by
  obtain ⟨kind, id, outputs⟩ := n
  cases kind <;> rfl

theorem Node.isProxy_expand (b : Bindings) (n : Node) : (n.expand b).isProxy = n.isProxy := by
  obtain ⟨kind, id, outputs⟩ := n
  cases kind <;> rfl

theorem Node.isMarker_expand (b : Bindings) (n : Node) : (n.expand b).isMarker = n.isMarker := by
  obtain ⟨kind, id, outputs⟩ := n
  cases kind <;> rfl

/-! ### Declared and built-in interceptors -/

theorem Intercept.template_of_prepare {i p : Intercept} (hp : i.prepare registry = .ok p) :
    p.id = i.id ∧ p.template = i.template := by
  rw [Intercept.prepare] at hp
  split at hp
  · cases hp
    exact ⟨rfl, rfl⟩
  · cases hp

namespace Interception

/-- What an interceptor's body is made from. A built-in strategy's needs no preparation. -/
def template : Interception → Forest
  | .builtIn s => Interceptor.body s
  | .declared i => i.template

theorem template_of_prepare {i p : Interception} (hp : Interceptor.prepare registry i = .ok p) :
    Interceptor.name p = Interceptor.name i ∧ p.template = i.template := by
  cases i with
  | builtIn s =>
    cases hp
    exact ⟨rfl, rfl⟩
  | declared i =>
    change Except.map Interception.declared (i.prepare registry) = .ok p at hp
    cases prepared : i.prepare registry with
    | error f =>
      rw [prepared] at hp
      cases hp
    | ok q =>
      rw [prepared] at hp
      cases hp
      exact Intercept.template_of_prepare prepared

theorem firstMarker_body (i : Interception) :
    (Interceptor.body i).firstMarker = i.template.firstMarker := by
  cases i with
  | builtIn s => rfl
  | declared i => exact Forest.firstMarker_expand i.resolved i.template

theorem count_body {p : Node → Bool} (same : ∀ b n, p (Node.expand b n) = p n) (i : Interception) :
    Forest.count p (Interceptor.body i) = Forest.count p i.template := by
  cases i with
  | builtIn s => rfl
  | declared i => exact Forest.count_expand (same i.resolved) i.template

end Interception

end RouteLoom
