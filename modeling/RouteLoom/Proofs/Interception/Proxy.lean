import RouteLoom.Proofs.Interception.Substitution
import RouteLoom.Proofs.Interception.Template

/-!
# Proxies and the templates they are made from

A proxy is its intercept's template below one new node, with the placeholders of every step filled.
Filling goes over the whole tree and changes nothing but endpoints, so an address leads to a node of
the proxy exactly if it leads to one of the template, and the two are alike except for that.
-/

namespace RouteLoom

variable {b : Bindings} {n m : Node} {a : Address}

/-! ### A copy that is changed in place -/

/-- The endpoint of a step is written only if filling in its placeholders changes it. -/
def Kind.rewritten (b : Bindings) : Kind → Kind
  | .step uri => if b.expand uri = uri then .step uri else .step (b.expand uri)
  | other => other

mutual

def Node.rewritten (b : Bindings) : Node → Node
  | ⟨kind, id, outputs⟩ => ⟨kind.rewritten b, id, Forest.rewritten b outputs⟩

def Forest.rewritten (b : Bindings) : Forest → Forest
  | [] => []
  | n :: rest => n.rewritten b :: Forest.rewritten b rest

end

/-- A new proxy around a copy of the template, gone over if anything is bound. -/
def Intercept.copied (i : Intercept) : Node :=
  (Node.proxy i.id []).addOutputs
    (if i.resolved.size = 0 then i.template else Forest.rewritten i.resolved i.template)

theorem Kind.rewritten_eq (b : Bindings) (k : Kind) : k.rewritten b = k.expand b := by
  cases k with
  | step uri =>
    rw [rewritten, expand]
    split
    next unchanged => rw [unchanged]
    next => rfl
  | onException exceptions handled => rfl
  | proceed => rfl
  | proxy intercept => rfl

mutual

theorem Node.rewritten_eq (b : Bindings) (n : Node) : n.rewritten b = n.expand b := by
  cases n with
  | mk kind id outputs =>
    rw [Node.rewritten, Node.expand, Kind.rewritten_eq, Forest.rewritten_eq b outputs]
termination_by sizeOf n

theorem Forest.rewritten_eq (b : Bindings) (f : Forest) :
    Forest.rewritten b f = Forest.expand b f := by
  cases f with
  | nil => rw [Forest.rewritten, Forest.expand]
  | cons n rest =>
    rw [Forest.rewritten, Forest.expand, Node.rewritten_eq b n, Forest.rewritten_eq b rest]
termination_by sizeOf f

end

theorem Intercept.copied_eq (i : Intercept) : i.copied = Interceptor.proxy i := by
  have filled : (if i.resolved.size = 0 then i.template else Forest.rewritten i.resolved i.template) =
      Forest.expand i.resolved i.template := by
    split
    next none => rw [Bindings.eq_empty_of_size none, Forest.expand_empty]
    next => exact Forest.rewritten_eq i.resolved i.template
  rw [copied, filled]
  rfl

/-! ### What addresses lead to -/

theorem Forest.expand_eq_map (b : Bindings) (f : Forest) :
    Forest.expand b f = f.map (Node.expand b) := by
  induction f with
  | nil => rw [Forest.expand, List.map_nil]
  | cons n rest ih => rw [Forest.expand, ih, List.map_cons]

theorem Node.outputs_expand (b : Bindings) (n : Node) :
    (n.expand b).outputs = n.outputs.map (Node.expand b) := by
  cases n
  rw [Node.expand, Forest.expand_eq_map]

theorem Node.at?_expand (b : Bindings) (a : Address) (n : Node) :
    Node.at? a (n.expand b) = (Node.at? a n).map (Node.expand b) := by
  induction a generalizing n with
  | nil => rfl
  | cons i rest ih =>
    rw [Node.at?, Node.at?, Node.outputs_expand, List.getElem?_map, Option.bind_map, Option.map_bind]
    congr 1
    funext m
    exact ih m

theorem Forest.at?_expand (b : Bindings) (a : Address) (f : Forest) :
    Forest.at? a (Forest.expand b f) = (Forest.at? a f).map (Node.expand b) := by
  cases a with
  | nil => rfl
  | cons i rest =>
    rw [Forest.at?, Forest.at?, Forest.expand_eq_map, List.getElem?_map, Option.bind_map,
      Option.map_bind]
    congr 1
    funext m
    exact Node.at?_expand b rest m

/-! ### Two nodes compared -/

/-- A node of a template and the one made from it. -/
structure Node.FilledAs (b : Bindings) (n m : Node) : Prop where
  id : m.id = n.id
  size : m.outputs.length = n.outputs.length
  endpoint : ∀ uri, n.kind = .step uri → m.kind = .step (b.expand uri)
  other : (∀ uri, n.kind ≠ .step uri) → m.kind = n.kind

theorem Node.filledAs_expand (b : Bindings) (n : Node) : n.FilledAs b (n.expand b) := by
  have size : (n.expand b).outputs.length = n.outputs.length := by
    rw [Node.outputs_expand, List.length_map]
  obtain ⟨kind, id, outputs⟩ := n
  refine ⟨rfl, size, ?_, ?_⟩
  · rintro uri ⟨⟩
    rfl
  · intro unfilled
    cases kind with
    | step uri => exact absurd rfl (unfilled uri)
    | onException exceptions handled => rfl
    | proceed => rfl
    | proxy intercept => rfl

theorem Forest.filledAs_at? (b : Bindings) (f : Forest) (a : Address) :
    Option.Rel (Node.FilledAs b) (Forest.at? a f) (Forest.at? a (Forest.expand b f)) := by
  rw [Forest.at?_expand]
  cases Forest.at? a f with
  | none => exact .none
  | some n => exact .some (n.filledAs_expand b)

/-- A proxy is named for its intercept and has no id of its own. Below it the template's tree stands
node for node, with the same ids and kinds, but with the placeholders of each step filled. So what
is found out about the markers of the template holds of every proxy made from it, whatever beans
were found, and a proxy made in place is the same. -/
theorem Intercept.proxy_filledAs (i : Intercept) :
    (Interceptor.proxy i).kind = .proxy i.id ∧ (Interceptor.proxy i).id = none ∧
    (Interceptor.proxy i).outputs.length = i.template.length ∧
    (∀ a, Option.Rel (Node.FilledAs i.resolved) (Forest.at? a i.template)
      (Forest.at? a (Interceptor.proxy i).outputs)) ∧
    Forest.firstMarker (Interceptor.proxy i).outputs = Forest.firstMarker i.template ∧
    Forest.markerCount (Interceptor.proxy i).outputs = Forest.markerCount i.template ∧
    i.copied = Interceptor.proxy i := by
  have outputs : (Interceptor.proxy i).outputs = Forest.expand i.resolved i.template := rfl
  rw [outputs]
  refine ⟨rfl, rfl, ?_, Forest.filledAs_at? i.resolved i.template,
    Forest.firstMarker_expand i.resolved i.template, ?_, i.copied_eq⟩
  · rw [Forest.expand_eq_map, List.length_map]
  · exact Forest.count_expand (Node.isMarker_expand i.resolved) i.template

end RouteLoom
