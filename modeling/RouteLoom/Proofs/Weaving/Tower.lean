import RouteLoom.Proofs.Tree.FirstMarker
import RouteLoom.Weaving.Weaver
import Mathlib.Data.List.Induction

/-!
# Towers of proxies

The nesting of prepared interceptors, without the faults: the first one's proxy is put around a
route's own nodes, the next one's around that proxy, and so on. Every fact about a woven route is a
fact about its tower, and a tower grows by one proxy around what is there, so the facts go by
induction from the inside out.
-/

namespace RouteLoom

variable {ι : Type} [Interceptor ι] {a : Address} {wrapped filled : Forest} {marker : Node}

/-! ### Embedding -/

namespace Forest

variable {body : Forest}

/-- All that embedding in a body with a marker does. -/
structure Embeds (wrapped body filled : Forest) (a : Address) (marker : Node) : Prop where
  found : firstMarker body = some a
  declared : at? a body = some marker
  isMarker : marker.isMarker = true
  appended : appendAt a wrapped body = some filled

namespace Embeds

theorem ne_nil (e : Embeds wrapped body filled a marker) : a ≠ [] :=
  ne_nil_of_firstMarker e.found

theorem at?_filled (e : Embeds wrapped body filled a marker) :
    at? a filled = some (marker.addOutputs wrapped) := by
  rw [at?_update_self e.appended, e.declared, Option.map_some]

/-- No marker among the wrapped nodes or further back captures the search. -/
theorem firstMarker_filled (e : Embeds wrapped body filled a marker) :
    firstMarker filled = some a := by
  have keeps (m : Node) : (m.addOutputs wrapped).kind = m.kind := rfl
  exact firstMarker_update keeps body e.found e.appended

end Embeds

theorem exists_embeds (wrapped : Forest) (found : firstMarker body = some a) :
    ∃ marker filled, Embeds wrapped body filled a marker := by
  obtain ⟨marker, declared, isMarker⟩ := at?_firstMarker body found
  have some_filled : (appendAt a wrapped body).isSome := by
    rw [appendAt, isSome_update, declared]
    rfl
  obtain ⟨filled, appended⟩ := Option.isSome_iff_exists.mp some_filled
  exact ⟨marker, filled, found, declared, isMarker, appended⟩

theorem embed_eq_some (e : Embeds wrapped body filled a marker) :
    embed wrapped body = some (filled, a, marker.outputs.length) := by
  simp [embed, e.found, e.declared, e.appended]

theorem embed_eq_none (h : firstMarker body = none) (wrapped : Forest) :
    embed wrapped body = none := by
  simp [embed, h]

end Forest

/-! ### One proxy -/

namespace Interceptor

/-- An interceptor's proxy around the wrapped nodes. Without a marker it holds none of them. -/
def around (i : ι) (wrapped : Forest) : Node :=
  match Forest.embed wrapped (body i) with
  | some (filled, _, _) => Node.proxy (name i) filled
  | none => proxy i

/-- The seam between an interceptor's proxy and the wrapped nodes. -/
def seam (i : ι) (wrapped : Forest) : Seam :=
  match Forest.embed wrapped (body i) with
  | some (_, marker, offset) => ⟨⟨name i, some marker, wrapped.length, 0⟩, offset⟩
  | none => ⟨⟨name i, none, wrapped.length, wrapped.length⟩, 0⟩

variable {i : ι}

theorem around_of_embeds (e : Forest.Embeds wrapped (body i) filled a marker) :
    around i wrapped = Node.proxy (name i) filled := by
  rw [around, Forest.embed_eq_some e]

theorem seam_of_embeds (e : Forest.Embeds wrapped (body i) filled a marker) :
    seam i wrapped = ⟨⟨name i, some a, wrapped.length, 0⟩, marker.outputs.length⟩ := by
  rw [seam, Forest.embed_eq_some e]

theorem around_of_none (h : (body i).firstMarker = none) (wrapped : Forest) :
    around i wrapped = proxy i := by
  rw [around, Forest.embed_eq_none h]

theorem seam_of_none (h : (body i).firstMarker = none) (wrapped : Forest) :
    seam i wrapped = ⟨⟨name i, none, wrapped.length, wrapped.length⟩, 0⟩ := by
  rw [seam, Forest.embed_eq_none h]

@[simp] theorem marker_seam (i : ι) (wrapped : Forest) :
    (seam i wrapped).layer.marker = (body i).firstMarker := by
  cases h : (body i).firstMarker with
  | none => rw [seam_of_none h]
  | some a =>
    obtain ⟨marker, filled, e⟩ := Forest.exists_embeds wrapped h
    rw [seam_of_embeds e]

@[simp] theorem intercept_seam (i : ι) (wrapped : Forest) :
    (seam i wrapped).layer.intercept = name i := by
  rw [seam]
  split <;> rfl

@[simp] theorem wrapped_seam (i : ι) (wrapped : Forest) :
    (seam i wrapped).layer.wrapped = wrapped.length := by
  rw [seam]
  split <;> rfl

theorem dropped_seam (i : ι) (wrapped : Forest) :
    (seam i wrapped).layer.dropped =
      if (seam i wrapped).layer.marker = none then (seam i wrapped).layer.wrapped else 0 := by
  rw [seam]
  split <;> rfl

@[simp] theorem isClause_around (i : ι) (wrapped : Forest) :
    (around i wrapped).isClause = false := by
  rw [around]
  split <;> rfl

end Interceptor

/-! ### All proxies -/

section Tower

open Interceptor

/-- The nodes of a route after the interceptors, innermost first, were put around its own. -/
def tower (own : Forest) (is : List ι) : Forest := is.foldl (fun wrapped i => [around i wrapped]) own

def towerSeams (own : Forest) : List ι → List Seam
  | [] => []
  | i :: rest => seam i own :: towerSeams [around i own] rest

variable (own : Forest) (is js : List ι) (i : ι)

@[simp] theorem tower_nil : tower own ([] : List ι) = own := rfl

theorem tower_cons : tower own (i :: is) = tower [around i own] is := rfl

theorem tower_append : tower own (is ++ js) = tower (tower own is) js := List.foldl_append

@[simp] theorem tower_concat : tower own (is ++ [i]) = [around i (tower own is)] :=
  tower_append own is [i]

theorem towerSeams_append :
    towerSeams own (is ++ js) = towerSeams own is ++ towerSeams (tower own is) js := by
  induction is generalizing own with
  | nil => rfl
  | cons i rest ih => rw [List.cons_append, towerSeams, ih, ← tower_cons, towerSeams, List.cons_append]

@[simp] theorem towerSeams_concat :
    towerSeams own (is ++ [i]) = towerSeams own is ++ [seam i (tower own is)] :=
  towerSeams_append own is [i]

@[simp] theorem length_towerSeams : (towerSeams own is).length = is.length := by
  induction is generalizing own with
  | nil => rfl
  | cons i rest ih => rw [towerSeams, List.length_cons, List.length_cons, ih]

theorem getElem?_towerSeams (k : Nat) :
    (towerSeams own is)[k]? = is[k]?.map fun i => seam i (tower own (is.take k)) := by
  induction is generalizing own k with
  | nil => rfl
  | cons i rest ih =>
    cases k with
    | zero => rfl
    | succ k => exact ih [around i own] k

theorem tower_of_getElem? {k : Nat} (hi : is[k]? = some i) :
    tower own (is.take (k + 1)) = [around i (tower own (is.take k))] := by
  rw [List.take_add_one, hi, Option.toList_some, tower_concat]

end Tower

end RouteLoom
