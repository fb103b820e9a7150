import RouteLoom.Proofs.Tree.Growth
import RouteLoom.Proofs.Weaving.InsertionPoints
import Mathlib.Data.List.Pairwise

/-!
# Construction that goes on

After a weave, nodes are appended at addresses of the route, one after the other. Whatever is
appended, every address goes on leading to its node, so the insertion points of the weave never go
stale.
-/

namespace RouteLoom

/-! ### Appending to routes -/

namespace Route

theorem appendAt_cases (r : Route) (a : Address) (n : Node) :
    r.at? a = none ∧ r.appendAt a n = .error (.invalidAddress r.id a) ∨
      ∃ m outputs, r.at? a = some m ∧ Forest.appendAt a [n] r.outputs = some outputs ∧
        r.appendAt a n = .ok { r with outputs } := by
  have reached : (Forest.appendAt a [n] r.outputs).isSome = (r.at? a).isSome :=
    Forest.isSome_update _ a r.outputs
  rw [appendAt]
  cases appended : Forest.appendAt a [n] r.outputs with
  | none =>
    rw [appended] at reached
    exact .inl ⟨Option.isNone_iff_eq_none.mp (by simpa using reached.symm), rfl⟩
  | some outputs =>
    rw [appended] at reached
    obtain ⟨m, hm⟩ := Option.isSome_iff_exists.mp reached.symm
    exact .inr ⟨m, outputs, hm, rfl, rfl⟩

/-- The route after an attempt to append a node at an address. -/
def attempt (r : Route) (call : Address × Node) : Route :=
  match r.appendAt call.1 call.2 with
  | .ok next => next
  | .error _ => r

/-- The route after a series of attempts, each at the route as it is by then. -/
def construct (r : Route) (calls : List (Address × Node)) : Route := calls.foldl attempt r

theorem attempt_cases (r : Route) (call : Address × Node) :
    r.attempt call = r ∨ ∃ outputs, Forest.appendAt call.1 [call.2] r.outputs = some outputs ∧
      r.attempt call = { r with outputs } := by
  rcases r.appendAt_cases call.1 call.2 with ⟨-, failed⟩ | ⟨-, outputs, -, added, succeeded⟩
  · exact .inl (by rw [attempt, failed])
  · exact .inr ⟨outputs, added, by rw [attempt, succeeded]⟩

variable {r : Route}

@[simp] theorem construct_nil (r : Route) : r.construct [] = r := rfl

theorem construct_cons (r : Route) (call : Address × Node) (calls : List (Address × Node)) :
    r.construct (call :: calls) = (r.attempt call).construct calls := rfl

theorem construct_concat (r : Route) (calls : List (Address × Node)) (call : Address × Node) :
    r.construct (calls ++ [call]) = (r.construct calls).attempt call := by
  rw [construct, List.foldl_append]
  rfl

/-- What every attempt keeps, a series keeps. -/
theorem construct_induction (kept : Route → Prop) {calls : List (Address × Node)} (start : kept r)
    (step : ∀ s, ∀ call ∈ calls, kept s → kept (s.attempt call)) : kept (r.construct calls) := by
  induction calls generalizing r with
  | nil => exact start
  | cons call calls ih =>
    rw [construct_cons]
    exact ih (step r call List.mem_cons_self start)
      fun s c hc => step s c (List.mem_cons_of_mem call hc)

@[simp] theorem id_construct (r : Route) (calls : List (Address × Node)) :
    (r.construct calls).id = r.id := by
  refine construct_induction (fun s => s.id = r.id) rfl fun s call _ kept => ?_
  rcases s.attempt_cases call with same | ⟨outputs, -, same⟩
  · rw [same, kept]
  · rw [same]
    exact kept

theorem grown_construct (r : Route) (calls : List (Address × Node)) :
    Forest.Grown r.outputs (r.construct calls).outputs := by
  refine construct_induction (fun s => Forest.Grown r.outputs s.outputs) (.refl _)
    fun s call _ grown => ?_
  rcases s.attempt_cases call with same | ⟨outputs, added, same⟩
  · rwa [same]
  · rw [same]
    exact grown.trans (Forest.grown_appendAt added)

end Route

/-! ### The markers of the layers -/

/-- At `proxy` stands a layer's proxy, and the search through its outputs ends at the layer's marker,
to which `point` leads. -/
def Searched (route : Route) (layer : Layer) (proxy point : Address) : Prop :=
  ∃ relative n, layer.marker = some relative ∧ point = proxy ++ relative ∧
    route.at? proxy = some n ∧ n.kind = .proxy layer.intercept ∧
    Forest.firstMarker n.outputs = some relative

section

variable {route : Route} {layer : Layer} {proxy point : Address}

theorem isMarker_of_kind_proxy {n : Node} {name : String} (kind : n.kind = .proxy name) :
    n.isMarker = false := by
  rw [Node.isMarker, kind]

/-- An append on the way to a layer's marker or below it does not mislead the search. -/
theorem Searched.attempt (searched : Searched route layer proxy point) (call : Address × Node)
    (related : call.1 <+: point ∨ point <+: call.1) :
    Searched (route.attempt call) layer proxy point := by
  obtain ⟨relative, n, marker, rfl, standing, kind, found⟩ := searched
  rcases route.attempt_cases call with same | ⟨outputs, added, same⟩
  · rw [same]
    exact ⟨relative, n, marker, rfl, standing, kind, found⟩
  rw [same]
  have nonempty : proxy ≠ [] := by
    rintro rfl
    cases standing
  by_cases inside : proxy <+: call.1
  · obtain ⟨rest, split⟩ := inside
    rw [← split, List.prefix_append_right_inj, List.prefix_append_right_inj] at related
    rw [← split] at added
    obtain ⟨m, hm, grown⟩ := Forest.grown_appendAt added proxy n standing
    have changed : Node.update (·.addOutputs [call.2]) rest n = some m := by
      rw [← hm, Forest.at?_update_append nonempty added, show Forest.at? proxy _ = _ from standing,
        Option.bind_some]
    have still : m.kind = .proxy layer.intercept := (congrArg Prod.fst grown.1).trans kind
    refine ⟨relative, m, marker, rfl, hm, still, ?_⟩
    rw [← Node.firstMarker_of_not_isMarker (isMarker_of_kind_proxy kind)] at found
    rw [← Node.firstMarker_of_not_isMarker (isMarker_of_kind_proxy still)]
    exact Node.firstMarker_update_addOutputs found related changed
  · exact ⟨relative, n, marker, rfl, Forest.at?_appendAt_of_not_prefix inside added standing, kind,
      found⟩

theorem Searched.construct (searched : Searched route layer proxy point)
    {calls : List (Address × Node)}
    (related : ∀ call ∈ calls, call.1 <+: point ∨ point <+: call.1) :
    Searched (route.construct calls) layer proxy point :=
  Route.construct_induction (Searched · layer proxy point) searched fun _ call hc kept =>
    kept.attempt call (related call hc)

end

/-! ### Woven routes -/

namespace Weaver

variable {ι : Type} [Interceptor ι] (w : Weaver) (r : Route) (is : List ι)

open Interceptor

/-- The layers that construction can go on in: those outside of the last one without a marker. -/
def reachable : List Layer := (w.run r is).report.layers.rtakeWhile fun l => l.marker.isSome

theorem related_of_mem_points {a b : Address} (ha : a ∈ (w.run r is).report.points.topDown)
    (hb : b ∈ (w.run r is).report.points.topDown) : a <+: b ∨ b <+: a := by
  rw [run_eq] at ha hb
  have symmetric : Std.Symm fun (a b : Address) => a <+: b ∨ b <+: a := ⟨fun _ _ => Or.symm⟩
  have inwards := pairwise_markerAddresses [(w.front r).length]
    (towerSeams (w.own r) (w.acceptance r.id is).applied).reverse
  have one_way := inwards.imp (S := fun a b => a <+: b ∨ b <+: a) fun h => .inl h.1
  exact List.Pairwise.forall_of_forall (fun _ _ => .inl List.prefix_rfl) one_way ha hb

theorem searched_of_layerAt {route : Route} {i : ι} {wrapped : Forest}
    {proxy point inner : Address}
    (stands : LayerAt route (seam i wrapped).layer i wrapped proxy point inner) :
    Searched route (seam i wrapped).layer proxy point := by
  obtain ⟨relative, marker, named, found, -, -, standing, below, -⟩ := stands
  obtain ⟨_, filled, e⟩ := Forest.exists_embeds wrapped found
  refine ⟨relative, around i wrapped, named, below, standing, ?_, ?_⟩
  · rw [around_of_embeds e, intercept_seam]
    rfl
  · rw [around_of_embeds e]
    exact e.firstMarker_filled

/-- Every reachable layer has its insertion point, and its proxy stands in the route. -/
theorem exists_searched_run {j : Nat} {layer : Layer} (hl : (w.reachable r is)[j]? = some layer) :
    ∃ point proxy i k, (w.run r is).report.points.bottomUp[j]? = some point ∧
      (w.run r is).report.layers[k]? = some layer ∧ (w.run r is).applied[k]? = some i ∧
      (w.run r is).route.at? proxy = some (around i (w.wrappedBy r is k)) ∧
      Searched (w.run r is).route layer proxy point := by
  have reached : (w.run r is).report.points.bottomUp.length = (w.reachable r is).length :=
    length_bottomUp_run w r is
  obtain ⟨bound, -⟩ := List.getElem?_eq_some_iff.mp hl
  rw [← reached] at bound
  obtain ⟨place, -, at_points⟩ := layersAt_run w r is
  obtain ⟨i, hi, stands⟩ := at_points j _ (List.getElem?_eq_getElem bound)
  have outermost : w.reachable r is = (w.run r is).report.layers.drop
      ((w.run r is).report.layers.length - (w.reachable r is).length) :=
    List.suffix_iff_eq_drop.mp (List.rtakeWhile_suffix _ _)
  rw [outermost, List.getElem?_drop, ← reached, length_layers, getElem?_layers, hi,
    Option.map_some, Option.some.injEq] at hl
  subst hl
  refine ⟨_, _, i, _, List.getElem?_eq_getElem bound, ?_, hi, ?_, searched_of_layerAt stands⟩
  · rw [getElem?_layers, hi]
    rfl
  · obtain ⟨_, _, -, -, -, -, standing, -⟩ := stands
    exact standing

/-- Appending to a woven route. Each attempt fails exactly if its address leads nowhere by then, and
changes nothing if it fails. No address goes stale, least of all an insertion point. If every attempt
is made at an insertion point, the search in the proxy of every reachable layer still ends at that
layer's marker. -/
theorem construct_run (w : Weaver) (r : Route) (is : List ι) (calls : List (Address × Node)) :
    let woven := w.run r is
    let grown := woven.route.construct calls
    (∀ front call back, calls = front ++ call :: back →
      let now := woven.route.construct front
      let next := woven.route.construct (front ++ [call])
      (now.at? call.1 = none ∧ now.appendAt call.1 call.2 = .error (.invalidAddress r.id call.1) ∧
          next = now) ∨
        ∃ n, now.at? call.1 = some n ∧ now.appendAt call.1 call.2 = .ok next ∧
          next.at? call.1 = some (n.addOutputs [call.2])) ∧
    (∀ a n, woven.route.at? a = some n → ∃ m, grown.at? a = some m ∧ n.Grown m) ∧
    (∀ a ∈ woven.report.points.topDown, ∃ n m, woven.route.at? a = some n ∧ n.isMarker = true ∧
      grown.at? a = some m ∧ n.Grown m) ∧
    ((∀ call ∈ calls, call.1 ∈ woven.report.points.topDown) →
      ∀ (j : Nat) (layer : Layer), (w.reachable r is)[j]? = some layer →
        ∃ (point proxy : Address) (i : ι) (k : Nat),
        woven.report.points.bottomUp[j]? = some point ∧ woven.report.layers[k]? = some layer ∧
        woven.applied[k]? = some i ∧
        woven.route.at? proxy = some (around i (w.wrappedBy r is k)) ∧
        Searched woven.route layer proxy point ∧ Searched grown layer proxy point) := by
  intro woven grown
  have stays : Forest.Grown woven.route.outputs grown.outputs := woven.route.grown_construct calls
  refine ⟨?_, stays, ?_, ?_⟩
  · rintro front call back rfl
    intro now next
    have id : now.id = r.id := woven.route.id_construct front
    have after : next = now.attempt call := woven.route.construct_concat front call
    rw [after, Route.attempt, ← id]
    rcases now.appendAt_cases call.1 call.2 with
      ⟨nowhere, failed⟩ | ⟨n, outputs, here, added, succeeded⟩
    · rw [failed]
      exact .inl ⟨nowhere, rfl, rfl⟩
    · rw [succeeded]
      refine .inr ⟨n, here, rfl, ?_⟩
      rw [Route.at?, Forest.at?_update_self added, ← Route.at?, here, Option.map_some]
  · intro a ha
    obtain ⟨j, hj⟩ := List.getElem?_of_mem (List.mem_reverse.mpr ha)
    obtain ⟨place, -, at_points⟩ := layersAt_run w r is
    obtain ⟨i, -, relative, marker, -, -, -, is_marker, -, -, holds, -⟩ := at_points j a hj
    obtain ⟨m, hm, more⟩ := stays a _ holds
    exact ⟨_, m, holds, is_marker, hm, more⟩
  · intro at_points j layer hl
    obtain ⟨point, proxy, i, k, hpoint, hlayer, hi, standing, searched⟩ :=
      w.exists_searched_run r is hl
    have listed : point ∈ woven.report.points.topDown :=
      List.mem_reverse.mp (List.mem_of_getElem? hpoint)
    exact ⟨point, proxy, i, k, hpoint, hlayer, hi, standing, searched,
      searched.construct fun call hc => w.related_of_mem_points r is (at_points call hc) listed⟩

/-- Markers and a proxy are appended in both markers of a route whose first layer is unreachable. -/
theorem construct_run_markers :
    let w : Weaver := ⟨⟨.empty, []⟩, [⟨.onException ["IoError"] true, none, []⟩], .lenient⟩
    let r : Route := ⟨"orders", [Node.step "direct:in"]⟩
    let is : List Interception :=
      [.declared ⟨"mute", [], [Node.step "log:mute"], .empty⟩,
        .declared ⟨"trace", [], [⟨.proceed, none, [Node.step "log:in"]⟩, Node.marker], .empty⟩,
        .declared ⟨"time", [], [Node.step "log:start", Node.marker], .empty⟩]
    let calls : List (Address × Node) :=
      [([1, 1], Node.proxy "forged" [Node.marker]), ([1, 1, 0, 0], Node.marker), ([1, 1], Node.marker)]
    (∀ call ∈ calls, call.1 ∈ (w.run r is).report.points.topDown) ∧ (w.reachable r is).length = 2 ∧
      ∀ (j : Nat) (layer : Layer), (w.reachable r is)[j]? = some layer →
        ∃ point proxy, (w.run r is).report.points.bottomUp[j]? = some point ∧
          Searched ((w.run r is).route.construct calls) layer proxy point := by
  intro w r is calls
  have at_points : ∀ call ∈ calls, call.1 ∈ (w.run r is).report.points.topDown := by decide
  refine ⟨at_points, by decide, fun j layer hl => ?_⟩
  obtain ⟨-, -, -, searched⟩ := construct_run w r is calls
  obtain ⟨point, proxy, -, -, hpoint, -, -, -, -, still⟩ := searched at_points j layer hl
  exact ⟨point, proxy, hpoint, still⟩

end Weaver

end RouteLoom
