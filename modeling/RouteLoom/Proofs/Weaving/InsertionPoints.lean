import RouteLoom.Interception.Any
import RouteLoom.Proofs.Weaving.Layers
import Mathlib.Data.List.DropRight

/-!
# Where construction can go on

The insertion points of a weave are computed after the fact, from the marker of each body and the
number of outputs it was declared with. Here they are tied to the route: an insertion point leads to
the marker that holds the nodes of its layer.
-/

namespace RouteLoom

variable {ι : Type} [Interceptor ι]

open Interceptor

/-- At `proxy` stands the layer's proxy, at `point` its first marker, which holds the outputs it was
declared with and then the wrapped nodes, and those begin at `inner`. -/
def LayerAt (route : Route) (layer : Layer) (i : ι) (wrapped : Forest)
    (proxy point inner : Address) : Prop :=
  ∃ relative marker,
    layer.marker = some relative ∧ (body i).firstMarker = some relative ∧
    Forest.at? relative (body i) = some marker ∧ marker.isMarker = true ∧
    route.at? proxy = some (around i wrapped) ∧
    point = proxy ++ relative ∧
    route.at? point = some (marker.addOutputs wrapped) ∧
    inner = point.child marker.outputs.length

/-! ### The walk from the outside in -/

variable {root a : Address} {ss : List Seam}

theorem length_markerAddresses (root : Address) (ss : List Seam) :
    (markerAddresses root ss).length =
      (ss.takeWhile fun s => s.layer.marker.isSome).length := by
  induction ss generalizing root with
  | nil => rfl
  | cons s rest ih =>
    rw [markerAddresses]
    cases hs : s.layer.marker with
    | none => simp [hs]
    | some relative =>
      rw [List.length_cons, ih, List.takeWhile_cons_of_pos (by rw [hs]; rfl), List.length_cons]

theorem prefix_of_mem_markerAddresses (ha : a ∈ markerAddresses root ss) : root <+: a := by
  induction ss generalizing root with
  | nil => cases ha
  | cons s rest ih =>
    rw [markerAddresses] at ha
    cases hs : s.layer.marker with
    | none =>
      rw [hs] at ha
      cases ha
    | some relative =>
      rw [hs] at ha
      have marker : root <+: root ++ relative := List.prefix_append _ _
      rcases List.mem_cons.mp ha with rfl | deeper
      · exact marker
      · exact (marker.trans (List.prefix_append _ [s.offset])).trans (ih deeper)

theorem pairwise_markerAddresses (root : Address) (ss : List Seam) :
    (markerAddresses root ss).Pairwise fun outer inner => outer <+: inner ∧ outer ≠ inner := by
  induction ss generalizing root with
  | nil => exact .nil
  | cons s rest ih =>
    rw [markerAddresses]
    cases s.layer.marker with
    | none => exact .nil
    | some relative =>
      refine .cons ?_ (ih _)
      intro a ha
      have below : (root ++ relative).child s.offset <+: a := prefix_of_mem_markerAddresses ha
      refine ⟨(List.prefix_append _ [s.offset]).trans below, ?_⟩
      rintro rfl
      have longer := below.length_le
      rw [Address.child, List.length_append, List.length_singleton] at longer
      omega

/-! ### What stands at the points -/

/-- Where a layer's proxy stands, its marker stands below, and from there on the route is what the
layer wraps. -/
theorem layerAt_of_embeds {route : Route} {i : ι} {wrapped filled : Forest} {relative : Address}
    {marker : Node} (e : Forest.Embeds wrapped (body i) filled relative marker)
    (standing : ∀ b, route.at? (root ++ b) = Node.at? b (around i wrapped)) :
    LayerAt route (seam i wrapped).layer i wrapped root (root ++ relative)
        ((root ++ relative).child marker.outputs.length) ∧
      ∀ n, wrapped = [n] → ∀ b,
        route.at? ((root ++ relative).child marker.outputs.length ++ b) = Node.at? b n := by
  have below (b : Address) :
      route.at? (root ++ relative ++ b) = Node.at? b (marker.addOutputs wrapped) := by
    have inside : relative ++ b ≠ [] := by simp [e.ne_nil]
    rw [List.append_assoc, standing, around_of_embeds e, Node.at?_of_ne_nil inside,
      Forest.at?_append e.ne_nil]
    exact congrArg (·.bind (Node.at? b)) e.at?_filled
  refine ⟨⟨relative, marker, ?_, e.found, e.declared, e.isMarker, ?_, rfl, ?_, rfl⟩, ?_⟩
  · rw [marker_seam, e.found]
  · rw [← List.append_nil root, standing, Node.at?_nil]
  · rw [← List.append_nil (root ++ relative), below, Node.at?_nil]
  · rintro n rfl b
    rw [Address.child, List.append_assoc, below, List.singleton_append, Node.at?, Node.addOutputs,
      List.getElem?_concat_length, Option.bind_some]

/-- Innermost first, the points belong to the outermost layers of a tower that stands at `root`.
Every layer's proxy stands where the nodes of the next layer outside begin. -/
def LayersAt (route : Route) (own : Forest) (ps : List ι) (root : Address)
    (points : List Address) : Prop :=
  ∃ place : Nat → Address, place points.length = root ∧
    ∀ j a, points[j]? = some a → ∃ i, ps[ps.length - points.length + j]? = some i ∧
      LayerAt route (seam i (tower own (ps.take (ps.length - points.length + j)))).layer i
        (tower own (ps.take (ps.length - points.length + j))) (place (j + 1)) a (place j)

theorem LayersAt.nil (route : Route) (own : Forest) (ps : List ι) (root : Address) :
    LayersAt route own ps root [] :=
  ⟨fun _ => root, rfl, fun j a ha => by cases ha⟩

theorem LayersAt.concat {route : Route} {own : Forest} {ps : List ι} {p : ι}
    {inner point : Address} {points : List Address} (inside : LayersAt route own ps inner points)
    (fewer : points.length ≤ ps.length)
    (here : LayerAt route (seam p (tower own ps)).layer p (tower own ps) root point inner) :
    LayersAt route own (ps ++ [p]) root (points ++ [point]) := by
  obtain ⟨place, innermost, layers⟩ := inside
  refine ⟨fun j => if j ≤ points.length then place j else root, ?_, fun j a ha => ?_⟩
  · rw [List.length_append, List.length_singleton]
    exact if_neg (by omega)
  simp only [List.length_append, List.length_singleton, Nat.add_sub_add_right]
  have bound := (List.getElem?_eq_some_iff.mp ha).1
  rw [List.length_append, List.length_singleton] at bound
  rcases Nat.lt_or_eq_of_le (Nat.le_of_lt_succ bound) with before | rfl
  · rw [List.getElem?_append_left before] at ha
    obtain ⟨i, hi, layer⟩ := layers j a ha
    refine ⟨i, by rw [List.getElem?_append_left (by omega)]; exact hi, ?_⟩
    rw [List.take_append_of_le_length (by omega), if_pos (by omega), if_pos (by omega)]
    exact layer
  · rw [List.getElem?_concat_length, Option.some.injEq] at ha
    subst ha
    rw [Nat.sub_add_cancel fewer]
    refine ⟨p, List.getElem?_concat_length, ?_⟩
    rw [List.take_left, if_neg (by omega), if_pos (Nat.le_refl _), innermost]
    exact here

theorem layersAt_markerAddresses {route : Route} (own : Forest) (ps : List ι) (root : Address)
    (standing : ∀ n, tower own ps = [n] → ∀ b, route.at? (root ++ b) = Node.at? b n) :
    LayersAt route own ps root (markerAddresses root (towerSeams own ps).reverse).reverse := by
  induction ps using List.reverseRecOn generalizing root with
  | nil => exact .nil route own [] root
  | append_singleton ps p ih =>
    rw [towerSeams_concat, List.reverse_concat, markerAddresses, marker_seam]
    cases found : (body p).firstMarker with
    | none => exact .nil route own (ps ++ [p]) root
    | some relative =>
      obtain ⟨marker, filled, e⟩ := Forest.exists_embeds (tower own ps) found
      rw [tower_concat] at standing
      obtain ⟨here, inside⟩ := layerAt_of_embeds e (standing _ rfl)
      have offset : (seam p (tower own ps)).offset = marker.outputs.length := by
        rw [seam_of_embeds e]
      dsimp only
      rw [List.reverse_cons, offset]
      refine .concat (ih _ inside) ?_ here
      rw [List.length_reverse, length_markerAddresses]
      exact (List.takeWhile_prefix _).length_le.trans_eq (by simp)

/-! ### The points of a weave -/

namespace Weaver

theorem at?_run_of_tower {w : Weaver} {r : Route} {is : List ι} {n : Node}
    (hn : tower (w.own r) (w.run r is).applied = [n]) (b : Address) :
    (w.run r is).route.at? ([(w.front r).length] ++ b) = Node.at? b n := by
  rw [Route.at?, outputs_run, hn]
  exact Forest.at?_append_right (w.front r) [n] 0 b

theorem bottomUp_run (w : Weaver) (r : Route) (is : List ι) :
    (w.run r is).report.points.bottomUp =
      (markerAddresses [(w.front r).length]
        (towerSeams (w.own r) (w.run r is).applied).reverse).reverse := by
  rw [applied_run, run_eq]
  rfl

/-- The points of a weave belong to the outermost layers of its tower, which stands behind the
clauses. -/
theorem layersAt_run (w : Weaver) (r : Route) (is : List ι) :
    LayersAt (w.run r is).route (w.own r) (w.run r is).applied [(w.front r).length]
      (w.run r is).report.points.bottomUp := by
  rw [bottomUp_run]
  exact layersAt_markerAddresses _ _ _ fun n hn b => at?_run_of_tower hn b

theorem exists_marker_of_mem_points {w : Weaver} {r : Route} {is : List ι} {a : Address}
    (ha : a ∈ (w.run r is).report.points.bottomUp) :
    ∃ n, (w.run r is).route.at? a = some n ∧ n.isMarker = true := by
  obtain ⟨j, hj⟩ := List.getElem?_of_mem ha
  obtain ⟨_, -, at_points⟩ := layersAt_run w r is
  obtain ⟨i, -, relative, marker, -, -, -, is_marker, -, -, holds, -⟩ := at_points j a hj
  exact ⟨_, holds, is_marker⟩

theorem length_bottomUp_run (w : Weaver) (r : Route) (is : List ι) :
    (w.run r is).report.points.bottomUp.length =
      ((w.run r is).report.layers.rtakeWhile fun l => l.marker.isSome).length := by
  rw [bottomUp_run, List.length_reverse, length_markerAddresses, layers_run, List.rtakeWhile,
    ← List.map_reverse, List.takeWhile_map, List.length_reverse, List.length_map]
  rfl

theorem length_bottomUp_of_marked {w : Weaver} {r : Route} {is : List ι}
    (marked : ∀ l ∈ (w.run r is).report.layers, l.marker ≠ none) :
    (w.run r is).report.points.bottomUp.length = (w.run r is).report.layers.length := by
  rw [length_bottomUp_run, List.rtakeWhile_eq_self_iff.mpr]
  exact fun l hl => Option.isSome_iff_ne_none.mpr (marked l hl)

theorem layered_run (w : Weaver) (r : Route) (is : List ι) :
    (w.run r is).report.layers.map Layer.intercept = (w.run r is).applied.map name ∧
      ((w.run r is).fault = none →
        List.Forall₂ (fun i p => prepare w.registry i = .ok p) is (w.run r is).applied) := by
  refine ⟨intercepts_run w r is, fun succeeds => ?_⟩
  exact (accepted_of_succeeds succeeds).1.imp fun _ _ accepted => (accept_eq_ok_iff.mp accepted).1

/-- The points of a weave, whether it came to its end or not. Counted from the bottom, they belong
to the layers outside of the last layer without a marker, in the order of their application. Each
leads to its layer's first marker, with the wrapped nodes in it, and each leads on to those below.
The layers are those of the interceptors, and of all of them if the weave came to its end. -/
theorem insertionPoints_exact (w : Weaver) (r : Route) (is : List ι) :
    let woven := w.run r is
    let layers := woven.report.layers
    let reachable := layers.rtakeWhile fun l => l.marker.isSome
    let hidden := layers.length - reachable.length
    let points := woven.report.points.bottomUp
    points.length = reachable.length ∧
    (∃ place : Nat → Address, place points.length = [woven.report.clauses] ∧
      ∀ j a, points[j]? = some a → ∃ i layer, woven.applied[hidden + j]? = some i ∧
        layers[hidden + j]? = some layer ∧
        LayerAt woven.route layer i (w.wrappedBy r is (hidden + j))
          (place (j + 1)) a (place j)) ∧
    points.Pairwise (fun below above => above <+: below ∧ above ≠ below) ∧
    layers.map Layer.intercept = woven.applied.map name ∧
    (woven.fault = none →
      List.Forall₂ (fun i p => prepare w.registry i = .ok p) is woven.applied) := by
  intro woven layers reachable hidden points
  have reached : points.length = reachable.length := length_bottomUp_run w r is
  refine ⟨reached, ?_, ?_, layered_run w r is⟩
  · obtain ⟨place, outermost, at_points⟩ := layersAt_run w r is
    refine ⟨place, by rw [outermost, clauses_run], fun j a ha => ?_⟩
    obtain ⟨i, hi, layer⟩ := at_points j a ha
    rw [← length_layers, show (w.run r is).report.points.bottomUp.length = _ from reached] at hi layer
    refine ⟨i, _, hi, ?_, layer⟩
    rw [show layers[hidden + j]? = _ from getElem?_layers w r is _, hi]
    rfl
  · rw [show points = _ from bottomUp_run w r is, List.pairwise_reverse]
    exact pairwise_markerAddresses _ _

/-- The second of four layers has no marker, so only the third and the fourth have points. The third
one's marker was declared with an output of its own, behind which the wrapped proxy stands. Where a
marker is wanted the weave ends at the second interceptor, and the first layer has the only point. -/
theorem insertionPoints_exact_mute :
    let w (options : Options) : Weaver :=
      ⟨⟨.empty, []⟩, [⟨.onException ["IoError"] true, none, []⟩], options⟩
    let r : Route := ⟨"orders", [Node.step "direct:in"]⟩
    let is : List Interception :=
      [.declared ⟨"audit", [], [Node.marker], .empty⟩,
        .declared ⟨"mute", [], [Node.step "log:mute"], .empty⟩,
        .declared ⟨"trace", [], [⟨.proceed, none, [Node.step "log:in"]⟩, Node.marker], .empty⟩,
        .declared ⟨"time", [], [Node.step "log:start", Node.marker], .empty⟩]
    let woven := (w .lenient).run r is
    (woven.fault = none ∧ woven.report.points.bottomUp = [[1, 1, 0, 0], [1, 1]] ∧
      woven.report.layers.map Layer.intercept = ["audit", "mute", "trace", "time"] ∧
      woven.report.layers.map Layer.intercept = woven.applied.map name ∧
      ∃ place : Nat → Address, place 2 = [1] ∧
        (∃ i layer, woven.applied[2]? = some i ∧ woven.report.layers[2]? = some layer ∧
          LayerAt woven.route layer i ((w .lenient).wrappedBy r is 2) (place 1) [1, 1, 0, 0]
            (place 0)) ∧
        ∃ i layer, woven.applied[3]? = some i ∧ woven.report.layers[3]? = some layer ∧
          LayerAt woven.route layer i ((w .lenient).wrappedBy r is 3) (place 2) [1, 1] (place 1)) ∧
    ((w .standard).run r is).fault ≠ none ∧
      ((w .standard).run r is).report.points.bottomUp = [[1, 0]] := by
  intro w r is woven
  have points : ((w .lenient).run r is).report.points.bottomUp = [[1, 1, 0, 0], [1, 1]] := by
    decide
  have hidden : ((w .lenient).run r is).report.layers.length -
      (((w .lenient).run r is).report.layers.rtakeWhile fun l => l.marker.isSome).length = 2 := by
    decide
  obtain ⟨-, ⟨place, outermost, layers⟩, -, named, -⟩ := insertionPoints_exact (w .lenient) r is
  rw [points] at outermost layers
  rw [hidden] at layers
  refine ⟨⟨by decide, points, by decide, named, place, outermost, ?_, ?_⟩, by decide, by decide⟩
  · exact layers 0 [1, 1, 0, 0] rfl
  · exact layers 1 [1, 1] rfl

end Weaver

end RouteLoom
