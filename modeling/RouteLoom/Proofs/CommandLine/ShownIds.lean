import RouteLoom.CommandLine.Answer
import RouteLoom.Proofs.Assembly.Addressing
import RouteLoom.Proofs.Assembly.PlaceNames

/-!
# The ids that are shown

An unnamed route is shown by its place, and it is named after its place when the context is
assembled. So the id that is shown is the one that the route will have, unless another route has
declared it.
-/

namespace RouteLoom

namespace Answer

variable {c : Context} {r : Route} {i : Nat}

/-- The id that is shown for a route, without the parentheses around the id of an unnamed one. -/
def bareId (r : Route) (i : Nat) : String :=
  if r.id = "" then "route" ++ toString (i + 1) else r.id

theorem shownId_eq (r : Route) (i : Nat) :
    shownId r i = if r.id = "" then "(" ++ bareId r i ++ ")" else bareId r i := by
  rw [shownId, bareId]
  split
  · rw [← String.append_assoc]
    rfl
  · rfl

def routeLines (routes : List Route) : List String :=
  routes.zipIdx.map fun (r, i) => line ["  ", shownId r i, " outputs=", toString r.outputs.length]

theorem getElem?_routeLines {routes : List Route} (hr : routes[i]? = some r) :
    (routeLines routes)[i]? =
      some ("  " ++ shownId r i ++ " outputs=" ++ toString r.outputs.length ++ "\n") := by
  rw [routeLines, List.getElem?_map, List.getElem?_zipIdx, hr, Option.map_some, Option.map_some,
    Nat.zero_add]
  rfl

theorem exists_front_info (c : Context) : ∃ front, (info c).out =
    front ++ "\nRoutes:\n" ++ String.join (routeLines c.routes) :=
  ⟨_, rfl⟩

end Answer

namespace Context

variable {c : Context} {registry : Registry} {strategies : List Strategy} {a : Assembled}
  {parents : List Bindings} {r : Route} {i : Nat}

open Answer

theorem Completes.exists_route_at (done : c.Completes registry strategies a)
    (hr : c.routes[i]? = some r) :
    ∃ route, a.routes[i]? = some route ∧ route.id = assignedId (declaredIds c.routes) r i := by
  have ids := congrArg (·[i]?) done.route_ids
  simp only [List.getElem?_map, getElem?_assignIds, hr, Option.map_some] at ids
  exact Option.map_eq_some_iff.mp ids

/-- The id that a route is given and the one that is shown for it differ only in underscores, and only
where the route has no id and another one has declared the id that is shown. -/
theorem assignedId_ne_bareId_iff (declared : List String) (r : Route) (i : Nat) :
    assignedId declared r i ≠ bareId r i ↔ r.id = "" ∧ bareId r i ∈ declared := by
  have given := namedAt_assignedId declared r i
  constructor
  · intro differ
    have unnamed : r.id = "" := by
      by_contra named
      exact differ (by rw [bareId, if_neg named]; exact given.kept named)
    refine ⟨unnamed, ?_⟩
    by_contra free
    rw [bareId, if_pos unnamed] at differ free
    obtain ⟨k, -, found, -, least⟩ := given.least unnamed
    have none : k ≤ 0 := least (by rwa [Set.mem_ofPred_eq, padded_zero])
    rw [Nat.le_zero.mp none, padded_zero] at found
    exact differ found
  · rintro ⟨unnamed, taken⟩ same
    exact given.fresh unnamed (same ▸ taken)

/-- The routes of a context are shown in their order, and assembled in that order too. The id that is
shown for a route, parentheses apart, is the one that the assembled route has, except for an unnamed
route whose name another route has declared. What the assembled route has more than is shown are the
fewest underscores for which its id is not declared. -/
theorem info_ids (c : Context) (parents : List Bindings) {a : Assembled}
    (assembled : (c.assemble parents).outcome = .ok a) :
    (∃ front, (info c).out = front ++ "\nRoutes:\n" ++ String.join (routeLines c.routes)) ∧
    (routeLines c.routes).length = a.routes.length ∧
    ∀ (i : Nat) (r : Route), c.routes[i]? = some r → ∃ route, a.routes[i]? = some route ∧
      (routeLines c.routes)[i]? = some ("  " ++
        (if r.id = "" then "(" ++ bareId r i ++ ")" else bareId r i) ++
        " outputs=" ++ toString r.outputs.length ++ "\n") ∧
      (route.id ≠ bareId r i ↔ r.id = "" ∧ bareId r i ∈ declaredIds c.routes) ∧
      (r.id = "" → ∃ k, route.id = padded (bareId r i) k ∧
        IsLeast {j | padded (bareId r i) j ∉ declaredIds c.routes} k) := by
  obtain ⟨strategies, done⟩ := assembled_iff.mp assembled
  refine ⟨exists_front_info c, ?_, fun i r hr => ?_⟩
  · rw [done.lengths.1, routeLines, List.length_map, List.length_zipIdx]
  · obtain ⟨route, there, named⟩ := done.exists_route_at hr
    refine ⟨route, there, ?_, ?_, fun unnamed => ?_⟩
    · rw [getElem?_routeLines hr, shownId_eq]
    · rw [named]
      exact assignedId_ne_bareId_iff (declaredIds c.routes) r i
    · obtain ⟨k, -, found, least⟩ := (namedAt_assignedId (declaredIds c.routes) r i).least unnamed
      rw [named, bareId, if_pos unnamed]
      exact ⟨k, found, least⟩

/-- The first route is shown under a name that the second has declared, the third under its own. -/
theorem info_ids_orders :
    let r : Route := ⟨"", [Node.step "direct:in"]⟩
    let c : Context := { Context.standard with routes := [r, ⟨"route1", []⟩, r] }
    ∃ a, (c.assemble []).outcome = .ok a ∧
      a.routes.map Route.id = ["route1_", "route1", "route3"] ∧
      (∃ front, (info c).out =
        front ++ "\nRoutes:\n" ++ String.join (routeLines c.routes)) ∧
      (∃ route, a.routes[0]? = some route ∧ route.id ≠ "route1" ∧
        (routeLines c.routes)[0]? = some "  (route1) outputs=1\n") ∧
      ∃ route, a.routes[2]? = some route ∧ route.id = "route3" ∧
        (routeLines c.routes)[2]? = some "  (route3) outputs=1\n" := by
  intro r c
  have found : ((c.assemble []).outcome.map fun a => a.routes.map Route.id) =
      .ok ["route1_", "route1", "route3"] := by
    decide
  obtain ⟨a, assembled, ids⟩ := map_eq_ok_iff.mp found
  obtain ⟨shown, -, each⟩ := info_ids c [] assembled
  obtain ⟨first, at_first, line_first, differs, -⟩ := each 0 r rfl
  obtain ⟨third, at_third, line_third, agrees, -⟩ := each 2 r rfl
  have free : ¬ (r.id = "" ∧ bareId r 2 ∈ declaredIds c.routes) := by decide
  exact ⟨a, assembled, ids, shown,
    ⟨first, at_first, differs.mpr (by decide), line_first.trans (by decide)⟩,
    ⟨third, at_third, not_not.mp fun other => free (agrees.mp other), line_third.trans (by decide)⟩⟩

/-- It is not so that every assembled route has the id that is shown for it: the first of these is
shown under the id of the second. -/
theorem info_ids_taken :
    let c : Context :=
      { Context.standard with
        routes := [⟨"", [Node.step "direct:in"]⟩, ⟨"route1", [Node.step "direct:out"]⟩] }
    (∃ a, (c.assemble []).outcome = .ok a ∧ a.routes.map Route.id = ["route1_", "route1"] ∧
      (info c).out =
        "Context: routeweave\nBeans: 0\nException clauses: 0\nIntercepts: 0\nRoutes: 2\n\n" ++
          "Routes:\n  (route1) outputs=1\n  route1 outputs=1\n") ∧
    ¬ ∀ (c : Context) (parents : List Bindings) (a : Assembled),
      (c.assemble parents).outcome = .ok a → ∀ (i : Nat) (r : Route), c.routes[i]? = some r →
        (a.routes[i]?).map Route.id = some (bareId r i) := by
  intro c
  have found : ((c.assemble []).outcome.map fun a => a.routes.map Route.id) =
      .ok ["route1_", "route1"] := by
    decide
  obtain ⟨a, assembled, ids⟩ := map_eq_ok_iff.mp found
  refine ⟨⟨a, assembled, ids, by decide +kernel⟩, fun agree => ?_⟩
  have first := agree c [] a assembled 0 _ rfl
  rw [← List.getElem?_map, ids] at first
  revert first
  decide

end Context

end RouteLoom
