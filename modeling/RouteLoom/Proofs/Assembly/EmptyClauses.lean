import RouteLoom.Proofs.Assembly.Proxies

/-!
# Exception clauses that catch nothing

What stands below a clause of the context, or in a template, is not examined. So an assembled route
has the empty clauses that stand below the context's clauses, and those of the templates, as far as
they are not dropped, and no others.
-/

namespace RouteLoom

open Interceptor

/-! ### Counting through templates -/

theorem Node.byLabel_emptyClause : Node.ByLabel Rule.emptyClause := fun n m same => by
  have kind : n.kind = m.kind := congrArg Prod.fst same
  rw [Rule.emptyClause, Rule.emptyClause, kind]

theorem Node.emptyClause_expand (b : Bindings) (n : Node) :
    Rule.emptyClause (n.expand b) = Rule.emptyClause n := by
  obtain ⟨kind, id, outputs⟩ := n
  cases kind <;> rfl

theorem Node.exceptions_ne_nil {n : Node} (filled : Rule.emptyClause n = false)
    {exceptions : List String} {handled : Bool} (kind : n.kind = .onException exceptions handled) :
    exceptions ≠ [] := by
  rintro rfl
  rw [Rule.emptyClause, kind] at filled
  cases filled

namespace Forest

variable {p : Node → Bool}

theorem count_filter_eq_zero {f : Forest} (none : count p f = 0) (keep : Node → Bool) :
    count p (f.filter keep) = 0 := by
  induction f with
  | nil => exact count_nil p
  | cons n rest ih =>
    rw [count_cons] at none
    rw [List.filter_cons]
    split
    · rw [count_cons, ih (by omega)]
      omega
    · exact ih (by omega)

/-- How many nodes with `p` there are when templates are nested around nodes with so many of them,
innermost first. Each template adds its own, and one without a marker loses those it wraps. -/
def countNested (p : Node → Bool) (wrapped : Nat) (templates : List Forest) : Nat :=
  templates.foldl (fun n t => count p t + if any Node.isMarker t then n else 0) wrapped

theorem countNested_append (wrapped : Nat) (front back : List Forest) :
    countNested p wrapped (front ++ back) = countNested p (countNested p wrapped front) back :=
  List.foldl_append

theorem countNested_eq_zero {templates : List Forest} (free : ∀ t ∈ templates, count p t = 0) :
    countNested p 0 templates = 0 := by
  induction templates with
  | nil => rfl
  | cons t rest ih =>
    obtain ⟨first, others⟩ := List.forall_mem_cons.mp free
    rw [countNested, List.foldl_cons, first, ite_self]
    exact ih others

end Forest

open Forest

namespace Weaver

variable {w : Weaver} {route : String} {is ps : List Interception}

/-- A tower's nodes of a kind can be counted before anything is prepared. -/
theorem count_tower_of_accepted {p : Node → Bool} (by_label : Node.ByLabel p)
    (proxies : ∀ name body, p (Node.proxy name body) = false)
    (same : ∀ b n, p (Node.expand b n) = p n)
    (accepted : List.Forall₂ (fun i q => w.accept route i = .ok q) is ps) (own : Forest) :
    count p (tower own ps) = countNested p (count p own) (is.map Interception.template) := by
  -- The next proxy wraps what the first one made of `own`.
  induction accepted generalizing own with
  | nil => rfl
  | @cons i q is ps here _ ih =>
    have kept : q.template = i.template :=
      (Interception.template_of_prepare (accept_eq_ok_iff.mp here).1).2
    have body_count : count p (body q) = count p i.template := by
      rw [Interception.count_body same, kept]
    have marker : (body q).firstMarker = none ↔ any Node.isMarker i.template = false := by
      rw [Interception.firstMarker_body, kept, firstMarker_eq_none_iff]
    have step : count p [around q own] =
        count p i.template + if any Node.isMarker i.template then count p own else 0 := by
      rw [count_around by_label proxies, body_count]
      cases marked : any Node.isMarker i.template with
      | true => rw [if_neg (by simp [marker, marked]), if_pos rfl]
      | false => rw [if_pos (marker.mpr marked), if_neg Bool.false_ne_true]
    rw [tower_cons, ih, step]
    rfl

end Weaver

/-! ### Assembled contexts -/

namespace Context

variable {c : Context}

theorem Valid.count_clauseNodes (valid : c.Valid) :
    count Rule.emptyClause c.clauseNodes =
      count Rule.emptyClause (c.clauses.flatMap Clause.outputs) := by
  have named : ∀ e ∈ c.clauses, e.exceptions ≠ [] := fun e => valid.exceptions_ne_nil
  rw [clauseNodes]
  generalize c.clauses = clauses at named
  induction clauses with
  | nil => exact count_nil _
  | cons e rest ih =>
    obtain ⟨first, others⟩ := List.forall_mem_cons.mp named
    have filled : Rule.emptyClause e.node = false := List.isEmpty_eq_false_iff.mpr first
    rw [List.map_cons, count_cons, filled, if_neg Bool.false_ne_true, ih others, Nat.zero_add,
      List.flatMap_cons, count_append]
    rfl

theorem countNested_interceptors (c : Context) (strategies : List Strategy) :
    countNested Rule.emptyClause 0 ((c.interceptors strategies).map Interception.template) =
      countNested Rule.emptyClause 0 (c.intercepts.map Intercept.template) := by
  have builtIn : countNested Rule.emptyClause 0
      ((strategies.map Interception.builtIn).map Interception.template) = 0 := by
    refine countNested_eq_zero fun t ht => ?_
    rw [List.map_map] at ht
    obtain ⟨s, -, rfl⟩ := List.mem_map.mp ht
    rfl
  rw [interceptors, List.map_append, countNested_append, builtIn, List.map_map]
  rfl

/-- The empty clauses of an assembled route are those that stand below the context's clauses and
those that the templates bring. So if neither declares one, every clause of the route, at any depth,
names an exception. -/
theorem assemble_emptyClauses (c : Context) (parents : List Bindings) {a : Assembled}
    (assembled : (c.assemble parents).outcome = .ok a) {route : Route} (hroute : route ∈ a.routes) :
    count Rule.emptyClause route.outputs =
      count Rule.emptyClause (c.clauses.flatMap Clause.outputs) +
        countNested Rule.emptyClause 0 (c.intercepts.map Intercept.template) ∧
    (any Rule.emptyClause (c.clauses.flatMap Clause.outputs) = false →
      (∀ i ∈ c.intercepts, any Rule.emptyClause i.template = false) →
      ∀ place n exceptions handled, route.at? place = some n →
        n.kind = .onException exceptions handled → exceptions ≠ []) := by
  obtain ⟨valid, strategies, succeeds, routes, -⟩ := woven_of_assembled assembled
  rw [routes] at hroute
  obtain ⟨r, hr, rfl⟩ := List.mem_map.mp hroute
  obtain ⟨declared, hdeclared, outputs⟩ := exists_route_of_mem_assignIds hr
  have free : count Rule.emptyClause r.outputs = 0 := by
    rw [outputs]
    exact valid.route_declares_no_empty_clause hdeclared
  have clauses := c.isClause_of_mem_clauseNodes
  have all : count Rule.emptyClause (c.weave (c.registry parents) strategies r).route.outputs =
      count Rule.emptyClause (c.clauses.flatMap Clause.outputs) +
        countNested Rule.emptyClause 0 (c.intercepts.map Intercept.template) := by
    have accepted := (Weaver.accepted_of_succeeds (succeeds r hr)).1
    rw [weave, Weaver.outputs_run, count_append, Weaver.front_eq clauses, Weaver.own_eq _ _ clauses,
      count_append, count_filter_eq_zero free, Nat.zero_add,
      Weaver.count_tower_of_accepted Node.byLabel_emptyClause (fun _ _ => rfl)
        Node.emptyClause_expand accepted, count_filter_eq_zero free, countNested_interceptors]
    rw [← valid.count_clauseNodes]
    rfl
  refine ⟨all, fun below templates place n exceptions handled hn kind => ?_⟩
  have none : count Rule.emptyClause (c.weave (c.registry parents) strategies r).route.outputs = 0 := by
    rw [all, count_eq_zero_iff.mpr below, Nat.zero_add]
    refine countNested_eq_zero fun t ht => ?_
    obtain ⟨i, hi, rfl⟩ := List.mem_map.mp ht
    exact count_eq_zero_iff.mpr (templates i hi)
  exact Node.exceptions_ne_nil (eq_false_of_at? none hn) kind

/-- A lenient pass over two routes, where clauses stand below a clause of the context and in the
templates, all of them with exceptions. The second intercept drops what the first one brought. -/
theorem assemble_emptyClauses_audit :
    let late : Node := ⟨.onException ["Timeout"] false, some "late", []⟩
    let audit : Intercept := ⟨"audit", [], [Node.step "log:in", late, Node.marker], .empty⟩
    let mute : Intercept := ⟨"mute", [], [late, Node.step "log:mute"], .empty⟩
    let c : Context :=
      { Context.standard with
        clauses := [⟨["IoError"], true, [late, Node.step "log:error"]⟩]
        intercepts := [audit, mute]
        routes := [⟨"", [Node.step "direct:in"]⟩, ⟨"orders", [late, Node.step "direct:out"]⟩]
        options := .lenient
        trace := some true }
    ∃ a, (c.assemble []).outcome = .ok a ∧ a.routes.length = 2 ∧ ∀ route ∈ a.routes,
      count Rule.emptyClause route.outputs = 0 ∧
      ∀ place n exceptions handled, route.at? place = some n →
        n.kind = .onException exceptions handled → exceptions ≠ [] := by
  intro late audit mute c
  have routes : ((c.assemble []).outcome.map fun a => a.routes.length) = .ok 2 := by decide
  obtain ⟨a, assembled, two⟩ := map_eq_ok_iff.mp routes
  refine ⟨a, assembled, two, fun route hroute => ?_⟩
  obtain ⟨number, named⟩ := assemble_emptyClauses c [] assembled hroute
  exact ⟨number, named (by decide) (by decide)⟩

/-- An empty clause below a clause of the context and one in a template are no errors, and both stand
in the assembled route. -/
theorem assemble_emptyClauses_unseen :
    let c : Context :=
      { Context.standard with
        clauses := [⟨["IoError"], true, [⟨.onException [] false, none, []⟩]⟩]
        intercepts := [⟨"audit", [], [⟨.onException [] true, none, []⟩, Node.marker], .empty⟩]
        routes := [⟨"orders", [Node.step "direct:in"]⟩] }
    ((c.assemble []).outcome.map fun a => a.routes.map fun r =>
        ((r.at? [0, 0]).map Node.kind, (r.at? [1, 0]).map Node.kind)) =
      .ok [(some (.onException [] false), some (.onException [] true))] := by
  decide

end Context

end RouteLoom
