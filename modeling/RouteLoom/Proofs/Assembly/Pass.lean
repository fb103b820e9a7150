import RouteLoom.Assembly.Assembler
import RouteLoom.Proofs.Assembly.RouteIds
import RouteLoom.Proofs.Context.Validity
import RouteLoom.Proofs.Weaving.Layers

/-!
# A pass over a context

Whether an interceptor is accepted does not depend on the route that it is woven around. So the
first route of a pass speaks for all of them: either it cannot be woven and the pass ends there, or
every route is woven. With the faults that come before any route, a pass has three endings.
-/

namespace RouteLoom

/-! ### One route speaks for all -/

namespace Weaver

section

variable {ι : Type} [Interceptor ι] {w : Weaver} {is : List ι}

theorem acceptance_of_succeeds {a : String} (succeeds : (w.acceptance a is).fault = none)
    (b : String) : w.acceptance b is = w.acceptance a is := by
  induction is with
  | nil => rfl
  | cons i rest ih =>
    cases here : w.accept a i with
    | error refused =>
      rw [acceptance_cons_error here] at succeeds
      cases succeeds
    | ok p =>
      have there : w.accept b i = .ok p := accept_eq_ok_iff.mpr (accept_eq_ok_iff.mp here)
      rw [acceptance_cons_ok here] at succeeds ⊢
      rw [acceptance_cons_ok there, ih succeeds]

/-- What can be woven around one route can be woven around any. -/
theorem succeeds_of_succeeds {r : Route} (succeeds : (w.run r is).fault = none) (r' : Route) :
    (w.run r' is).fault = none := by
  rw [run_eq] at succeeds ⊢
  rw [build, acceptance_of_succeeds succeeds r'.id]
  exact succeeds

end

/-! ### The routes of a pass -/

variable {w : Weaver} {is : List Interception} {r : Route} {routes rest : List Route} {f : Fault}

theorem runAll_of_fault (fault : (w.run r is).fault = some f) (rest : List Route) :
    w.runAll is (r :: rest) = ([.failed r.id f.message], .error (.assembly r.id f)) := by
  rw [runAll]
  dsimp only
  rw [fault]

theorem runAll_of_succeeds (succeeds : ∀ r ∈ routes, (w.run r is).fault = none) :
    w.runAll is routes =
      (routes.flatMap fun r => reportEvents (w.run r is).report,
        .ok (routes.map fun r => ((w.run r is).route, (w.run r is).report))) := by
  induction routes with
  | nil => rfl
  | cons r rest ih =>
    obtain ⟨first, others⟩ := List.forall_mem_cons.mp succeeds
    rw [runAll]
    dsimp only
    rw [first, ih others]
    rfl

theorem runAll_cases (w : Weaver) (is : List Interception) (routes : List Route) :
    (∃ r rest f, routes = r :: rest ∧ (w.run r is).fault = some f ∧
      w.runAll is routes = ([.failed r.id f.message], .error (.assembly r.id f))) ∨
    (∀ r ∈ routes, (w.run r is).fault = none) ∧
      w.runAll is routes =
        (routes.flatMap fun r => reportEvents (w.run r is).report,
          .ok (routes.map fun r => ((w.run r is).route, (w.run r is).report))) := by
  cases routes with
  | nil => exact .inr ⟨nofun, rfl⟩
  | cons r rest =>
    cases fault : (w.run r is).fault with
    | some f => exact .inl ⟨r, rest, f, rfl, fault, runAll_of_fault fault rest⟩
    | none =>
      have all : ∀ r' ∈ r :: rest, (w.run r' is).fault = none := fun r' _ =>
        succeeds_of_succeeds fault r'
      exact .inr ⟨all, runAll_of_succeeds all⟩

theorem runAll_congr {w' : Weaver} (same : ∀ r ∈ routes, w'.run r is = w.run r is) :
    w'.runAll is routes = w.runAll is routes := by
  induction routes with
  | nil => rfl
  | cons r rest ih =>
    obtain ⟨first, others⟩ := List.forall_mem_cons.mp same
    rw [runAll, runAll, first, ih others]

end Weaver

/-! ### The endings of a pass -/

namespace Context

def interceptors (c : Context) (strategies : List Strategy) : List Interception :=
  strategies.map .builtIn ++ c.intercepts.map .declared

def weaver (c : Context) (registry : Registry) : Weaver := ⟨registry, c.clauseNodes, c.options⟩

def weave (c : Context) (registry : Registry) (strategies : List Strategy) (r : Route) :
    Woven Interception :=
  (c.weaver registry).run r (c.interceptors strategies)

theorem settle_eq_ok_iff {c : Context} {registry : Registry}
    {found : List Finding × Option String × List Strategy} :
    c.settle registry = .ok found ↔ c.Valid ∧ found.1 = c.findings ∧
      c.errorHandler.mapM registry.lookupName = .ok found.2.1 ∧
      Strategy.discover registry c.trace c.delay = .ok found.2.2 := by
  obtain ⟨findings, handler, strategies⟩ := found
  rw [settle]
  simp only [bind_eq_ok_iff, validate_eq_ok_iff]
  constructor
  · rintro ⟨_, ⟨valid, rfl⟩, _, hhandler, _, hstrategies, ⟨⟩⟩
    exact ⟨valid, rfl, hhandler, hstrategies⟩
  · rintro ⟨valid, rfl, hhandler, hstrategies⟩
    exact ⟨_, ⟨valid, rfl⟩, _, hhandler, _, hstrategies, rfl⟩

/-- The three endings: before the first event, at the first route, and after the last. -/
inductive Ends (c : Context) (registry : Registry) : Pass → Prop
  | unsettled {f : Fault} (settled : c.settle registry = .error f) : Ends c registry ⟨[], .error f⟩
  | failed {findings : List Finding} {handler : Option String} {strategies : List Strategy}
      {r : Route} {rest : List Route} {f : Fault}
      (settled : c.settle registry = .ok (findings, handler, strategies))
      (routes : assignIds c.routes = r :: rest)
      (fault : (c.weave registry strategies r).fault = some f) :
      Ends c registry
        ⟨[.started c.id c.routes.length (c.interceptors strategies).length, .failed r.id f.message],
          .error (.assembly r.id f)⟩
  | completed {findings : List Finding} {handler : Option String} {strategies : List Strategy}
      (settled : c.settle registry = .ok (findings, handler, strategies))
      (succeeds : ∀ r ∈ assignIds c.routes, (c.weave registry strategies r).fault = none) :
      Ends c registry
        ⟨.started c.id c.routes.length (c.interceptors strategies).length ::
            (assignIds c.routes).flatMap (fun r => reportEvents (c.weave registry strategies r).report) ++
            [.completed c.id c.routes.length],
          .ok
            { id := c.id
              routes := (assignIds c.routes).map fun r => (c.weave registry strategies r).route
              reports := (assignIds c.routes).map fun r => (c.weave registry strategies r).report
              errorHandler := handler
              findings := findings }⟩

theorem ends_assemble (c : Context) (parents : List Bindings) :
    Ends c (c.registry parents) (c.assemble parents) := by
  rw [assemble]
  dsimp only
  cases settled : c.settle (c.registry parents) with
  | error f => exact .unsettled settled
  | ok found =>
    obtain ⟨findings, handler, strategies⟩ := found
    dsimp only
    rcases (c.weaver (c.registry parents)).runAll_cases (c.interceptors strategies)
      (assignIds c.routes) with ⟨r, rest, f, routes, fault, run⟩ | ⟨succeeds, run⟩
    · have ending := Ends.failed settled routes fault
      rw [weaver, interceptors] at run
      rw [run, length_assignIds]
      exact ending
    · have ending := Ends.completed settled succeeds
      rw [weaver, interceptors] at run
      rw [run]
      simp only [length_assignIds, List.map_map, List.length_map]
      exact ending

/-- Two passes are the same if they are over the same routes and intercepts, settle the same before
the first event, and weave each route alike with the strategies that they settle on. -/
theorem assemble_congr {c d : Context} {parents others : List Bindings} (id : d.id = c.id)
    (routes : d.routes = c.routes) (intercepts : d.intercepts = c.intercepts)
    (settled : d.settle (d.registry others) = c.settle (c.registry parents))
    (woven : ∀ findings handler strategies,
      c.settle (c.registry parents) = .ok (findings, handler, strategies) →
        ∀ r ∈ assignIds c.routes,
          d.weave (d.registry others) strategies r = c.weave (c.registry parents) strategies r) :
    d.assemble others = c.assemble parents := by
  rw [assemble, assemble]
  dsimp only
  rw [settled, id, routes, intercepts]
  -- A pass that is not settled has no weaves.
  cases found : c.settle (c.registry parents) with
  | error f => rfl
  | ok settlement =>
    obtain ⟨findings, handler, strategies⟩ := settlement
    have same_interceptors : d.interceptors strategies = c.interceptors strategies := by
      rw [interceptors, interceptors, intercepts]
    have same : (d.weaver (d.registry others)).runAll (c.interceptors strategies)
          (assignIds c.routes) =
        (c.weaver (c.registry parents)).runAll (c.interceptors strategies) (assignIds c.routes) := by
      refine Weaver.runAll_congr fun r hr => ?_
      have alike := woven findings handler strategies found r hr
      rwa [weave, weave, same_interceptors] at alike
    rw [weaver, weaver, interceptors] at same
    dsimp only
    rw [same]

/-! ### Passes that succeed -/

/-- What a pass that succeeds has found and made: every route was woven to its end under the id that
it is given. -/
structure Completes (c : Context) (registry : Registry) (strategies : List Strategy)
    (a : Assembled) : Prop where
  valid : c.Valid
  handler : c.errorHandler.mapM registry.lookupName = .ok a.errorHandler
  discovered : Strategy.discover registry c.trace c.delay = .ok strategies
  succeeds : ∀ r ∈ assignIds c.routes, (c.weave registry strategies r).fault = none
  id : a.id = c.id
  routes : a.routes = (assignIds c.routes).map fun r => (c.weave registry strategies r).route
  reports : a.reports = (assignIds c.routes).map fun r => (c.weave registry strategies r).report
  findings : a.findings = c.findings

theorem Completes.settled {c : Context} {registry : Registry} {strategies : List Strategy}
    {a : Assembled} (done : c.Completes registry strategies a) :
    c.settle registry = .ok (c.findings, a.errorHandler, strategies) :=
  settle_eq_ok_iff.mpr ⟨done.valid, rfl, done.handler, done.discovered⟩

theorem Completes.assembled {c : Context} {parents : List Bindings} {strategies : List Strategy}
    {a : Assembled} (done : c.Completes (c.registry parents) strategies a) :
    (c.assemble parents).outcome = .ok a := by
  have woven : Weaver.runAll ⟨c.registry parents, c.clauseNodes, c.options⟩
      (strategies.map .builtIn ++ c.intercepts.map .declared) (assignIds c.routes) = _ :=
    Weaver.runAll_of_succeeds done.succeeds
  rw [assemble]
  dsimp only
  rw [done.settled]
  dsimp only
  rw [woven]
  obtain ⟨id, routes, reports, handler, findings⟩ := a
  simp only [List.map_map, ← done.id, ← done.findings, Except.ok.injEq, Assembled.mk.injEq, true_and,
    and_true]
  exact ⟨done.routes.symm, done.reports.symm⟩

theorem assembled_iff {c : Context} {parents : List Bindings} {a : Assembled} :
    (c.assemble parents).outcome = .ok a ↔
      ∃ strategies, c.Completes (c.registry parents) strategies a := by
  refine ⟨fun assembled => ?_, fun ⟨_, done⟩ => done.assembled⟩
  have ends := c.ends_assemble parents
  generalize c.assemble parents = pass at ends assembled
  cases ends with
  | unsettled settled => cases assembled
  | failed settled routes fault => cases assembled
  | @completed _ _ strategies settled succeeds =>
    cases assembled
    obtain ⟨valid, findings, handler, discovered⟩ := settle_eq_ok_iff.mp settled
    exact ⟨strategies, valid, handler, discovered, succeeds, rfl, rfl, rfl, findings⟩

/-- A pass that succeeds has woven every route of a valid context, each to its end. -/
theorem woven_of_assembled {c : Context} {parents : List Bindings} {a : Assembled}
    (assembled : (c.assemble parents).outcome = .ok a) :
    c.Valid ∧ ∃ strategies,
      (∀ r ∈ assignIds c.routes, (c.weave (c.registry parents) strategies r).fault = none) ∧
      a.routes = (assignIds c.routes).map
        (fun r => (c.weave (c.registry parents) strategies r).route) ∧
      a.reports = (assignIds c.routes).map
        (fun r => (c.weave (c.registry parents) strategies r).report) := by
  obtain ⟨strategies, done⟩ := assembled_iff.mp assembled
  exact ⟨done.valid, strategies, done.succeeds, done.routes, done.reports⟩

end Context

end RouteLoom
