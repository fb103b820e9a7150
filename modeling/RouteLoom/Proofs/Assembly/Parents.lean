import RouteLoom.Proofs.Assembly.Pass
import RouteLoom.Proofs.Interception.Discovery
import RouteLoom.Proofs.Interception.Preparation

/-!
# Parents only add

A pass looks beans up in three places: for the error handler, for the built-in strategies, and for
every requirement of every intercept that is prepared for a route. A pass that succeeds has found
the first and the last, and levels behind the registry do not change what was found. For a strategy,
finding nothing is an answer too, and this one can change.
-/

namespace RouteLoom

variable {large : Registry}

/-! ### Weaves -/

namespace Weaver

variable {w : Weaver} {route : String} {i p : Interception} {is : List Interception} {r : Route}

theorem accept_of_extends (larger : large.Extends w.registry) (accepted : w.accept route i = .ok p) :
    Weaver.accept { w with registry := large } route i = .ok p := by
  obtain ⟨prepared, given⟩ := accept_eq_ok_iff.mp accepted
  exact accept_eq_ok_iff.mpr ⟨Interception.prepare_of_extends larger prepared, given⟩

/-- Where a weave succeeds, all beans that it needs were found, and more levels change nothing. -/
theorem run_of_extends (larger : large.Extends w.registry) (succeeds : (w.run r is).fault = none) :
    Weaver.run { w with registry := large } r is = w.run r is := by
  have all := (accepted_of_succeeds succeeds).1
  refine run_congr rfl fun i hi => ?_
  obtain ⟨k, hk, rfl⟩ := List.getElem_of_mem hi
  have accepted : w.accept r.id is[k] = .ok _ := all.get hk (all.length_eq ▸ hk)
  rw [accepted, accept_of_extends larger accepted]

end Weaver

/-! ### Contexts -/

namespace Context

variable {c : Context} {small : Registry} {handler : Option String}

theorem handler_of_extends (larger : large.Extends small)
    (found : c.errorHandler.mapM small.lookupName = .ok handler) :
    c.errorHandler.mapM large.lookupName = .ok handler := by
  cases wanted : c.errorHandler with
  | none =>
    rw [wanted] at found
    exact found
  | some name =>
    rw [wanted] at found
    obtain ⟨bean, named, same⟩ := map_eq_ok_iff.mp found
    exact map_eq_ok_iff.mpr ⟨bean, larger.lookupName_eq_ok named, same⟩

theorem settle_of_extends (larger : large.Extends small)
    (same : ∀ type ∈ Strategy.reservedTypes, large.lookupType type = small.lookupType type)
    {found : List Finding × Option String × List Strategy} (settled : c.settle small = .ok found) :
    c.settle large = .ok found := by
  obtain ⟨valid, findings, handler, discovered⟩ := settle_eq_ok_iff.mp settled
  refine settle_eq_ok_iff.mpr ⟨valid, findings, handler_of_extends larger handler, ?_⟩
  rwa [Strategy.discover_congr same]

/-- A parent only adds. A lookup that found a bean or was in doubt between several is answered alike
with any levels behind the registry. So a context that is assembled is assembled alike, with the same
events, if levels without a bean of a reserved type are put behind its parents. -/
theorem assemble_behind (more : List Bindings) :
    (∀ r : Registry, (r.behind more).Extends r) ∧
    ∀ (c : Context) (parents : List Bindings) (a : Assembled),
      (c.assemble parents).outcome = .ok a →
      (∀ level ∈ more, ∀ type ∈ Strategy.reservedTypes, level.namesOf type = []) →
      c.assemble (parents ++ more) = c.assemble parents := by
  refine ⟨fun r => r.extends_behind more, fun c parents a assembled lacking => ?_⟩
  obtain ⟨strategies, done⟩ := assembled_iff.mp assembled
  have larger : (c.registry (parents ++ more)).Extends (c.registry parents) :=
    (c.registry parents).extends_behind more
  have reserved (type : String) (ht : type ∈ Strategy.reservedTypes) :
      (c.registry (parents ++ more)).lookupType type = (c.registry parents).lookupType type :=
    Registry.lookupType_behind_of_lacking (r := c.registry parents)
      fun level hl => lacking level hl type ht
  refine assemble_congr rfl rfl rfl ?_ ?_
  · rw [done.settled]
    exact settle_of_extends larger reserved done.settled
  · intro findings handler others settled r hr
    rw [done.settled] at settled
    cases settled
    exact Weaver.run_of_extends larger (done.succeeds r hr)

/-- Both levels behind have another logger, which would be one too many on the context's own level,
and the second has beans of the names that the context asks for. -/
theorem assemble_behind_loggers :
    let audit : Intercept :=
      ⟨"audit", [⟨"log", none, some "Logger"⟩, ⟨"store", some "disk", none⟩],
        [Node.step "bean:${log}", Node.marker, Node.step "bean:${store}"], .empty⟩
    let c : Context :=
      { Context.standard with
        beans := .ofList [("disk", "Store"), ("file", "Logger"), ("rescue", "Handler")]
        intercepts := [audit]
        routes := [⟨"", [Node.step "direct:in"]⟩, ⟨"orders", []⟩]
        trace := some true
        errorHandler := some "rescue" }
    let more : List Bindings :=
      [.ofList [("net", "Logger")], .ofList [("disk", "Logger"), ("rescue", "Logger")]]
    (∃ a, (c.assemble []).outcome = .ok a) ∧
      (∀ level ∈ more, ∀ type ∈ Strategy.reservedTypes, level.namesOf type = []) ∧
      (c.registry more).lookupType "Logger" = .ok "file" ∧
      ((c.registry []).behind more).Extends (c.registry []) ∧
      c.assemble more = c.assemble [] := by
  intro audit c more
  have ids : ((c.assemble []).outcome.map fun a => a.id) = .ok "routeweave" := by decide
  obtain ⟨a, assembled, -⟩ := map_eq_ok_iff.mp ids
  have lacking : ∀ level ∈ more, ∀ type ∈ Strategy.reservedTypes, level.namesOf type = [] := by
    decide
  obtain ⟨larger, same⟩ := assemble_behind more
  exact ⟨⟨a, assembled⟩, lacking, by decide, larger _, same c [] a assembled lacking⟩

/-- A bean of a reserved type behind the context turns a strategy on. -/
example :
    let c : Context := { Context.standard with routes := [⟨"orders", [Node.step "direct:in"]⟩] }
    let parent : Bindings := .ofList [("dbg", Strategy.debuggerType)]
    (c.assemble []).events = [.started "routeweave" 1 0, .woven "orders" 0 0, .completed "routeweave" 1] ∧
      (c.assemble [parent]).events = [.started "routeweave" 1 1, .applied "orders" "debugger" 1,
        .woven "orders" 0 1, .completed "routeweave" 1] := by
  decide

end Context

end RouteLoom
