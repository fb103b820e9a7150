import RouteLoom.Interception.Any
import RouteLoom.Proofs.FirstFault
import RouteLoom.Proofs.Weaving.Layers
import Mathlib.Data.List.ModifyLast

/-!
# Weaving in place

Weaving can also be described as a loop that works on the route itself. Each turn parts whatever
stands at the route's top level anew, takes all of it out, puts the clauses back, and appends a
proxy that gets the rest. That the two agree rests on what holds between the turns: the clauses come
first, and behind them stands the tower of the turns so far.
-/

namespace RouteLoom

variable {ι : Type} [Interceptor ι]

open Interceptor

/-! ### The loop -/

mutual

def Node.fillFirst (more : Forest) : Node → Option Node
  | ⟨kind, id, outputs⟩ =>
    if kind = .proceed then some ⟨kind, id, outputs ++ more⟩
    else (Forest.fillFirst more outputs).map (⟨kind, id, ·⟩)

/-- The forest with more outputs for the first proceed marker that is met on the way down, from the
left to the right, if there is one. -/
def Forest.fillFirst (more : Forest) : Forest → Option Forest
  | [] => none
  | n :: rest =>
    match n.fillFirst more with
    | some filled => some (filled :: rest)
    | none => (Forest.fillFirst more rest).map (n :: ·)

end

namespace InPlace

/-- One turn of the loop. A fault leaves the route as the turn has changed it until then. -/
def turn (registry : Registry) (i : ι) : ExceptT Fault (StateM Route) Unit := do
  let (clauses, rest) := (← get).outputs.partition Node.isClause
  modify fun r => { r with outputs := [] }
  modify (·.addOutputs clauses)
  let prepared ← MonadExcept.ofExcept (prepare registry i)
  modify (·.addOutputs [proxy prepared])
  modify fun r => { r with outputs := r.outputs.modifyLast fun n => (n.fillFirst rest).getD n }

def weave (registry : Registry) (clauses : Forest) (is : List ι) :
    ExceptT Fault (StateM Route) Unit := do
  modify (·.addOutputs clauses)
  is.forM (turn registry)

end InPlace

/-! ### Filling the first marker -/

mutual

/-- To fill the first marker on the way down is to find its address and to go there again. -/
theorem Node.fillFirst_eq (more : Forest) (n : Node) :
    n.fillFirst more = n.firstMarker.bind fun a => Node.update (·.addOutputs more) a n := by
  cases n with
  | mk kind id outputs =>
    rw [Node.fillFirst, Node.firstMarker]
    split
    next => rfl
    next =>
      rw [Forest.fillFirst_eq more outputs]
      cases found : Forest.firstMarker outputs with
      | none => rfl
      | some a =>
        rw [Option.bind_some, Option.bind_some,
          Node.update_of_ne_nil (Forest.ne_nil_of_firstMarker found)]
        rfl
termination_by sizeOf n

theorem Forest.fillFirst_eq (more f : Forest) :
    Forest.fillFirst more f = (Forest.firstMarker f).bind fun a => Forest.appendAt a more f := by
  cases f with
  | nil => simp [Forest.fillFirst]
  | cons n rest =>
    rw [Forest.fillFirst, Node.fillFirst_eq more n, Forest.fillFirst_eq more rest]
    cases hn : n.firstMarker with
    | some a =>
      obtain ⟨m, hm, -⟩ := Node.at?_firstMarker n hn
      have standing : (Node.update (·.addOutputs more) a n).isSome := by
        rw [Node.isSome_update, hm]
        rfl
      obtain ⟨n', hn'⟩ := Option.isSome_iff_exists.mp standing
      rw [Forest.firstMarker_cons_of_some hn, Option.bind_some, Option.bind_some, Forest.appendAt,
        Forest.update_zero_cons, hn']
      rfl
    | none =>
      rw [Forest.firstMarker_cons_of_none hn, Option.bind_none]
      cases Forest.firstMarker rest with
      | none => rfl
      | some a =>
        rw [Option.map_some, Option.bind_some, Option.bind_some, Forest.appendAt, Forest.appendAt,
          Forest.update_shift]
termination_by sizeOf f

end

theorem Interceptor.fillFirst_proxy (i : ι) (wrapped : Forest) :
    ((proxy i).fillFirst wrapped).getD (proxy i) = around i wrapped := by
  rw [proxy, Node.proxy, Node.fillFirst, if_neg (by simp), Forest.fillFirst_eq]
  cases found : (body i).firstMarker with
  | none =>
    rw [around_of_none found]
    rfl
  | some a =>
    obtain ⟨marker, filled, e⟩ := Forest.exists_embeds wrapped found
    rw [around_of_embeds e, Option.bind_some, e.appended]
    rfl

/-! ### The turns -/

namespace InPlace

variable {registry : Registry} {i p : ι}

theorem run_bind {α : Type} {action : ExceptT Fault (StateM Route) α} {a : α} {r r' : Route}
    (done : action.run.run r = (.ok a, r')) (next : α → ExceptT Fault (StateM Route) Unit) :
    (action >>= next).run.run r = (next a).run.run r' :=
  run_bind_of_ok done next

theorem run_modify (g : Route → Route) (r : Route) :
    (modify g : ExceptT Fault (StateM Route) Unit).run.run r = (.ok (), g r) := rfl

/-- A turn hoists the clauses of the top level and leaves one proxy around all else. -/
theorem run_turn (prepared : prepare registry i = .ok p) (r : Route) :
    (turn registry i).run.run r = (.ok (), ⟨r.id, r.outputs.filter Node.isClause ++
      [around p (r.outputs.filter fun n => !n.isClause)]⟩) := by
  have read : (get : ExceptT Fault (StateM Route) Route).run.run r = (.ok r, r) := rfl
  have taken (r : Route) : (MonadExcept.ofExcept (prepare registry i) :
      ExceptT Fault (StateM Route) ι).run.run r = (.ok p, r) := by
    rw [prepared]
    rfl
  rw [turn, run_bind read, List.partition_eq_filter_filter]
  dsimp only
  rw [run_bind (run_modify _ _), run_bind (run_modify _ _), run_bind (taken _),
    run_bind (run_modify _ _), run_modify]
  simp only [Route.addOutputs, List.nil_append, List.modifyLast_concat, fillFirst_proxy]
  rfl

/-- Turns on a route whose clauses come first: they stay there, and a tower grows behind them. -/
theorem run_turns {is ps : List ι}
    (prepared : List.Forall₂ (fun i p => prepare registry i = .ok p) is ps) (id : String)
    {clauses own : Forest} (first : ∀ n ∈ clauses, n.isClause = true)
    (behind : ∀ n ∈ own, n.isClause = false) :
    (is.forM (turn registry)).run.run ⟨id, clauses ++ own⟩ =
      (.ok (), ⟨id, clauses ++ tower own ps⟩) := by
  induction prepared generalizing own with
  | nil => rfl
  | @cons i p is ps hi _ ih =>
    obtain ⟨hoisted, rest⟩ := Weaver.filter_isClause_append first behind
    have turned := run_turn hi ⟨id, clauses ++ own⟩
    rw [hoisted, rest] at turned
    have proxied : ∀ n ∈ [around p own], n.isClause = false := fun n hn => by
      rw [List.mem_singleton.mp hn, isClause_around]
    rw [tower_cons, ← ih proxied]
    exact run_bind turned _

end InPlace

/-! ### The two agree -/

namespace Weaver

variable {w : Weaver} {is : List ι}

theorem acceptance_of_prepared (route : String)
    (prepared : ∀ i ∈ is, ∃ p, prepare w.registry i = .ok p)
    (marked : w.options.missingProceed = .reject → ∀ i ∈ is, ∀ p,
      prepare w.registry i = .ok p → Forest.any Node.isMarker (body p) = true) :
    (w.acceptance route is).fault = none ∧
      List.Forall₂ (fun i p => prepare w.registry i = .ok p) is
        (w.acceptance route is).applied := by
  obtain ⟨front, back, split, accepted, ⟨rfl, none, -⟩ | ⟨i, rest, f, p, rfl, refused, -⟩⟩ :=
    acceptance_cases w route is
  · rw [List.append_nil] at split
    rw [split] at accepted ⊢
    exact ⟨split ▸ none, accepted.imp fun i p h => (accept_eq_ok_iff.mp h).1⟩
  · have hi : i ∈ is := by simp [split]
    rcases accept_eq_error_iff.mp refused with ⟨failed, -⟩ | ⟨reject, hp, unmarked, -⟩
    · obtain ⟨q, hq⟩ := prepared i hi
      rw [failed] at hq
      cases hq
    · obtain ⟨a, found⟩ := Forest.exists_firstMarker_of_any (marked reject i hi p hp)
      rw [unmarked] at found
      cases found

/-- Where every preparation succeeds, and every proxy has a marker or may lack one, the weaver does
what the loop does. -/
theorem run_refines_inPlace (w : Weaver) (r : Route) (is : List ι) (nonempty : is ≠ [])
    (prepared : ∀ i ∈ is, ∃ p, prepare w.registry i = .ok p)
    (marked : w.options.missingProceed = .reject → ∀ i ∈ is, ∀ p,
      prepare w.registry i = .ok p → Forest.any Node.isMarker (body p) = true) :
    (w.run r is).fault = none ∧
      (InPlace.weave w.registry w.clauses is).run.run r = (.ok (), (w.run r is).route) := by
  obtain ⟨none, applied⟩ := acceptance_of_prepared r.id prepared marked
  rw [run_eq, build]
  refine ⟨none, ?_⟩
  generalize (w.acceptance r.id is).applied = ps at applied
  cases applied with
  | nil => exact absurd rfl nonempty
  | @cons i p is ps hi rest =>
    have turned := InPlace.run_turn hi (r.addOutputs w.clauses)
    have proxied : ∀ n ∈ [around p (w.own r)], n.isClause = false := fun n hn => by
      rw [List.mem_singleton.mp hn, isClause_around]
    have turns := InPlace.run_turns rest r.id (fun n => w.isClause_of_mem_front r) proxied
    dsimp only
    rw [tower_cons, ← turns]
    exact (InPlace.run_bind rfl _).trans (InPlace.run_bind turned _)

/-- A route with a clause between its nodes, woven strictly, and leniently with an intercept more
that has no marker. -/
theorem run_refines_inPlace_audit :
    let registry : Registry := ⟨.ofList [("logger", "Logger")], []⟩
    let clauses : Forest := [⟨.onException ["IoError"] true, none, []⟩]
    let strict : Weaver := ⟨registry, clauses, .standard⟩
    let lenient : Weaver := ⟨registry, clauses, .lenient⟩
    let r : Route := ⟨"orders", [Node.step "direct:in", ⟨.onException [] false, none, []⟩, Node.marker]⟩
    let audit : Interception := .declared ⟨"audit", [⟨"log", none, some "Logger"⟩],
      [Node.step "bean:${log}", ⟨.proceed, none, [Node.step "log:in"]⟩, Node.marker], .empty⟩
    let mute : Interception := .declared ⟨"mute", [], [Node.step "log:mute"], .empty⟩
    let debugger : Interception := .builtIn (.debugger "dbg")
    ((strict.run r [audit, debugger]).fault = none ∧
      (InPlace.weave registry clauses [audit, debugger]).run.run r =
        (.ok (), (strict.run r [audit, debugger]).route)) ∧
    ((lenient.run r [audit, mute, debugger]).fault = none ∧
      (InPlace.weave registry clauses [audit, mute, debugger]).run.run r =
        (.ok (), (lenient.run r [audit, mute, debugger]).route)) := by
  intro registry clauses strict lenient r audit mute debugger
  have audited : prepare registry audit = .ok (.declared ⟨"audit", [⟨"log", none, some "Logger"⟩],
      [Node.step "bean:${log}", ⟨.proceed, none, [Node.step "log:in"]⟩, Node.marker],
      .ofList [("log", "logger")]⟩) := by decide
  have unchanged (i : Interception) (h : i = mute ∨ i = debugger) : prepare registry i = .ok i := by
    rcases h with rfl | rfl <;> decide
  constructor
  · refine strict.run_refines_inPlace r [audit, debugger] (by simp) ?_ ?_
    · simp [strict, audited, unchanged]
    · intro _ i hi p hp
      rcases List.mem_pair.mp hi with rfl | rfl
      · cases audited.symm.trans hp
        decide
      · cases (unchanged debugger (.inr rfl)).symm.trans hp
        decide
  · refine lenient.run_refines_inPlace r [audit, mute, debugger] (by simp) ?_ nofun
    simp [lenient, audited, unchanged]

end Weaver

end RouteLoom
