import RouteLoom.Proofs.Format.Context
import RouteLoom.Proofs.Format.Report
import RouteLoom.Proofs.Json.Layout

/-!
# The written form and its reader agree

A value that is written within the limit on nesting is read back from its compact text. What was
read as a context, a node or a route, whatever its text looked like, is within the limit when it is
written, so from then on writing and reading change nothing any more.
-/

namespace RouteLoom

variable {α : Type} {bind : Binder α} {write : α → Json} {j : Json} {a : α} {source : String}

namespace Binder

/-- Every value that is written within the limit is read back from its compact text. -/
def ReadsBack (bind : Binder α) (write : α → Json) : Prop :=
  ∀ a, Json.Fits depthLimit (write a) → bind.parse (write a).compact = .ok a

/-- What was read of any text is read again from its compact text, and that text is written again. -/
def Settles (bind : Binder α) (write : α → Json) : Prop :=
  ∀ source a, bind.parse source = .ok a →
    bind.parse (write a).compact = .ok a ∧
      (bind.parse (write a).compact).map (fun b => (write b).compact) = .ok (write a).compact

theorem Binds.parse (binds : bind.Binds j a) (fits : Json.Fits depthLimit j) :
    bind.parse j.compact = .ok a := by
  rw [parse_eq_ok_iff, Reader.read_compact]
  exact ⟨binds ⟨.text, depthLimit⟩ fits, rfl⟩

theorem readsBack (binds : ∀ a, bind.Binds (write a) a) : bind.ReadsBack write :=
  fun a fits => (binds a).parse fits

/-- It is enough that what was bound can be written in its place and is then bound again. -/
theorem settles (again : ∀ (d : Draft) (a : α), bind ⟨.text, depthLimit⟩ d = .ok a →
    Json.Fits depthLimit (write a) ∧ bind.Binds (write a) a) : bind.Settles write := by
  intro source a parsed
  obtain ⟨bound, -⟩ := parse_eq_ok_iff.mp parsed
  obtain ⟨fits, binds⟩ := again (Draft.read source).draft a bound
  have back := binds.parse fits
  exact ⟨back, by rw [back]; rfl⟩

end Binder

/-- The types that have a written form, each with its reader. -/
structure RoundTrips : Prop where
  kind : Kind.binder.ReadsBack Kind.toJson
  node : Node.binder.ReadsBack Node.toJson
  route : Route.binder.ReadsBack Route.toJson
  requirement : Requirement.binder.ReadsBack Requirement.toJson
  intercept : ∀ i : Intercept, i.resolved = .empty → Json.Fits depthLimit i.toJson →
    Intercept.binder.parse i.toJson.compact = .ok i
  clause : Clause.binder.ReadsBack Clause.toJson
  options : Options.binder.ReadsBack Options.toJson
  context : ∀ c : Context, (∀ i ∈ c.intercepts, i.resolved = .empty) →
    Json.Fits depthLimit c.toJson → Context.binder.parse c.toJson.compact = .ok c
  address : Address.binder.ReadsBack Address.toJson
  points : InsertionPoints.binder.ReadsBack InsertionPoints.toJson
  layer : Layer.binder.ReadsBack Layer.toJson
  report : Report.binder.ReadsBack Report.toJson
  event : Event.binder.ReadsBack Event.toJson
  context_settles : Context.binder.Settles Context.toJson
  node_settles : Node.binder.Settles Node.toJson
  route_settles : Route.binder.Settles Route.toJson

/-- Whatever is written within the limit is read back, and whatever is read stays as it is from then
on. -/
theorem round_trips : RoundTrips where
  kind := Binder.readsBack Kind.binds_toJson
  node := Binder.readsBack Node.binds_toJson
  route := Binder.readsBack Route.binds_toJson
  requirement := Binder.readsBack Requirement.binds_toJson
  intercept i unprepared fits := by
    have back := i.binds_toJson.parse fits
    rwa [← unprepared] at back
  clause := Binder.readsBack Clause.binds_toJson
  options := Binder.readsBack Options.binds_toJson
  context c unprepared fits := (c.binds_toJson unprepared).parse fits
  address := Binder.readsBack Address.binds_toJson
  points := Binder.readsBack InsertionPoints.binds_toJson
  layer := Binder.readsBack Layer.binds_toJson
  report := Binder.readsBack Report.binds_toJson
  event := Binder.readsBack Event.binds_toJson
  context_settles := Binder.settles fun d c bound => by
    obtain ⟨fits, unprepared⟩ := Context.fits_of_binder (by decide) bound
    exact ⟨fits, c.binds_toJson unprepared⟩
  node_settles := Binder.settles fun d n bound =>
    ⟨Node.refits ⟨.text, depthLimit⟩ d n (by decide) bound, n.binds_toJson⟩
  route_settles := Binder.settles fun d r bound =>
    ⟨Route.refits ⟨.text, depthLimit⟩ d r (by decide) bound, r.binds_toJson⟩

/-- A context with a text of escaped characters, the largest delay and outputs of outputs, and a context
whose text has a route as an array, a member of no use, and neither an id nor beans. -/
theorem round_trips_contexts :
    let log : Node := ⟨.step "log:\x01\t\"é\"", some "n\\1", [Node.proxy "p" [Node.marker]]⟩
    let c : Context :=
      { Context.standard with
        beans := .ofList [("store", "Store"), ("file", "")]
        clauses := [⟨["IoError"], true, [log]⟩]
        intercepts := [⟨"audit", [⟨"to", none, some "Store"⟩], [Node.marker], .empty⟩]
        routes := [⟨"", [log, ⟨.onException [] false, none, []⟩]⟩]
        delay := some 18446744073709551615 }
    let source := "\x7b \"routes\": [[]], \"x\": [1.5]\x7d"
    let read : Context := { Context.standard with routes := [⟨"", []⟩] }
    (∀ i ∈ c.intercepts, i.resolved = .empty) ∧ Json.Fits depthLimit c.toJson ∧
      Context.binder.parse c.toJson.compact = .ok c ∧
      Context.binder.parse source = .ok read ∧ read.toJson.compact ≠ source ∧
      Context.binder.parse read.toJson.compact = .ok read := by
  intro log c source read
  have unprepared : ∀ i ∈ c.intercepts, i.resolved = .empty := by decide
  have fits : Json.Fits depthLimit c.toJson := ⟨by decide, by decide⟩
  have parsed : Context.binder.parse source = .ok read := by decide +kernel
  exact ⟨unprepared, fits, round_trips.context c unprepared fits, parsed, by decide +kernel,
    (round_trips.context_settles source read parsed).1⟩

end RouteLoom
