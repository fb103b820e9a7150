import RouteLoom.CommandLine.Answer
import RouteLoom.Proofs.Assembly.Faults
import RouteLoom.Proofs.Assembly.Leniency

/-!
# How the commands agree

Validating a file only examines it. Weaving examines it too, but then looks up beans and weaves, and
a flag puts the lenient policy in place of the one that the file asks for. So what is woven is
valid, what is valid can only fail for want of a bean, and where the flag saves a file that is not
valid, an intercept without a marker was all that was wrong with it.
-/

namespace RouteLoom

/-! ### Findings under the lenient policy -/

namespace Context

variable {c : Context} {registry : Registry} {f : Fault}

/-- If a context is valid under the lenient policy, its own policy adds no errors but those on
missing markers. -/
theorem rule_of_error (valid : (c.under .drop).Valid) {d : Finding} (hd : d ∈ c.findings)
    (severe : d.severity = .error) : d.rule = .proceedMarker := by
  obtain ⟨rule, -, found⟩ := List.mem_flatMap.mp hd
  rw [Rule.rule_of_mem_check found]
  by_contra other
  rw [← check_under other .drop] at found
  exact valid_iff_passes.mp valid rule d found severe

theorem Valid.under_drop (valid : c.Valid) : (c.under .drop).Valid := by
  refine valid_iff_passes.mpr fun rule => ?_
  by_cases marker : rule = .proceedMarker
  · subst marker
    exact Rule.passes_proceedMarker_iff.mpr nofun
  · rw [Rule.Passes, check_under marker]
    exact valid_iff_passes.mp valid rule

/-! ### Failing lookups -/

/-- A lookup of a bean fails, and `f` is the fault it is reported with: for the error handler, for a
strategy whose type is ambiguous, or for a requirement of a declared intercept. -/
inductive LookupFails (c : Context) (registry : Registry) : Fault → Prop
  | handler {name : String} (wanted : c.errorHandler = some name)
      (lacking : registry.LacksName name) :
      LookupFails c registry (.dependencyNotFound ("name '" ++ name ++ "'"))
  | strategy {strategy type : String} {names : List String}
      (asked : (strategy, type) ∈ Strategy.mattering registry c.trace)
      (several : registry.Ambiguous type names) :
      LookupFails c registry
        (.configuration strategy (Fault.ambiguousDependency type names).message)
  | requirement {r : Route} {i : Intercept} {q : Requirement} {g : Fault}
      (route : (assignIds c.routes).head? = some r) (declared : i ∈ c.intercepts)
      (required : q ∈ i.requirements) (unmet : q.Unmet registry g) :
      LookupFails c registry (.assembly r.id (.configuration i.id g.message))

/-- A valid context is refused only because a lookup fails. -/
theorem Refused.lookupFails (refused : c.Refused registry f) (valid : c.Valid) :
    c.LookupFails registry f := by
  cases refused with
  | invalid first severe => exact absurd severe (valid _ first.mem)
  | unhandled _ wanted lacking => exact .handler wanted lacking
  | ambiguous _ _ first several => exact .strategy first.mem several
  | unprepared _ _ _ route first unprepared =>
    obtain ⟨q, required, unmet⟩ := unprepared
    exact .requirement route first.mem required.mem unmet

theorem LookupFails.of_under {p : Policy} (fails : (c.under p).LookupFails registry f) :
    c.LookupFails registry f := by
  cases fails with
  | handler wanted lacking => exact .handler wanted lacking
  | strategy asked several => exact .strategy asked several
  | requirement route declared required unmet =>
    exact .requirement route declared required unmet

theorem assemble_under_drop {parents : List Bindings} {a : Assembled}
    (assembled : (c.assemble parents).outcome = .ok a) :
    (c.under .drop).assemble parents = c.assemble parents := by
  cases policy : c.options.missingProceed with
  | reject =>
    have marked : c.Marked := fun i hi => (woven_of_assembled assembled).1.marked policy hi
    exact marked.assemble_under .drop parents
  | drop => rw [under, ← policy]

end Context

/-! ### Answers -/

namespace Answer

variable {c d : Context} {json lenient : Bool} {f : Fault}

theorem exit_failure (f : Fault) : (failure f).exit = 1 := rfl

theorem weave_lenient (json : Bool) (c : Context) :
    weave json true c = weave json false (c.under .drop) := rfl

theorem weave_congr (same : c.assemble [] = d.assemble []) :
    weave json false c = weave json false d := by
  rw [weave, weave, if_neg Bool.false_ne_true, if_neg Bool.false_ne_true, same]

theorem weave_of_error (failed : (c.assemble []).outcome = .error f) :
    weave json false c = failure f := by
  rw [weave, if_neg Bool.false_ne_true, failed]

theorem exit_weave_iff :
    (weave json false c).exit = 0 ↔ ∃ a, (c.assemble []).outcome = .ok a := by
  rw [weave, if_neg Bool.false_ne_true]
  cases (c.assemble []).outcome with
  | error f => simp [exit_failure]
  | ok a => simp [success]

theorem exit_validate_iff : (validate c).exit = 0 ↔ c.Valid := by
  rw [validate, Context.Valid]
  cases c.findings with
  | nil => simp [success]
  | cons f fs =>
    dsimp only
    split
    next found =>
      obtain ⟨g, hg, severe⟩ := List.any_eq_true.mp found
      exact iff_of_false Nat.one_ne_zero fun valid => valid g hg (of_decide_eq_true severe)
    next none =>
      exact iff_of_true rfl fun g hg severe =>
        none (List.any_eq_true.mpr ⟨g, hg, decide_eq_true severe⟩)

theorem out_validate (invalid : ¬ c.Valid) :
    (validate c).out = String.join (c.findings.map findingText) := by
  rw [validate]
  split
  next none =>
    refine absurd ?_ invalid
    rw [Context.Valid, none]
    exact List.forall_mem_nil _
  next => rfl

/-- If a valid context is not woven, under either policy, a lookup has failed. -/
theorem weave_of_valid (valid : c.Valid) (failed : (weave json lenient c).exit ≠ 0) :
    ∃ f, c.LookupFails (c.registry []) f ∧ weave json lenient c = failure f := by
  have refused {d : Context} (valid : d.Valid) (failed : (weave json false d).exit ≠ 0) :
      ∃ f, d.LookupFails (d.registry []) f ∧ weave json false d = failure f := by
    cases outcome : (d.assemble []).outcome with
    | ok a => exact absurd (exit_weave_iff.mpr ⟨a, outcome⟩) failed
    | error f =>
      have fails := ((d.assemble_eq_error_iff []).mp outcome).lookupFails valid
      exact ⟨f, fails, weave_of_error outcome⟩
  cases lenient with
  | false => exact refused valid failed
  | true =>
    obtain ⟨f, fails, answer⟩ := refused valid.under_drop failed
    exact ⟨f, fails.of_under, answer⟩

/-- The commands agree on every file. What is woven without the flag is valid, and is woven with the
flag as the same. What is valid fails to be woven only because a lookup fails. And where a file is
not valid, but is woven with the flag, all errors that validating it prints are on missing
markers. -/
theorem commands_agree (content : FileContent) (file : String) (json : Bool) :
    let weave (lenient : Bool) := ofRequest content (.run .weave file json lenient)
    let validate := ofRequest content (.run .validate file false false)
    ((weave false).exit = 0 →
        validate.exit = 0 ∧ (weave true).exit = 0 ∧ (weave true).out = (weave false).out) ∧
      (validate.exit = 0 → ∀ lenient, (weave lenient).exit ≠ 0 →
        ∃ c f, Context.load content = .ok c ∧ c.LookupFails (c.registry []) f ∧
          weave lenient = failure f) ∧
      (∀ c, Context.load content = .ok c → validate.exit = 1 → (weave true).exit = 0 →
        validate.out = String.join (c.findings.map findingText) ∧
          ∀ d ∈ c.findings, d.severity = .error → d.rule = .proceedMarker) := by
  intro weave validate
  cases loaded : Context.load content with
  | error f =>
    have unloaded (verb : Verb) (json lenient : Bool) :
        ofRequest content (.run verb file json lenient) = failure f := by
      rw [ofRequest, loaded]
    have validated : validate = failure f := unloaded .validate false false
    have woven (lenient : Bool) : weave lenient = failure f := unloaded .weave json lenient
    rw [validated, woven]
    exact ⟨nofun, nofun, nofun⟩
  | ok c =>
    have woven (lenient : Bool) : weave lenient = Answer.weave json lenient c := by
      change ofRequest _ _ = _
      rw [ofRequest, loaded, ofVerb]
    have validated : validate = Answer.validate c := by
      change ofRequest _ _ = _
      rw [ofRequest, loaded, ofVerb]
    simp only [woven, validated, exit_validate_iff]
    refine ⟨fun exit => ?_, fun valid lenient failed => ?_, ?_⟩
    · obtain ⟨a, assembled⟩ := exit_weave_iff.mp exit
      have same : Answer.weave json true c = Answer.weave json false c :=
        weave_congr (Context.assemble_under_drop assembled)
      rw [same]
      exact ⟨(Context.woven_of_assembled assembled).1, exit, rfl⟩
    · obtain ⟨f, fails, answer⟩ := weave_of_valid valid failed
      exact ⟨c, f, rfl, fails, answer⟩
    · rintro _ ⟨⟩ refused exit
      rw [weave_lenient, exit_weave_iff] at exit
      obtain ⟨a, assembled⟩ := exit
      have invalid : ¬ c.Valid := fun valid => by
        rw [exit_validate_iff.mpr valid] at refused
        cases refused
      have leniently : (c.under .drop).Valid := (Context.woven_of_assembled assembled).1
      exact ⟨out_validate invalid, fun d hd severe => Context.rule_of_error leniently hd severe⟩

/-- An intercept without a marker keeps a file from being valid, and the flag saves it. Without the
intercept the file is woven either way, and a handler that is no bean is all that is wrong with
it. -/
theorem commands_agree_mute :
    let file (more : String × Json) : FileContent :=
      .ok (Json.object [("routes", .array [.array []]), more]).compact.toUTF8
    let mute := file ("intercepts", .array [.object [("id", .text "mute")]])
    let plain := file ("intercepts", .array [])
    let lost := file ("error_handler", .text "lost")
    let weave (content : FileContent) (lenient : Bool) :=
      ofRequest content (.run .weave "context.json" false lenient)
    let validate (content : FileContent) :=
      ofRequest content (.run .validate "context.json" false false)
    ((validate mute).exit = 1 ∧ (weave mute true).exit = 0 ∧
        ∃ c, Context.load mute = .ok c ∧
          ∀ d ∈ c.findings, d.severity = .error → d.rule = .proceedMarker) ∧
      ((weave plain false).exit = 0 ∧ (weave plain true).out = (weave plain false).out) ∧
      (validate lost).exit = 0 ∧ ∀ lenient, ∃ (c : Context) (f : Fault),
        c.LookupFails (c.registry []) f ∧ weave lost lenient = failure f := by
  intro file mute plain lost weave validate
  have refused : (validate mute).exit = 1 := by decide +kernel
  have saved : (weave mute true).exit = 0 := by decide +kernel
  have woven : (weave plain false).exit = 0 := by decide +kernel
  have valid : (validate lost).exit = 0 := by decide +kernel
  have failing : ∀ lenient, (weave lost lenient).exit ≠ 0 := by decide +kernel
  refine ⟨⟨refused, saved, ?_⟩, ⟨woven, ?_⟩, valid, fun lenient => ?_⟩
  · cases loaded : Context.load mute with
    | error f =>
      have found : (Context.load mute).isOk = true := by decide +kernel
      rw [loaded] at found
      cases found
    | ok c =>
      exact ⟨c, rfl, ((commands_agree mute "context.json" false).2.2 c loaded refused saved).2⟩
  · exact ((commands_agree plain "context.json" false).1 woven).2.2
  · obtain ⟨c, f, -, fails, answer⟩ :=
      (commands_agree lost "context.json" false).2.1 valid lenient (failing lenient)
    exact ⟨c, f, fails, answer⟩

end Answer

end RouteLoom
