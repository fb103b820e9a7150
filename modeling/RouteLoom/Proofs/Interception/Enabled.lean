import RouteLoom.Proofs.Interception.Discovery

/-!
# Which strategies a context enables

A strategy is enabled by its bean or by an attribute of the context, and the tracer can be turned
off although there is a bean for it. Discovery gives exactly the enabled strategies, each once and
in a fixed order, unless one of the lookups that matter is in doubt between several beans.
-/

namespace RouteLoom

namespace Strategy

variable {registry : Registry} {trace : Option Bool} {delay : Option Nat} {s : Strategy}

/-! ### What is enabled -/

/-- A strategy is enabled, with these beans. -/
inductive Enabled (registry : Registry) (trace : Option Bool) (delay : Option Nat) : Strategy → Prop
  | debugger {bean : String} (found : registry.bean? debuggerType = some bean) :
      Enabled registry trace delay (.debugger bean)
  | tracer (on : tracerOn registry trace = true) :
      Enabled registry trace delay
        (.tracer (registry.bean? tracerType) (registry.bean? formatterType))
  | delayer (wanted : registry.bean? delayerType ≠ none ∨ delay ≠ none) :
      Enabled registry trace delay (.delayer (registry.bean? delayerType) delay)

theorem mem_chosen_iff : s ∈ chosen registry trace delay ↔ Enabled registry trace delay s := by
  have wanted : (registry.bean? delayerType ≠ none ∨ delay ≠ none) ↔
      ¬ ((registry.bean? delayerType).isNone && delay.isNone) = true := by
    rw [Bool.and_eq_true, Option.isNone_iff_eq_none, Option.isNone_iff_eq_none, not_and_or]
  simp only [chosen, List.mem_append, List.mem_map, Option.mem_toList, List.mem_ite_nil_left,
    List.mem_ite_nil_right, List.mem_singleton, ← wanted]
  constructor
  · rintro ((⟨bean, present, rfl⟩ | ⟨on, rfl⟩) | ⟨wanted, rfl⟩)
    · exact .debugger present
    · exact .tracer on
    · exact .delayer wanted
  · intro enabled
    cases enabled with
    | debugger present => exact .inl (.inl ⟨_, present, rfl⟩)
    | tracer on => exact .inl (.inr ⟨on, rfl⟩)
    | delayer wanted => exact .inr ⟨wanted, rfl⟩

theorem names_chosen_sublist (registry : Registry) (trace : Option Bool) (delay : Option Nat) :
    ((chosen registry trace delay).map name).Sublist ["debugger", "tracer", "delayer"] := by
  rw [chosen, List.map_append, List.map_append]
  change List.Sublist _ (["debugger"] ++ ["tracer"] ++ ["delayer"])
  refine .append (.append ?_ ?_) ?_
  · cases registry.bean? debuggerType with
    | none => exact List.nil_sublist _
    | some bean => exact .refl _
  · split
    · exact .refl _
    · exact List.nil_sublist _
  · split
    · exact List.nil_sublist _
    · exact .refl _

/-! ### Proxies -/

theorem isMarker_at?_proxy_iff (s : Strategy) (a : Address) :
    (∃ n, Forest.at? a (Interceptor.proxy s).outputs = some n ∧ n.isMarker = true) ↔ a = [1] := by
  have outputs : (Interceptor.proxy s).outputs = [Node.step s.endpoint, Node.marker] := rfl
  rw [outputs]
  match a with
  | [] => simp [Forest.at?]
  | 0 :: rest =>
    cases rest with
    | nil => simp [Forest.at?, Node.at?, Node.step, Node.ofKind, Node.isMarker]
    | cons i rest => simp [Forest.at?, Node.at?, Node.step, Node.ofKind]
  | 1 :: rest =>
    cases rest with
    | nil => simp [Forest.at?, Node.at?, Node.marker, Node.ofKind, Node.isMarker]
    | cons i rest => simp [Forest.at?, Node.at?, Node.marker, Node.ofKind]
  | (i + 2) :: rest => simp [Forest.at?]

/-- Discovery succeeds exactly if none of the lookups that matter is in doubt, and fails with the
first that is. What it gives are the enabled strategies, each once and in order, and the proxy of each
has its one marker behind its first step. -/
theorem discover_enabled (registry : Registry) (trace : Option Bool) (delay : Option Nat) :
    ((∃ found, discover registry trace delay = .ok found) ↔
      ∀ t ∈ mattering registry trace, ∀ names, ¬ registry.Ambiguous t.2 names) ∧
    (∀ f, discover registry trace delay = .error f ↔
      ∃ s type, IsFirst (fun t => ∀ names, ¬ registry.Ambiguous t.2 names) (s, type)
          (mattering registry trace) ∧
        ∃ names, registry.Ambiguous type names ∧
          f = .configuration s (Fault.ambiguousDependency type names).message) ∧
    (∀ found, discover registry trace delay = .ok found →
      (∀ s, s ∈ found ↔ Enabled registry trace delay s) ∧
        (found.map name).Sublist ["debugger", "tracer", "delayer"]) ∧
    ∀ s : Strategy, ∀ a, (∃ n, Forest.at? a (Interceptor.proxy s).outputs = some n ∧
      n.isMarker = true) ↔ a = [1] := by
  have examined := examines_discover registry trace delay
  refine ⟨examined.exists_ok_iff, examined, fun found discovered => ?_, isMarker_at?_proxy_iff⟩
  rw [eq_chosen_of_discover discovered]
  exact ⟨fun s => mem_chosen_iff, names_chosen_sublist registry trace delay⟩

/-- Two tracer beans do no harm if the tracer is turned off, and otherwise the tracer is to blame. -/
example :
    let registry : Registry := ⟨.ofList [("a", tracerType), ("b", tracerType)],
      [.ofList [("dbg", debuggerType)]]⟩
    discover registry (some false) (some 10) =
        .ok [.debugger "dbg", .delayer none (some 10)] ∧
      discover registry none (some 10) = .error (.configuration "tracer"
        "Ambiguous lookup for type 'routeweave:Tracer': 2 candidates (a, b)") := by
  decide

end Strategy

end RouteLoom
