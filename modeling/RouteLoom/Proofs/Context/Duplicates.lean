import RouteLoom.Proofs.Context.Validity

/-!
# Ids that are declared more than once

A route id is told once, at the place where it stands for the second time, and routes without an id
share none. An intercept id is told again at every place after its first, so these findings are as
many as the intercepts less the ids they have.
-/

namespace RouteLoom

namespace Rule

def sharedRouteId (id : String) : Finding where
  rule := .duplicateRouteId
  severity := .error
  message := "Route id '" ++ id ++ "' is declared more than once"
  route := some id

def sharedInterceptId (id : String) : Finding where
  rule := .duplicateInterceptId
  severity := .warning
  message := "Intercept id '" ++ id ++ "' is declared more than once"
  intercept := some id

theorem sharedRouteId_injective : Function.Injective sharedRouteId := fun _ _ same =>
  Option.some.inj (congrArg Finding.route same)

end Rule

namespace Context

theorem filter_findings (c : Context) (rule : Rule) :
    (c.findings.filter fun d => d.rule = rule) = rule.check c := by
  have own (other : Rule) : ((other.check c).filter fun d => d.rule = rule) =
      if other = rule then rule.check c else [] := by
    split
    next same =>
      subst same
      exact List.filter_eq_self.mpr fun d hd => decide_eq_true (Rule.rule_of_mem_check hd)
    next differs =>
      refine List.filter_eq_nil_iff.mpr fun d hd told => differs ?_
      rw [← Rule.rule_of_mem_check hd, of_decide_eq_true told]
  rw [findings, List.filter_flatMap]
  simp only [own]
  cases rule <;> simp [Rule.all]

theorem count_sharedRouteId (c : Context) (id : String) :
    c.findings.count (Rule.sharedRouteId id) =
      if id ≠ "" ∧ 2 ≤ (c.routes.map Route.id).count id then 1 else 0 := by
  have told : id ∈ Rule.distinct [] (Rule.repeated [] (declaredIds c.routes)) ↔
      id ≠ "" ∧ 2 ≤ (c.routes.map Route.id).count id := by
    rw [Rule.mem_distinct_iff, Rule.mem_repeated_iff, declaredIds, Rule.count_named]
    split <;> simp [*]
  calc c.findings.count (Rule.sharedRouteId id)
      = (c.findings.filter fun d => d.rule = .duplicateRouteId).count (Rule.sharedRouteId id) :=
        (List.count_filter rfl).symm
    _ = ((Rule.distinct [] (Rule.repeated [] (declaredIds c.routes))).map
          Rule.sharedRouteId).count (Rule.sharedRouteId id) :=
        congrArg _ (c.filter_findings .duplicateRouteId)
    _ = (Rule.distinct [] (Rule.repeated [] (declaredIds c.routes))).count id :=
        List.count_map_of_injective _ _ Rule.sharedRouteId_injective id
    _ = if id ≠ "" ∧ 2 ≤ (c.routes.map Route.id).count id then 1 else 0 := by
        rw [(Rule.nodup_distinct _).count]
        simp only [told]

/-- A route id that several routes declare is told once, in the order of the second places, and an
empty one never. An intercept id is told for every intercept that declares it again, in the order of
the intercepts, so together with the distinct ids these findings are as many as the intercepts. -/
theorem duplicates_exact (c : Context) :
    (c.findings.filter fun d => d.rule = .duplicateRouteId) =
      (idsWhere (fun front id => id ≠ "" ∧ front.count id = 1) (c.routes.map Route.id)).map
        Rule.sharedRouteId ∧
    (∀ id, c.findings.count (Rule.sharedRouteId id) =
      if id ≠ "" ∧ 2 ≤ (c.routes.map Route.id).count id then 1 else 0) ∧
    (c.findings.filter fun d => d.rule = .duplicateInterceptId) =
      (idsWhere (fun front id => id ∈ front) (c.intercepts.map Intercept.id)).map
        Rule.sharedInterceptId ∧
    (c.findings.filter fun d => d.rule = .duplicateInterceptId).length +
      (c.intercepts.map Intercept.id).toFinset.card = c.intercepts.length := by
  have again : (c.findings.filter fun d => d.rule = .duplicateInterceptId) =
      (Rule.repeated [] (c.intercepts.map Intercept.id)).map Rule.sharedInterceptId :=
    c.filter_findings .duplicateInterceptId
  refine ⟨?_, c.count_sharedRouteId, ?_, ?_⟩
  · rw [c.filter_findings, ← Rule.distinct_repeated_eq]
    rfl
  · rw [again, Rule.repeated_eq]
  · rw [again, List.length_map, ← Rule.length_distinct, Rule.length_repeated_add_length_distinct,
      List.length_map]

/-- The second place of `b` is in front of that of `a`, and the third one of `a` is not told. -/
example :
    let c : Context :=
      { Context.standard with
        routes := ["a", "b", "", "b", "a", "", "a"].map fun id => ⟨id, []⟩ }
    (Rule.check .duplicateRouteId c).map Finding.route = [some "b", some "a"] := by
  decide

end Context

end RouteLoom
