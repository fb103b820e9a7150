import RouteLoom.Proofs.Beans.Lookup

/-!
# More levels behind a registry

A lookup by type can succeed with few beans and be ambiguous with more. But beans of further levels
are not counted together with those of nearer ones: a level that settles a lookup settles it alone.
So a registry answers alike with more levels behind it, wherever it found a bean or was in doubt
between several.
-/

namespace RouteLoom.Registry

variable {r : Registry} {name type : String} {more : List Bindings}

/-- The answer to a lookup that some level has settled: a bean, or a doubt between several. -/
inductive Settled : Except Fault String → Prop
  | found (bean : String) : Settled (.ok bean)
  | several (type : String) (names : List String) :
      Settled (.error (.ambiguousDependency type names))

/-- What `small` settles, `large` settles alike. -/
structure Extends (large small : Registry) : Prop where
  name : ∀ name, Settled (small.lookupName name) → large.lookupName name = small.lookupName name
  type : ∀ type, Settled (small.lookupType type) → large.lookupType type = small.lookupType type

theorem lookupName_behind (found : ¬ r.LacksName name) (more : List Bindings) :
    (r.behind more).lookupName name = r.lookupName name := by
  have still_found : ¬ (r.behind more).LacksName name := fun lacking =>
    found fun level hl => lacking level (List.mem_append_left more hl)
  rw [lookupName_of_not_lacksName still_found, lookupName_of_not_lacksName found]

theorem lookupType_behind (found : ¬ r.LacksType type) (more : List Bindings) :
    (r.behind more).lookupType type = r.lookupType type := by
  rcases forall_or_exists_isFirst (fun l => l.namesOf type = []) r.levels with
    lacking | ⟨level, nearest, some⟩
  · exact absurd lacking found
  · have still_nearest : IsFirst (fun l => l.namesOf type = []) level (r.behind more).levels :=
      isFirst_append.mpr (.inl nearest)
    rw [lookupType_of_isFirst still_nearest some, lookupType_of_isFirst nearest some]

theorem lookupType_behind_of_lacking (lacking : ∀ level ∈ more, level.namesOf type = []) :
    (r.behind more).lookupType type = r.lookupType type := by
  by_cases missing : r.LacksType type
  · have missing_still : (r.behind more).LacksType type :=
      List.forall_mem_append.mpr ⟨missing, lacking⟩
    rw [lookupType_of_lacksType missing_still, lookupType_of_lacksType missing]
  · exact lookupType_behind missing more

theorem extends_behind (r : Registry) (more : List Bindings) : (r.behind more).Extends r where
  name name settled := by
    refine lookupName_behind (fun lacking => ?_) more
    rw [lookupName_of_lacksName lacking] at settled
    cases settled
  type type settled := by
    refine lookupType_behind (fun lacking => ?_) more
    rw [lookupType_of_lacksType lacking] at settled
    cases settled

namespace Extends

variable {large small : Registry} {bean : String}

theorem lookupName_eq_ok (larger : large.Extends small) (found : small.lookupName name = .ok bean) :
    large.lookupName name = .ok bean :=
  (larger.name name (found ▸ .found bean)).trans found

theorem lookupType_eq_ok (larger : large.Extends small) (found : small.lookupType type = .ok bean) :
    large.lookupType type = .ok bean :=
  (larger.type type (found ▸ .found bean)).trans found

end Extends

end RouteLoom.Registry
