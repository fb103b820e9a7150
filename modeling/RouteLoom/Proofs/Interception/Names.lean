import RouteLoom.Proofs.Beans.Entries
import RouteLoom.Proofs.Interception.Substitution

/-!
# Which names a placeholder can have

A placeholder's name reaches up to the first closing brace, so every variable without such a brace
can be used, with dollar signs, openers or nothing at all in its name, and whatever other variables
its name begins with. A variable with a closing brace in its name is the name of no placeholder.
-/

namespace RouteLoom

namespace Placeholder

variable {b c : Bindings} {cs front out : List Char}

theorem expandChars_append (free : '$' ∉ front) (cs : List Char) :
    expandChars b (front ++ cs) = front ++ expandChars b cs := by
  induction front with
  | nil => rfl
  | cons d front ih =>
    obtain ⟨other, later⟩ := List.ne_and_not_mem_of_not_mem_cons free
    have unopened : ∀ inside, d :: (front ++ cs) ≠ '$' :: '{' :: inside := by
      intro inside same
      exact other (List.cons.inj same).1.symm
    rw [List.cons_append, expandChars_cons unopened, ih later, List.cons_append]

def AgreeUnbraced (b c : Bindings) : Prop :=
  ∀ name : String, '}' ∉ name.toList → c.get? name = b.get? name

theorem AgreeUnbraced.get?_ofList (agree : AgreeUnbraced b c) {name : List Char}
    (closes : '}' ∉ name) : c.get? (String.ofList name) = b.get? (String.ofList name) :=
  agree (String.ofList name) (by rwa [String.toList_ofList])

/-- Only names without a closing brace are ever looked up. -/
theorem Substitutes.of_agreeUnbraced (agree : AgreeUnbraced b c) (h : Substitutes b cs out) :
    Substitutes c cs out := by
  induction h with
  | nil => exact .nil
  | bound closes bound _ ih => exact .bound closes ((agree.get?_ofList closes).trans bound) ih
  | kept unbound _ ih =>
    refine .kept (fun name behind closes same => ?_) ih
    rw [agree.get?_ofList closes]
    exact unbound name behind closes same

end Placeholder

open Placeholder

/-- Every variable without a closing brace in its name can be used: each of its placeholders is
replaced by its value, and the text behind is expanded as if it stood alone. Entries for other names
have no part in any expansion. -/
theorem expand_placeholder (b : Bindings) :
    (∀ key value p s : String, b.get? key = some value → '}' ∉ key.toList → '$' ∉ p.toList →
      b.expand (p ++ opener ++ key ++ closer ++ s) = p ++ value ++ b.expand s) ∧
    ∀ c : Bindings, (∀ key : String, '}' ∉ key.toList → c.get? key = b.get? key) →
      ∀ template, c.expand template = b.expand template := by
  constructor
  · intro key value p s bound closes free
    have spelled : (p ++ opener ++ key ++ closer ++ s).toList =
        p.toList ++ ('$' :: '{' :: key.toList ++ '}' :: s.toList) := by
      simp [String.toList_append, opener, closer]
    have named : b.get? (String.ofList key.toList) = some value := by
      rwa [String.ofList_toList]
    rw [← String.toList_inj, Bindings.expand, String.toList_ofList, spelled,
      expandChars_append free, expandChars_bound closes named, String.toList_append,
      String.toList_append, Bindings.expand, String.toList_ofList, List.append_assoc]
  · intro c agree template
    have same : Substitutes c template.toList (expandChars b template.toList) :=
      (substitutes_expandChars b template.toList).of_agreeUnbraced agree
    rw [Bindings.expand, Bindings.expand, same.eq_expandChars]

/-- The empty name and one that is an opener itself are filled, and so is one that another name
begins with. With a braced name bound too, everything is expanded as before. -/
theorem expand_placeholder_odd :
    let b : Bindings := .ofList [("", "none"), (opener, "open"), ("a", "x"), ("ab", "y")]
    let c : Bindings := b.insert ("a" ++ closer ++ "b") "lost"
    b.expand ("bean:" ++ opener ++ opener ++ closer ++ "/${}${ab}") =
        "bean:" ++ "open" ++ b.expand "/${}${ab}" ∧
      ∀ template, c.expand template = b.expand template := by
  intro b c
  refine ⟨(expand_placeholder b).1 opener "open" "bean:" "/${}${ab}" (by decide) (by decide)
    (by decide), (expand_placeholder b).2 c fun key closes => ?_⟩
  have other : key ≠ "a" ++ closer ++ "b" := by
    rintro rfl
    exact closes (by decide)
  rw [Bindings.get?_insert, if_neg other]

/-- A variable with a closing brace in its name is not replaced. No expansion at all could replace
every bound variable: with `a` bound as well, the value of either would have to come first. -/
theorem expand_braced :
    let braced := "a" ++ closer ++ "b"
    let b : Bindings := .ofList [(braced, "x")]
    (b.get? braced = some "x" ∧
      b.expand ("" ++ opener ++ braced ++ closer ++ "") = "${a}b" ++ closer ∧
      b.expand ("" ++ opener ++ braced ++ closer ++ "") ≠ "" ++ "x" ++ b.expand "") ∧
    ¬ ∃ expand : Bindings → String → String, ∀ (b : Bindings) (key value p s : String),
      b.get? key = some value → '$' ∉ p.toList →
        expand b (p ++ opener ++ key ++ closer ++ s) = p ++ value ++ expand b s := by
  intro braced b
  constructor
  · decide +kernel
  · rintro ⟨expand, replaces⟩
    let b : Bindings := .ofList [("a", "x"), (braced, "y")]
    have short := replaces b "a" "x" "" ("b" ++ closer) (by decide) (by decide)
    have long := replaces b braced "y" "" "" (by decide) (by decide)
    have same_text : "" ++ opener ++ "a" ++ closer ++ ("b" ++ closer) =
        "" ++ opener ++ braced ++ closer ++ "" := by decide
    rw [same_text, long] at short
    have heads := congrArg (fun s => s.toList.head?) short
    simp [String.toList_append] at heads

end RouteLoom
