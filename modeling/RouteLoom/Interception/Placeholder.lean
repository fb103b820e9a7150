import RouteLoom.Beans.Bindings

/-!
# Placeholders

A template is a text with placeholders, each a name between an opener, a dollar sign and a brace,
and the next closing brace. It is gone through once, from the left. The opener of an unbound name is
kept and the text right behind it is next, so such a name may hold a placeholder itself. What is put
in for a placeholder is never looked at again.
-/

namespace RouteLoom

namespace Placeholder

/-- The text up to the leftmost opener and the text behind it, if there is one. -/
def splitOpen : List Char → Option (List Char × List Char)
  | '$' :: '{' :: inside => some ([], inside)
  | c :: rest => (splitOpen rest).map fun (front, inside) => (c :: front, inside)
  | [] => none

/-- The text up to the first closing brace and the text behind it, if there is one. -/
def splitClose : List Char → Option (List Char × List Char)
  | [] => none
  | c :: rest =>
    if c = '}' then some ([], rest)
    else (splitClose rest).map fun (name, behind) => (c :: name, behind)

theorem length_of_splitOpen {cs front inside : List Char}
    (h : splitOpen cs = some (front, inside)) : inside.length < cs.length := by
  fun_induction splitOpen cs generalizing front with
  | case1 inside =>
    cases h
    exact Nat.lt_succ_of_lt (Nat.lt_succ_self _)
  | case2 c rest _ ih =>
    obtain ⟨⟨f, i⟩, hr, he⟩ := Option.map_eq_some_iff.mp h
    cases he
    exact Nat.lt_succ_of_lt (ih hr)
  | case3 => cases h

theorem length_of_splitClose {cs name behind : List Char}
    (h : splitClose cs = some (name, behind)) : behind.length < cs.length := by
  fun_induction splitClose cs generalizing name with
  | case1 => cases h
  | case2 rest =>
    cases h
    exact Nat.lt_succ_self _
  | case3 c rest _ ih =>
    obtain ⟨⟨n, b⟩, hr, he⟩ := Option.map_eq_some_iff.mp h
    cases he
    exact Nat.lt_succ_of_lt (ih hr)

/-- The characters of a template with a value in the place of every bound placeholder. -/
def expandChars (b : Bindings) (cs : List Char) : List Char :=
  match _opens : splitOpen cs with
  | none => cs
  | some (front, inside) =>
    match _closes : splitClose inside with
    | none => cs
    | some (name, behind) =>
      match b.get? (String.ofList name) with
      | some value => front ++ value.toList ++ expandChars b behind
      | none => front ++ '$' :: '{' :: expandChars b inside
termination_by cs.length
decreasing_by
  · exact Nat.lt_trans (length_of_splitClose _closes) (length_of_splitOpen _opens)
  · exact length_of_splitOpen _opens

end Placeholder

def Bindings.expand (bindings : Bindings) (template : String) : String :=
  String.ofList (Placeholder.expandChars bindings template.toList)

end RouteLoom
