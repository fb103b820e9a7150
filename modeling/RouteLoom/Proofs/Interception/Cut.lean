import RouteLoom.Proofs.Beans.Entries
import RouteLoom.Proofs.Interception.Substitution

/-!
# Where a template is cut

Which placeholders of a template are filled can be told from the template and from the names that
are bound, before any value is known, and to expand the template is to put the values between the
pieces. Values of one character each can tell any two lists of pieces apart.
-/

namespace RouteLoom

namespace Placeholder

/-- A character of a template that is kept, or a placeholder that is filled. -/
inductive Piece
  | kept (c : Char)
  | filled (name : String)
deriving DecidableEq, Repr

def Piece.source : Piece → List Char
  | .kept c => [c]
  | .filled name => '$' :: '{' :: name.toList ++ ['}']

/-- A piece as it stands in the expanded template. A name without a value gets nothing. -/
def Piece.expansion (b : Bindings) : Piece → List Char
  | .kept c => [c]
  | .filled name => ((b.get? name).getD "").toList

/-- The text is cut at every placeholder with a known name, from left to right, and nowhere else. -/
inductive Cuts (known : Finset String) : List Char → List Piece → Prop
  | nil : Cuts known [] []
  | filled {name behind : List Char} {pieces : List Piece} (closes : '}' ∉ name)
      (bound : String.ofList name ∈ known) (later : Cuts known behind pieces) :
      Cuts known ('$' :: '{' :: name ++ '}' :: behind) (.filled (String.ofList name) :: pieces)
  | kept {c : Char} {rest : List Char} {pieces : List Piece}
      (unbound : ∀ name behind, '}' ∉ name → c :: rest = '$' :: '{' :: name ++ '}' :: behind →
        String.ofList name ∉ known) (later : Cuts known rest pieces) :
      Cuts known (c :: rest) (.kept c :: pieces)

/-- The template is made up of these pieces and expanded from them, whatever values are known. -/
structure IsCut (known : Finset String) (template : String) (pieces : List Piece) : Prop where
  source : pieces.flatMap Piece.source = template.toList
  names : ∀ name, .filled name ∈ pieces → name ∈ known
  expansion : ∀ b : Bindings, b.names = known →
    (b.expand template).toList = pieces.flatMap (Piece.expansion b)

variable {known : Finset String} {cs out : List Char} {pieces others : List Piece} {b : Bindings}

/-! ### The pieces of a template -/

theorem Cuts.source (h : Cuts known cs pieces) : pieces.flatMap Piece.source = cs := by
  induction h with
  | nil => rfl
  | @filled name behind pieces closes bound later ih =>
    rw [List.flatMap_cons, ih, Piece.source, String.toList_ofList, List.append_assoc,
      List.singleton_append]
  | kept unbound later ih =>
    rw [List.flatMap_cons, ih]
    rfl

theorem Cuts.names (h : Cuts known cs pieces) (name : String) (listed : .filled name ∈ pieces) :
    name ∈ known := by
  induction h with
  | nil => cases listed
  | filled closes bound later ih =>
    rcases List.mem_cons.mp listed with same | later
    · cases same
      exact bound
    · exact ih later
  | kept unbound later ih =>
    rcases List.mem_cons.mp listed with same | later
    · cases same
    · exact ih later

theorem Substitutes.exists_cuts (h : Substitutes b cs out) :
    ∃ pieces, Cuts b.names cs pieces ∧ pieces.flatMap (Piece.expansion b) = out := by
  induction h with
  | nil => exact ⟨[], .nil, rfl⟩
  | bound closes bound later ih =>
    obtain ⟨pieces, cuts, same⟩ := ih
    refine ⟨_, .filled closes (Bindings.mem_names_iff.mpr ⟨_, bound⟩) cuts, ?_⟩
    rw [List.flatMap_cons, same, Piece.expansion, bound]
    rfl
  | kept unbound later ih =>
    obtain ⟨pieces, cuts, same⟩ := ih
    refine ⟨_, .kept (fun name behind closes here => ?_) cuts, ?_⟩
    · exact Bindings.get?_eq_none_iff.mp (unbound name behind closes here)
    · rw [List.flatMap_cons, same]
      rfl

theorem Cuts.substitutes (h : Cuts b.names cs pieces) :
    Substitutes b cs (pieces.flatMap (Piece.expansion b)) := by
  induction h with
  | nil => exact .nil
  | filled closes bound later ih =>
    obtain ⟨value, hvalue⟩ := Bindings.mem_names_iff.mp bound
    rw [List.flatMap_cons, Piece.expansion, hvalue]
    exact .bound closes hvalue ih
  | kept unbound later ih =>
    refine .kept (fun name behind closes here => ?_) ih
    exact Bindings.get?_eq_none_iff.mpr (unbound name behind closes here)

theorem exists_cuts (known : Finset String) (cs : List Char) : ∃ pieces, Cuts known cs pieces := by
  obtain ⟨b, hb, -⟩ := Bindings.exists_of_names known fun _ => ""
  obtain ⟨pieces, cuts, -⟩ := (substitutes_expandChars b cs).exists_cuts
  exact ⟨pieces, hb ▸ cuts⟩

theorem Cuts.isCut {template : String} (h : Cuts known template.toList pieces) :
    IsCut known template pieces where
  source := h.source
  names := h.names
  expansion := by
    rintro b rfl
    rw [Bindings.expand, String.toList_ofList, h.substitutes.eq_expandChars]

/-! ### No other pieces -/

/-- The one character that a piece becomes where every value is one character long. -/
def Piece.letter (value : String → Char) : Piece → Char
  | .kept c => c
  | .filled name => value name

theorem Piece.ext_letter {p q : Piece} (alike : ∀ value, p.letter value = q.letter value) : p = q := by
  have other (c : Char) : ∃ d, d ≠ c := by
    by_cases first : c = 'a'
    · exact ⟨'b', by simp [first]⟩
    · exact ⟨'a', Ne.symm first⟩
  cases p with
  | kept c =>
    obtain ⟨d, hd⟩ := other c
    cases q with
    | kept c' => exact congrArg Piece.kept (alike fun _ => c)
    | filled name => exact absurd (alike fun _ => d) (Ne.symm hd)
  | filled name =>
    cases q with
    | kept c =>
      obtain ⟨d, hd⟩ := other c
      exact absurd (alike fun _ => d) hd
    | filled name' =>
      have told := alike fun n => if n = name then 'a' else 'b'
      by_cases same : name' = name
      · rw [same]
      · simp [letter, same] at told

theorem ext_letters (alike : ∀ value, pieces.map (Piece.letter value) =
    others.map (Piece.letter value)) : pieces = others := by
  induction pieces generalizing others with
  | nil =>
    have empty := alike fun _ => 'a'
    exact (List.map_eq_nil_iff.mp empty.symm).symm
  | cons p pieces ih =>
    cases others with
    | nil => cases alike fun _ => 'a'
    | cons q others =>
      have heads : p = q := Piece.ext_letter fun value => (List.cons.inj (alike value)).1
      rw [heads, ih fun value => (List.cons.inj (alike value)).2]

theorem flatMap_expansion_letters {b : Bindings} {value : String → Char}
    (bound : ∀ name ∈ known, b.get? name = some (String.singleton (value name)))
    (names : ∀ name, .filled name ∈ pieces → name ∈ known) :
    pieces.flatMap (Piece.expansion b) = pieces.map (Piece.letter value) := by
  induction pieces with
  | nil => rfl
  | cons p pieces ih =>
    have here : p.expansion b = [p.letter value] := by
      cases p with
      | kept c => rfl
      | filled name =>
        rw [Piece.expansion, bound name (names name List.mem_cons_self)]
        simp [Piece.letter]
    rw [List.flatMap_cons, here, ih fun name listed => names name (List.mem_cons_of_mem p listed)]
    rfl

/-- Pieces that expand alike for all values are the same. -/
theorem ext_expansion (names : ∀ name, .filled name ∈ pieces → name ∈ known)
    (others_names : ∀ name, .filled name ∈ others → name ∈ known)
    (alike : ∀ b : Bindings, b.names = known →
      pieces.flatMap (Piece.expansion b) = others.flatMap (Piece.expansion b)) :
    pieces = others := by
  apply ext_letters
  intro value
  obtain ⟨b, hnames, bound⟩ := Bindings.exists_of_names known fun n => String.singleton (value n)
  rw [← flatMap_expansion_letters bound names, ← flatMap_expansion_letters bound others_names]
  exact alike b hnames

end Placeholder

open Placeholder

/-- For each template and each finite set of names there is exactly one way to cut the template such
that, with whatever values for these names, expanding it is to put the values between the pieces, and
that is to cut it at every placeholder with one of the names. So two expansions with the same names
bound differ in the values that are put in and nowhere else. -/
theorem existsUnique_cut (template : String) :
    (∀ known : Finset String, ∃! pieces : List Piece, IsCut known template pieces) ∧
    (∀ (known : Finset String) (pieces : List Piece),
      IsCut known template pieces ↔ Cuts known template.toList pieces) ∧
    ∀ b b' : Bindings, b.names = b'.names → ∃ pieces : List Piece,
      Cuts b.names template.toList pieces ∧
      pieces.flatMap Piece.source = template.toList ∧
      (b.expand template).toList = pieces.flatMap (Piece.expansion b) ∧
      (b'.expand template).toList = pieces.flatMap (Piece.expansion b') := by
  have unique {known : Finset String} {pieces others : List Piece}
      (h : IsCut known template pieces) (h' : IsCut known template others) : pieces = others := by
    apply ext_expansion h.names h'.names
    intro b hb
    rw [← h.expansion b hb, h'.expansion b hb]
  refine ⟨fun known => ?_, fun known pieces => ⟨fun h => ?_, Cuts.isCut⟩, fun b b' same => ?_⟩
  · obtain ⟨pieces, cuts⟩ := exists_cuts known template.toList
    exact ⟨pieces, cuts.isCut, fun others h => unique h cuts.isCut⟩
  · obtain ⟨others, cuts⟩ := exists_cuts known template.toList
    rw [unique h cuts.isCut]
    exact cuts
  · obtain ⟨pieces, cuts⟩ := exists_cuts b.names template.toList
    exact ⟨pieces, cuts, cuts.source, cuts.isCut.expansion b rfl, cuts.isCut.expansion b' same.symm⟩

/-- A dollar sign at the end of a value does not open a placeholder with the brace behind it. -/
example :
    let b : Bindings := .ofList [("a", "$"), ("b", "x")]
    b.expand "${a}{b}${b}" = "${b}x" := by
  decide +kernel

end RouteLoom
