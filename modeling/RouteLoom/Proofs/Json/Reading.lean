import RouteLoom.Json.Reader

/-!
# Reading texts and numbers

The reader goes character by character through a text that was escaped and through the digits of a
number, and delivers what it has read to whatever was open in front of it. What follows matters in
one case only: a number ends where the next character does not belong to it.
-/

namespace RouteLoom

namespace Reader

/-- What is read of a text that goes on with `cs` in the state `s`. -/
def run (s : State) (cs : List Char) : Reading :=
  match cs.foldlM step s with
  | .ok s => s.ended
  | .error r => r

theorem run_nil (s : State) : run s [] = s.ended := rfl

variable {s t : State} {c : Char} {cs rest : List Char} {opened : List Frame} {m : Mode}

theorem run_cons (next : step s c = .ok t) : run s (c :: cs) = run t cs := by
  rw [run, run, List.foldlM_cons, next]
  rfl

/-! ### Where a value begins -/

def Mode.Awaits (m : Mode) : Prop := m = .value ∨ m = .valueOrEnd

theorem close_eq_none (bracket : c ≠ ']') (brace : c ≠ '}') : close c opened = none := by
  rw [close.eq_def]
  split <;> simp [bracket, brace]

theorem step_begin (awaits : m.Awaits) (plain : blank c = false) (bracket : c ≠ ']')
    (brace : c ≠ '}') (begins : begin opened c = some t) : step ⟨opened, m⟩ c = .ok t := by
  have closing : close c opened = none := close_eq_none bracket brace
  rcases awaits with rfl | rfl
  · simp [step, step.orBroken, plain, begins]
  · simp [step, step.orBroken, plain, closing, begins]

/-! ### Texts -/

variable {acc : List Char}

theorem run_short {letter : Char} (short : shortEscape letter = some c) (other : letter ≠ 'u') :
    run ⟨opened, .text (.whole acc)⟩ ('\\' :: letter :: rest) =
      run ⟨opened, .text (.whole (c :: acc))⟩ rest := by
  have slash : step ⟨opened, .text (.whole acc)⟩ '\\' = .ok ⟨opened, .escape (.whole acc)⟩ := rfl
  have named : step ⟨opened, .escape (.whole acc)⟩ letter =
      .ok ⟨opened, .text (.whole (c :: acc))⟩ := by
    simp [step, step.orBroken, other, short, Spelling.char]
  rw [run_cons slash, run_cons named]

theorem hexDigit_spec : ∀ n < 16,
    hexValue (Json.hexDigit n) = some n ∧ (Json.hexDigit n).utf8Size = 1 := by
  decide

theorem run_control (control : c.toNat < 32) :
    run ⟨opened, .text (.whole acc)⟩ ('\\' :: 'u' :: '0' :: '0' :: Json.hexDigit (c.toNat / 16) ::
        Json.hexDigit (c.toNat % 16) :: rest) =
      run ⟨opened, .text (.whole (c :: acc))⟩ rest := by
  obtain ⟨high, high_size⟩ := hexDigit_spec (c.toNat / 16) (by omega)
  obtain ⟨low, low_size⟩ := hexDigit_spec (c.toNat % 16) (by omega)
  generalize Json.hexDigit (c.toNat / 16) = x at high high_size
  generalize Json.hexDigit (c.toNat % 16) = y at low low_size
  have slash : step ⟨opened, .text (.whole acc)⟩ '\\' = .ok ⟨opened, .escape (.whole acc)⟩ := rfl
  have mark : step ⟨opened, .escape (.whole acc)⟩ 'u' = .ok ⟨opened, .unit (.whole acc) []⟩ := rfl
  have first : step ⟨opened, .unit (.whole acc) []⟩ '0' =
      .ok ⟨opened, .unit (.whole acc) ['0']⟩ := rfl
  have second : step ⟨opened, .unit (.whole acc) ['0']⟩ '0' =
      .ok ⟨opened, .unit (.whole acc) ['0', '0']⟩ := rfl
  have zero : ('0' : Char).utf8Size = 1 := rfl
  have third : step ⟨opened, .unit (.whole acc) ['0', '0']⟩ x =
      .ok ⟨opened, .unit (.whole acc) ['0', '0', x]⟩ := by
    simp [step, zero, high_size]
  have code : codeUnit ['0', '0', x, y] = some c.toNat := by
    have none : hexValue '0' = some 0 := rfl
    have parts : c.toNat / 16 * 16 + c.toNat % 16 = c.toNat := Nat.div_add_mod' c.toNat 16
    simp [codeUnit, none, high, low, parts]
  have whole : (Spelling.whole acc).unit c.toNat = .whole (c :: acc) := by
    have low : c.toNat < 0xD800 := by omega
    simp [Spelling.unit, low, Char.ofNat_toNat]
  have fourth : step ⟨opened, .unit (.whole acc) ['0', '0', x]⟩ y =
      .ok ⟨opened, .text (.whole (c :: acc))⟩ := by
    simp [step, step.orBroken, zero, high_size, low_size, code, whole]
  rw [run_cons slash, run_cons mark, run_cons first, run_cons second, run_cons third,
    run_cons fourth]

/-- A character of a text is read back from its escape. -/
theorem run_escape (c : Char) :
    run ⟨opened, .text (.whole acc)⟩ (Json.escape c ++ rest) =
      run ⟨opened, .text (.whole (c :: acc))⟩ rest := by
  rw [Json.escape]
  split
  next quotation =>
    subst quotation
    exact run_short rfl (by decide)
  split
  next slash =>
    subst slash
    exact run_short rfl (by decide)
  split
  next back =>
    subst back
    exact run_short rfl (by decide)
  split
  next feed =>
    subst feed
    exact run_short rfl (by decide)
  split
  next line =>
    subst line
    exact run_short rfl (by decide)
  split
  next carriage =>
    subst carriage
    exact run_short rfl (by decide)
  split
  next tab =>
    subst tab
    exact run_short rfl (by decide)
  split
  next control => exact run_control control
  next quotation slash _ _ _ _ _ plain =>
    have itself : step ⟨opened, .text (.whole acc)⟩ c = .ok ⟨opened, .text (.whole (c :: acc))⟩ := by
      simp [step, quotation, slash, plain, Spelling.char]
    exact run_cons itself

theorem run_text (cs : List Char) :
    run ⟨opened, .text (.whole acc)⟩ (cs.flatMap Json.escape ++ '"' :: rest) =
      run (deliver (.text (some (String.ofList (acc.reverse ++ cs)))) opened) rest := by
  induction cs generalizing acc with
  | nil =>
    have ended : step ⟨opened, .text (.whole acc)⟩ '"' =
        .ok (deliver (.text (some (String.ofList acc.reverse))) opened) := rfl
    rw [List.flatMap_nil, List.nil_append, run_cons ended, List.append_nil]
  | cons c cs ih =>
    rw [List.flatMap_cons, List.append_assoc, run_escape, ih, List.reverse_cons, List.append_assoc,
      List.singleton_append]

/-- A text in quotation marks is read wherever a value or a key may come. -/
theorem run_quote (awaits : m.Awaits) (s : String) :
    run ⟨opened, m⟩ (Json.quote s ++ rest) = run (deliver (.text (some s)) opened) rest := by
  have begins : begin opened '"' = some ⟨opened, .text (.whole [])⟩ := rfl
  have first := step_begin awaits rfl (by decide) (by decide) begins
  rw [Json.quote, List.cons_append, List.cons_append, run_cons first, List.append_assoc,
    List.singleton_append, run_text, List.reverse_nil, List.nil_append, String.ofList_toList]

/-! ### Numbers -/

/-- What may stand behind a value in a compact text. -/
def Delimited (rest : List Char) : Prop := ∀ c ∈ rest.head?, c = ',' ∨ c = ']' ∨ c = '}'

theorem delimited_nil : Delimited [] := nofun

def lastPart (n : Nat) : Part := if n = 0 then .zero else .whole

theorem digitChar_spec : ∀ n < 10, digit n.digitChar = some n ∧ n.digitChar.isDigit = true := by
  decide

theorem step_digitChar (awaits : m.Awaits) (wanted : keyWanted opened = false) {n : Nat}
    (hn : n < 10) :
    step ⟨opened, m⟩ n.digitChar = .ok ⟨opened, .number (.ofNat n) (lastPart n)⟩ := by
  obtain ⟨value, isDigit⟩ := digitChar_spec n hn
  have other (c : Char) (hc : c.isDigit = false) : n.digitChar ≠ c := by
    rintro rfl
    rw [isDigit] at hc
    cases hc
  have plain : blank n.digitChar = false := by
    simp [blank, other ' ' rfl, other '\n' rfl, other '\t' rfl, other '\r' rfl]
  have begins : begin opened n.digitChar = some ⟨opened, .number (.ofNat n) (lastPart n)⟩ := by
    simp [begin, wanted, value, lastPart, Numeral.ofNat, other '"' rfl, other '[' rfl, other '{' rfl,
      other 'n' rfl, other 't' rfl, other 'f' rfl, other '-' rfl]
  exact step_begin awaits plain (other ']' rfl) (other '}' rfl) begins

theorem run_digits (awaits : m.Awaits) (wanted : keyWanted opened = false) (n : Nat) :
    run ⟨opened, m⟩ (Nat.toDigits 10 n ++ rest) =
      run ⟨opened, .number (.ofNat n) (lastPart n)⟩ rest := by
  induction n using Nat.base_induction 10 (by decide) generalizing rest with
  | single d hd =>
    rw [Nat.toDigits_of_lt_base hd, List.singleton_append, run_cons (step_digitChar awaits wanted hd)]
  | digit n d hd positive ih =>
    have nonzero : lastPart n = .whole := if_neg (Nat.ne_of_gt positive)
    have longer : lastPart (10 * n + d) = .whole := if_neg (by omega)
    have next : step ⟨opened, .number (.ofNat n) .whole⟩ d.digitChar =
        .ok ⟨opened, .number (.ofNat (10 * n + d)) .whole⟩ := by
      simp [step, extend, (digitChar_spec d hd).1, Numeral.ofNat, Nat.mul_comm]
    rw [← Nat.toDigits_append_toDigits (by decide) positive hd, Nat.toDigits_of_lt_base hd,
      List.append_assoc, ih, nonzero, longer, List.singleton_append, run_cons next]

theorem step_deliver (d : Draft) (opened : List Frame) (c : Char) :
    step (deliver d opened) c = step.orBroken (deliver d opened) (resume (deliver d opened) c) := by
  cases opened with
  | nil => rfl
  | cons frame fs => cases frame <;> rfl

theorem settled_deliver (d : Draft) (opened : List Frame) :
    (deliver d opened).settled = deliver d opened := by
  cases opened with
  | nil => rfl
  | cons frame fs => cases frame <;> rfl

theorem mayEnd_lastPart (n : Nat) : (lastPart n).mayEnd = true := by
  rw [lastPart]
  split <;> rfl

/-- A number ends in front of a delimiter, and at the end of the text. -/
theorem run_number {n : Numeral} {part : Part} (ends : part.mayEnd = true)
    (delimited : Delimited rest) :
    run ⟨opened, .number n part⟩ rest = run (deliver (.number n) opened) rest := by
  cases rest with
  | nil =>
    have settled : (State.mk opened (.number n part)).settled = deliver (.number n) opened := by
      simp [State.settled, ends]
    rw [run_nil, run_nil, State.ended, State.ended, settled, settled_deliver]
  | cons c cs =>
    have stops : extend n c part = none ∧ digit c = none := by
      rcases delimited c rfl with rfl | rfl | rfl <;> cases part <;> exact ⟨rfl, rfl⟩
    have same : step ⟨opened, .number n part⟩ c = step (deliver (.number n) opened) c := by
      rw [step_deliver]
      simp [step, stops, ends]
    rw [run, run, List.foldlM_cons, List.foldlM_cons, same]

end Reader

end RouteLoom
