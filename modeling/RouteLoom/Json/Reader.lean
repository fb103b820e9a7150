import RouteLoom.Json.Draft

/-!
# Reading a text

The reader goes through the characters once. Its state is what a value, if one ended here, would be
delivered to (the arrays and objects that are open, innermost first) and what may come next. A
character that cannot come next, or the end of the text inside an open value, cuts the draft at that
place. A text admits no control characters, and of the code units in its `\u` escapes only proper
surrogate pairs have a value.
-/

namespace RouteLoom

namespace Reader

/-! ### Texts -/

/-- What the text between two quotation marks has spelled so far, latest character first. -/
inductive Spelling
  | whole (chars : List Char)
  /-- The last escape is the first half of a surrogate pair. -/
  | half (chars : List Char) (high : Nat)
  /-- A half of a surrogate pair has no other half. -/
  | spoiled
deriving DecidableEq, Repr

namespace Spelling

def char (c : Char) : Spelling → Spelling
  | .whole cs => .whole (c :: cs)
  | .half _ _ => .spoiled
  | .spoiled => .spoiled

def unit (u : Nat) : Spelling → Spelling
  | .whole cs =>
    if u < 0xD800 || 0xE000 ≤ u then .whole (Char.ofNat u :: cs)
    else if u < 0xDC00 then .half cs u
    else .spoiled
  | .half cs high =>
    if 0xDC00 ≤ u && u < 0xE000 then
      .whole (Char.ofNat (0x10000 + (high - 0xD800) * 0x400 + (u - 0xDC00)) :: cs)
    else .spoiled
  | .spoiled => .spoiled

def text? : Spelling → Option String
  | .whole cs => some (String.ofList cs.reverse)
  | .half _ _ => none
  | .spoiled => none

def sound : Spelling → Bool
  | .whole _ => true
  | .half _ _ => true
  | .spoiled => false

end Spelling

def hexValue (c : Char) : Option Nat :=
  if '0' ≤ c && c ≤ '9' then some (c.toNat - 48)
  else if 'a' ≤ c && c ≤ 'f' then some (c.toNat - 87)
  else if 'A' ≤ c && c ≤ 'F' then some (c.toNat - 55)
  else none

def codeUnit : List Char → Option Nat
  | [a, b, c, d] => do
    let a ← hexValue a
    let b ← hexValue b
    let c ← hexValue c
    let d ← hexValue d
    return ((a * 16 + b) * 16 + c) * 16 + d
  | _ => none

def shortEscape (c : Char) : Option Char :=
  if c = '"' || c = '\\' || c = '/' then some c
  else if c = 'b' then some '\x08'
  else if c = 'f' then some '\x0c'
  else if c = 'n' then some '\n'
  else if c = 'r' then some '\r'
  else if c = 't' then some '\t'
  else none

/-! ### Numbers -/

inductive Part
  | minus
  | zero
  | whole
  | point
  | fraction
  | mark
  | sign (down : Bool)
  | exponent (down : Bool)
deriving DecidableEq, Repr

def Part.mayEnd : Part → Bool
  | .zero | .whole | .fraction | .exponent _ => true
  | .minus | .point | .mark | .sign _ => false

def digit (c : Char) : Option Nat :=
  if '0' ≤ c && c ≤ '9' then some (c.toNat - 48) else none

/-- A numeral together with the next character, if that belongs to it. -/
def extend (n : Numeral) (c : Char) : Part → Option (Numeral × Part)
  | .minus => (digit c).map fun d => ({ n with whole := d }, if d = 0 then .zero else .whole)
  | .zero => afterWhole
  | .whole => ((digit c).map fun d => ({ n with whole := n.whole * 10 + d }, .whole)) <|> afterWhole
  | .point => (digit c).map fun d => ({ n with fraction := [d] }, .fraction)
  | .fraction =>
    ((digit c).map fun d => ({ n with fraction := d :: n.fraction }, .fraction)) <|> afterFraction
  | .mark =>
    if c = '+' then some (n, .sign false)
    else if c = '-' then some (n, .sign true)
    else power false
  | .sign down => power down
  | .exponent down => power down
where
  afterFraction : Option (Numeral × Part) :=
    if c = 'e' || c = 'E' then some ({ n with exponent := some 0 }, .mark) else none
  afterWhole : Option (Numeral × Part) :=
    if c = '.' then some (n, .point) else afterFraction
  power (down : Bool) : Option (Numeral × Part) :=
    (digit c).map fun d =>
      let shifted := n.exponent.getD 0 * 10
      ({ n with exponent := some (if down then shifted - d else shifted + d) }, .exponent down)

/-! ### States -/

/-- An array or object that is open, with what it holds so far, latest first. -/
inductive Frame
  | array (done : List Draft)
  /-- An object whose next value is a key. -/
  | members (done : List (Draft × Draft))
  /-- An object whose next value belongs to `key`. -/
  | member (done : List (Draft × Draft)) (key : Draft)

inductive Mode
  | value
  | valueOrEnd
  | colon
  | commaOrEnd
  | word (rest : List Char) (value : Draft)
  | text (t : Spelling)
  | escape (t : Spelling)
  | unit (t : Spelling) (digits : List Char)
  | number (n : Numeral) (part : Part)
  | done (value : Draft)

structure State where
  opened : List Frame
  mode : Mode

/-- A draft, and whether the text went on behind it. -/
structure Reading where
  draft : Draft
  surplus : Bool

/-- The whole draft, if reading stops with the flaw `f` at `d`. A member that is cut in its key has
the cut for its value, too. -/
def unwind (f : Flaw) (d : Draft) : List Frame → Draft
  | [] => d
  | .array done :: fs => unwind f (.array (d :: done).reverse) fs
  | .members done :: fs => unwind f (.object ((d, .cut f) :: done).reverse) fs
  | .member done key :: fs => unwind f (.object ((key, d) :: done).reverse) fs

/-- The state once the value `d` has ended. -/
def deliver (d : Draft) : List Frame → State
  | [] => ⟨[], .done d⟩
  | .array done :: fs => ⟨.array (d :: done) :: fs, .commaOrEnd⟩
  | .members done :: fs => ⟨.member done d :: fs, .colon⟩
  | .member done key :: fs => ⟨.members ((key, d) :: done) :: fs, .commaOrEnd⟩

/-- The state once the innermost array or object has been closed by `c`. -/
def close (c : Char) : List Frame → Option State
  | .array done :: fs => if c = ']' then some (deliver (.array done.reverse) fs) else none
  | .members done :: fs => if c = '}' then some (deliver (.object done.reverse) fs) else none
  | _ => none

def blank (c : Char) : Bool := c = ' ' || c = '\n' || c = '\t' || c = '\r'

def keyWanted : List Frame → Bool
  | .members _ :: _ => true
  | _ => false

/-- The state behind the first character of a value. -/
def begin (opened : List Frame) (c : Char) : Option State :=
  if c = '"' then some ⟨opened, .text (.whole [])⟩
  else if keyWanted opened then none
  else if c = '[' then some ⟨.array [] :: opened, .valueOrEnd⟩
  else if c = '{' then some ⟨.members [] :: opened, .valueOrEnd⟩
  else if c = 'n' then some ⟨opened, .word ['u', 'l', 'l'] .null⟩
  else if c = 't' then some ⟨opened, .word ['r', 'u', 'e'] (.bool true)⟩
  else if c = 'f' then some ⟨opened, .word ['a', 'l', 's', 'e'] (.bool false)⟩
  else if c = '-' then some ⟨opened, .number ⟨true, 0, [], none⟩ .minus⟩
  else (digit c).map fun d =>
    ⟨opened, .number ⟨false, d, [], none⟩ (if d = 0 then .zero else .whole)⟩

/-- The state behind a character that follows a whole value or key. -/
def resume (s : State) (c : Char) : Option State :=
  if blank c then some s
  else match s.mode with
    | .colon => if c = ':' then some ⟨s.opened, .value⟩ else none
    | .commaOrEnd => if c = ',' then some ⟨s.opened, .value⟩ else close c s.opened
    | _ => none

/-- What has been read if the text is not JSON from here on. -/
def State.broken (s : State) (f : Flaw) : Reading :=
  match s.mode with
  | .done d => ⟨d, true⟩
  | _ => ⟨unwind f (.cut f) s.opened, false⟩

/-- The next state, or what has been read if no state is next. -/
def step (s : State) (c : Char) : Except Reading State :=
  match s.mode with
  | .value => orBroken s (if blank c then some s else begin s.opened c)
  | .valueOrEnd => orBroken s (if blank c then some s else close c s.opened <|> begin s.opened c)
  | .colon | .commaOrEnd | .done _ => orBroken s (resume s c)
  | .word (x :: rest) d =>
    orBroken s (if c = x then some (match rest with
      | [] => deliver d s.opened
      | _ :: _ => ⟨s.opened, .word rest d⟩) else none)
  | .word [] _ => .error (s.broken .malformed)
  | .text t =>
    if c = '"' then .ok (deliver (.text t.text?) s.opened)
    else if c = '\\' then .ok ⟨s.opened, .escape t⟩
    else if c.toNat < 32 then .error (s.broken .malformed)
    else .ok ⟨s.opened, .text (t.char c)⟩
  | .escape t =>
    if c = 'u' then .ok ⟨s.opened, .unit t []⟩
    else orBroken s ((shortEscape c).map fun e => ⟨s.opened, .text (t.char e)⟩)
  | .unit t digits =>
    let digits := digits ++ [c]
    if (digits.map Char.utf8Size).foldr (· + ·) 0 < 4 then .ok ⟨s.opened, .unit t digits⟩
    else orBroken s ((codeUnit digits).map fun u => ⟨s.opened, .text (t.unit u)⟩)
  | .number n part =>
    match extend n c part with
    | some (n, part) => .ok ⟨s.opened, .number n part⟩
    | none =>
      if part.mayEnd && (digit c).isNone then
        let s := deliver (.number n) s.opened
        orBroken s (resume s c)
      else .error (s.broken .malformed)
where
  orBroken (s : State) : Option State → Except Reading State
    | some t => .ok t
    | none => .error (s.broken .malformed)

def Mode.flaw : Mode → Flaw
  | .value | .colon | .done _ => .incomplete
  | .valueOrEnd | .commaOrEnd => .unclosed
  | .word _ _ => .wordOpen
  | .text t | .escape t | .unit t _ => .textOpen t.sound
  | .number _ _ => .numberOpen

def State.settled (s : State) : State :=
  match s.mode with
  | .number n part => if part.mayEnd then deliver (.number n) s.opened else s
  | _ => s

def State.ended (s : State) : Reading :=
  match s.settled.mode with
  | .done d => ⟨d, false⟩
  | mode => s.settled.broken mode.flaw

def start : State := ⟨[], .value⟩

def readChars (cs : List Char) : Reading :=
  match cs.foldlM step start with
  | .ok s => s.ended
  | .error r => r

end Reader

def Draft.read (text : String) : Reader.Reading := Reader.readChars text.toList

end RouteLoom
