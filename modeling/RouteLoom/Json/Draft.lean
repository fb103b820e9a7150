import RouteLoom.Json.Value

/-!
# What a text spells

A `Draft` is what reading found in a text. It keeps what a plain value would lose: members in their
order and repeated ones too, the spelling of numbers, and the place where the text stopped being
JSON. A text that cannot be read to its end still has a draft, which ends in a `cut`, so whoever
goes through a draft meets the flaw exactly when it comes to it. Half of a surrogate pair makes a
text of which the draft keeps nothing (`text none`), and a number can lie beyond every float.
-/

namespace RouteLoom

/-- Why a text is not JSON. How an unfinished text counts can depend on who meets its end, so the
flaw tells what was open there. -/
inductive Flaw
  /-- The text ended where a value, a key or a colon was wanted. -/
  | incomplete
  /-- The text ended where an array or an object might have ended. -/
  | unclosed
  /-- The text ended inside `null`, `true` or `false`. -/
  | wordOpen
  /-- The text ended inside a number. -/
  | numberOpen
  /-- The text ended between quotation marks; `sound` if what stands there may still have a
  value. -/
  | textOpen (sound : Bool)
  | malformed
deriving DecidableEq, Repr

/-- A number as it is spelled; `exponent` is absent if no exponent is written. -/
structure Numeral where
  negative : Bool
  whole : Nat
  /-- The digits behind the point, last first. -/
  fraction : List Nat
  exponent : Option Int
deriving DecidableEq, Repr

namespace Numeral

def ofNat (n : Nat) : Numeral := ⟨false, n, [], none⟩

/-- The integer that a plain numeral stands for, if it fits in 64 bits. Negative zero is none. -/
def integer? (n : Numeral) : Option Int :=
  if n.fraction ≠ [] || n.exponent.isSome then none
  else if n.negative then
    if 0 < n.whole && n.whole ≤ Nat.pow 2 63 then some (-n.whole) else none
  else if n.whole < Nat.pow 2 64 then some n.whole else none

end Numeral

inductive Draft
  | null
  | bool (b : Bool)
  | number (n : Numeral)
  | text (s : Option String)
  | array (items : List Draft)
  /-- An object with the key and the value of each member; a key is a text or a cut. -/
  | object (members : List (Draft × Draft))
  /-- Reading stopped here. -/
  | cut (flaw : Flaw)

namespace Draft

def text? : Draft → Option String
  | .text s => s
  | _ => none

mutual

def flaw? : Draft → Option Flaw
  | .cut f => some f
  | .array items => flawOfItems items
  | .object members => flawOfMembers members
  | .null => none
  | .bool _ => none
  | .number _ => none
  | .text _ => none

def flawOfItems : List Draft → Option Flaw
  | [] => none
  | d :: rest => d.flaw? <|> flawOfItems rest

def flawOfMembers : List (Draft × Draft) → Option Flaw
  | [] => none
  | (key, d) :: rest => key.flaw? <|> d.flaw? <|> flawOfMembers rest

end

end Draft

mutual

def Json.draft : Json → Draft
  | .null => .null
  | .bool b => .bool b
  | .natural n => .number (.ofNat n)
  | .text s => .text (some s)
  | .array items => .array (Json.itemDrafts items)
  | .object members => .object (Json.memberDrafts members)

def Json.itemDrafts : List Json → List Draft
  | [] => []
  | j :: rest => j.draft :: Json.itemDrafts rest

def Json.memberDrafts : List (String × Json) → List (Draft × Draft)
  | [] => []
  | (k, j) :: rest => (.text (some k), j.draft) :: Json.memberDrafts rest

end

end RouteLoom
