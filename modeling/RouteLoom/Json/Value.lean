/-!
# JSON values and their two written forms

The library writes objects, arrays, texts, truth values, natural numbers and `null`, and nothing
else. Members stay in the order in which the value lists them.
-/

namespace RouteLoom

inductive Json
  | null
  | bool (b : Bool)
  | natural (n : Nat)
  | text (s : String)
  | array (items : List Json)
  | object (members : List (String × Json))

namespace Json

/-! ### Texts -/

def hexDigit (n : Nat) : Char :=
  if n < 10 then Char.ofNat (48 + n) else Char.ofNat (87 + n)

/-- Quotation marks, backslashes and control characters are escaped; all else stands for itself. -/
def escape (c : Char) : List Char :=
  if c = '"' then ['\\', '"']
  else if c = '\\' then ['\\', '\\']
  else if c = '\x08' then ['\\', 'b']
  else if c = '\x0c' then ['\\', 'f']
  else if c = '\n' then ['\\', 'n']
  else if c = '\r' then ['\\', 'r']
  else if c = '\t' then ['\\', 't']
  else if c.toNat < 32 then ['\\', 'u', '0', '0', hexDigit (c.toNat / 16), hexDigit (c.toNat % 16)]
  else [c]

def quote (s : String) : List Char :=
  '"' :: s.toList.flatMap escape ++ ['"']

/-! ### The compact form -/

mutual

def compactChars : Json → List Char
  | .null => ['n', 'u', 'l', 'l']
  | .bool true => ['t', 'r', 'u', 'e']
  | .bool false => ['f', 'a', 'l', 's', 'e']
  | .natural n => Nat.toDigits 10 n
  | .text s => quote s
  | .array [] => ['[', ']']
  | .array (j :: rest) => '[' :: compactChars j ++ compactItems rest
  | .object [] => ['{', '}']
  | .object ((k, j) :: rest) => '{' :: quote k ++ ':' :: compactChars j ++ compactMembers rest

/-- The items after the first, each behind its comma, and the closing bracket. -/
def compactItems : List Json → List Char
  | [] => [']']
  | j :: rest => ',' :: compactChars j ++ compactItems rest

/-- The members after the first, each behind its comma, and the closing brace. -/
def compactMembers : List (String × Json) → List Char
  | [] => ['}']
  | (k, j) :: rest => ',' :: quote k ++ ':' :: compactChars j ++ compactMembers rest

end

def compact (j : Json) : String := String.ofList j.compactChars

/-! ### The pretty form -/

def newLine (depth : Nat) : List Char := '\n' :: List.replicate (2 * depth) ' '

mutual

def prettyChars (depth : Nat) : Json → List Char
  | .array (j :: rest) =>
    '[' :: newLine (depth + 1) ++ prettyChars (depth + 1) j ++ prettyItems depth rest
  | .object ((k, j) :: rest) =>
    '{' :: newLine (depth + 1) ++ quote k ++ ':' :: ' ' :: prettyChars (depth + 1) j
      ++ prettyMembers depth rest
  | .array [] => ['[', ']']
  | .object [] => ['{', '}']
  | .null => compactChars .null
  | .bool b => compactChars (.bool b)
  | .natural n => compactChars (.natural n)
  | .text s => compactChars (.text s)

def prettyItems (depth : Nat) : List Json → List Char
  | [] => newLine depth ++ [']']
  | j :: rest => ',' :: newLine (depth + 1) ++ prettyChars (depth + 1) j ++ prettyItems depth rest

def prettyMembers (depth : Nat) : List (String × Json) → List Char
  | [] => newLine depth ++ ['}']
  | (k, j) :: rest =>
    ',' :: newLine (depth + 1) ++ quote k ++ ':' :: ' ' :: prettyChars (depth + 1) j
      ++ prettyMembers depth rest

end

def pretty (j : Json) : String := String.ofList (j.prettyChars 0)

/-! ### Optional parts -/

def ofOption {α : Type} (write : α → Json) : Option α → Json
  | none => .null
  | some a => write a

/-- The member list of an optional part: nothing, or one member. -/
def memberOf {α : Type} (key : String) (write : α → Json) : Option α → List (String × Json)
  | none => []
  | some a => [(key, write a)]

end Json

end RouteLoom
