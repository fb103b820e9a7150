import RouteLoom.Text.Unseen

/-!
# Texts quoted in messages

A message quotes a text so that every character of it can be told: quotation marks, backslashes and
the common controls are written behind a backslash, and a character that is not seen by itself is
written as its code point in braces.
-/

namespace RouteLoom.Text

/-- A code point in lower-case hexadecimal, between braces. -/
def codePoint (c : Char) : List Char :=
  '\\' :: 'u' :: '{' :: Nat.toDigits 16 c.toNat ++ ['}']

def reveal (c : Char) : List Char :=
  if c = '"' then ['\\', '"']
  else if c = '\\' then ['\\', '\\']
  else if c = '\n' then ['\\', 'n']
  else if c = '\r' then ['\\', 'r']
  else if c = '\t' then ['\\', 't']
  else if c = '\x00' then ['\\', '0']
  else if c.toNat < 32 || unseen c then codePoint c
  else [c]

def quoted (s : String) : String :=
  String.ofList ('"' :: s.toList.flatMap reveal ++ ['"'])

def marked (s : String) : String := "`" ++ s ++ "`"

end RouteLoom.Text
