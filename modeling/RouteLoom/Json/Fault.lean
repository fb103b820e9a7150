import RouteLoom.Json.Real
import RouteLoom.Text.Quoted

/-!
# Why a text does not give a value

Either the text is not JSON, or it is and does not have the shape that was wanted. Only the second
has a message here.
-/

namespace RouteLoom

inductive Found
  | null
  | bool (b : Bool)
  | integer (i : Int)
  | real (n : Numeral)
  | text (s : String)
  | sequence
  | map
  | unitVariant
deriving DecidableEq, Repr

def Found.message : Found → String
  | .null => "null"
  | .bool b => "boolean " ++ Text.marked (if b then "true" else "false")
  | .integer i => "integer " ++ Text.marked (toString i)
  | .real n => "floating point " ++ Text.marked n.realText
  | .text s => "string " ++ Text.quoted s
  | .sequence => "sequence"
  | .map => "map"
  | .unitVariant => "unit variant"

inductive Mismatch
  | wrongType (found : Found) (wanted : String)
  | wrongValue (found : Found) (wanted : String)
  | wrongLength (length : Nat) (wanted : String)
  | unknownVariant (name : String) (variants : List String)
  | missingField (name : String)
  | duplicateField (name : String)
deriving DecidableEq, Repr

/-- Two choices are joined by a word, more are listed. -/
def oneOf : List String → String
  | [a] => Text.marked a
  | [a, b] => Text.marked a ++ " or " ++ Text.marked b
  | names => "one of " ++ ", ".intercalate (names.map Text.marked)

def elements (n : Nat) : String :=
  if n = 1 then "1 element" else toString n ++ " elements"

def Mismatch.message : Mismatch → String
  | .wrongType found wanted => "invalid type: " ++ found.message ++ ", expected " ++ wanted
  | .wrongValue found wanted => "invalid value: " ++ found.message ++ ", expected " ++ wanted
  | .wrongLength length wanted => "invalid length " ++ toString length ++ ", expected " ++ wanted
  | .unknownVariant name variants =>
    "unknown variant " ++ Text.marked name ++ ", expected " ++ oneOf variants
  | .missingField name => "missing field " ++ Text.marked name
  | .duplicateField name => "duplicate field " ++ Text.marked name

inductive JsonFault
  | incomplete
  | malformed
  | mismatch (m : Mismatch)
deriving DecidableEq, Repr

/-- The fault of a draft that is cut where its value is wanted. -/
def Flaw.fault : Flaw → JsonFault
  | .incomplete | .unclosed | .wordOpen | .numberOpen | .textOpen true => .incomplete
  | .textOpen false | .malformed => .malformed

/-- The fault of a draft that is cut where its value is skipped. A number that the text does not
finish counts as malformed there, and halves of surrogate pairs do not count. -/
def Flaw.skipFault : Flaw → JsonFault
  | .incomplete | .unclosed | .wordOpen | .textOpen _ => .incomplete
  | .numberOpen | .malformed => .malformed

end RouteLoom
