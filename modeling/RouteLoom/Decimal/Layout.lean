import RouteLoom.Decimal.Shortest

/-!
# How a float is laid out

A `Layout` holds the decisions that the digits leave open: between which exponents of the leading
digit a float is written with its point in place, and whether a positive exponent has a sign. A
float in place always shows a digit behind the point.
-/

namespace RouteLoom.Decimal

structure Layout where
  /-- The least exponent of the leading digit that is written in place. -/
  least : Int
  /-- The greatest exponent of the leading digit that is written in place. -/
  greatest : Int
  signed : Bool

def inPlace (d : Scientific) : String :=
  let digits := Nat.toDigits 10 d.digits
  if 0 ≤ d.scale then String.ofList (digits ++ List.replicate d.scale.toNat '0') ++ ".0"
  else
    let behind := (-d.scale).toNat
    let padded := List.replicate (behind + 1 - digits.length) '0' ++ digits
    String.ofList (padded.take (padded.length - behind)) ++ "."
      ++ String.ofList (padded.drop (padded.length - behind))

def Scientific.leading (d : Scientific) : Int :=
  d.scale + (Nat.toDigits 10 d.digits).length - 1

/-- The digits with the point behind the first one, if others follow, and an exponent. -/
def Layout.withExponent (l : Layout) (d : Scientific) : String :=
  let sign := if d.leading < 0 then "-" else if l.signed then "+" else ""
  let exponent := "e" ++ sign ++ toString d.leading.natAbs
  match Nat.toDigits 10 d.digits with
  | [] => exponent
  | [first] => String.ofList [first] ++ exponent
  | first :: rest => String.ofList (first :: '.' :: rest) ++ exponent

def Layout.positive (l : Layout) (d : Scientific) : String :=
  if l.least ≤ d.leading && d.leading ≤ l.greatest then inPlace d else l.withExponent d

def Layout.text (l : Layout) (x : Float) : String :=
  let bits := x.toBits.toNat
  let sign := if bits / Nat.pow 2 63 = 1 then "-" else ""
  if bits % Nat.pow 2 63 = 0 then sign ++ "0.0"
  else sign ++ l.positive (Positive.ofBits bits).shortest

end RouteLoom.Decimal
