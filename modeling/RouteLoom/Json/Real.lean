import RouteLoom.Json.Draft
import RouteLoom.Decimal.Layout

/-!
# Numerals as floats

A numeral that is no 64-bit integer stands for a float. Its leading digits make a 64-bit
significand; once a further digit would not fit, the rest only counts: digits left out before the
point raise the power of ten, digits left out behind it change nothing. One multiplication or
division by a power of ten gives the float.
-/

namespace RouteLoom

namespace Numeral

/-- A significand with as many of the digits as 64 bits hold, and the digits left out. -/
def absorb (significand : Nat) : List Nat → Nat × List Nat
  | [] => (significand, [])
  | d :: rest =>
    if significand * 10 + d < 2 ^ 64 then absorb (significand * 10 + d) rest
    else (significand, d :: rest)

def powerOfTen (n : Nat) : Float := Float.ofScientific 1 false n

/-- Divides by `10 ^ 308` until the rest of a negative power is small enough for one division. The
steps are bounded because three of them turn every 64-bit significand into zero. -/
def divideDown : Nat → Float → Nat → Float
  | 0, _, _ => 0.0
  | steps + 1, x, n =>
    if n ≤ 308 then x / powerOfTen n
    else if x == 0.0 then x
    else divideDown steps (x / powerOfTen 308) (n - 308)

/-- The product `significand * 10 ^ power`, unless it lies beyond every float. -/
def scaled (significand : Nat) (power : Int) : Option Float :=
  let x := significand.toUInt64.toFloat
  if power < 0 then some (divideDown 4 x power.natAbs)
  else if power ≤ 308 then
    let y := x * powerOfTen power.natAbs
    if y.isInf then none else some y
  else if x == 0.0 then some x
  else none

def float? (n : Numeral) : Option Float :=
  let whole := (Nat.toDigits 10 n.whole).map fun c => c.toNat - 48
  let (front, left) := absorb 0 whole
  let (significand, ignored) := absorb front n.fraction.reverse
  let power : Int := left.length - (n.fraction.length - ignored.length) + n.exponent.getD 0
  (scaled significand power).map fun x => if n.negative then -x else x

/-- The text of a numeral that stands for a float. From `10 ^ -5` to below `10 ^ 16` the point is
in place, and an exponent always has its sign. -/
def layout : Decimal.Layout where
  least := -5
  greatest := 15
  signed := true

def realText (n : Numeral) : String := layout.text (n.float?.getD 0)

def hasValue (n : Numeral) : Bool := n.integer?.isSome || n.float?.isSome

end Numeral

end RouteLoom
