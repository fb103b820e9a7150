/-!
# The shortest decimal of a float

A finite float is a natural number times a power of two, and every real close enough to it is read
back as that float. Among the decimals that are read back, `shortest` takes one with the fewest
digits.
-/

namespace RouteLoom.Decimal

/-- The decimal `digits * 10 ^ scale`. -/
structure Scientific where
  digits : Nat
  scale : Int
deriving DecidableEq, Repr

/-- The positive float `mantissa * 2 ^ power`. Below a power of two the floats lie twice as dense,
which `narrow` says of this one. -/
structure Positive where
  mantissa : Nat
  power : Int
  narrow : Bool
deriving DecidableEq, Repr

/-- The parts of a finite float that is not zero. The sign is dropped. -/
def Positive.ofBits (bits : Nat) : Positive :=
  let fraction := bits % Nat.pow 2 52
  let exponent : Nat := bits / Nat.pow 2 52 % Nat.pow 2 11
  if exponent = 0 then ⟨fraction, -1074, false⟩
  else ⟨Nat.pow 2 52 + fraction, (exponent : Int) - 1075, fraction = 0 && 1 < exponent⟩

/-- A quarter of `x` units in the last place, as a multiple of `10 ^ scale`. The two parts are a
numerator and a denominator. -/
def Positive.quarters (p : Positive) (scale : Int) (x : Nat) : Nat × Nat :=
  let power := p.power - 2
  (x * Nat.pow 2 power.toNat * Nat.pow 10 (-scale).toNat,
    Nat.pow 2 (-power).toNat * Nat.pow 10 scale.toNat)

/-- Whether `digits * 10 ^ scale` is read back as `p`. The ends of the interval belong to the float
with the even mantissa. -/
def Positive.readsBack (p : Positive) (d : Scientific) : Bool :=
  let (low, unit) := p.quarters d.scale (4 * p.mantissa - if p.narrow then 1 else 2)
  let (high, _) := p.quarters d.scale (4 * p.mantissa + 2)
  let point := d.digits * unit
  if p.mantissa % 2 = 0 then low ≤ point && point ≤ high else low < point && point < high

/-- Whether a numerator lies below the middle between two multiples of its denominator, or in the
middle and above an even multiple. -/
def nearerBelow (value unit : Nat) : Bool :=
  let rest := 2 * (value % unit)
  rest < unit || (rest = unit && value / unit % 2 = 0)

/-- The neighbours of `p` on the grid of the multiples of `10 ^ scale` that are read back, the
preferred one first. -/
def Positive.neighbours (p : Positive) (scale : Int) : List Scientific :=
  let (value, unit) := p.quarters scale (4 * p.mantissa)
  let below : Scientific := ⟨value / unit, scale⟩
  let above : Scientific := ⟨value / unit + 1, scale⟩
  (if nearerBelow value unit then [below, above] else [above, below]).filter p.readsBack

def Positive.magnitude (p : Positive) : Int :=
  let (value, unit) := p.quarters 0 (4 * p.mantissa)
  let guess : Int := (Nat.toDigits 10 value).length - (Nat.toDigits 10 unit).length
  let (shifted, one) := p.quarters guess (4 * p.mantissa)
  if one ≤ shifted then guess else guess - 1

/-- A decimal of at most seventeen digits, the fewest that are read back. The first grid lies one
place above the leading digit, for a float just below a power of ten. -/
def Positive.shortest (p : Positive) : Scientific :=
  let grids := (List.range 18).map fun (n : Nat) => p.magnitude + 1 - (n : Int)
  (grids.findSome? fun scale => (p.neighbours scale).head?).getD ⟨0, 0⟩

end RouteLoom.Decimal
