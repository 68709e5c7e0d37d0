/-!
# The shortest decimal that names a binary fraction

Every binary floating-point number stands for an interval of reals, those that round to it. Among
the decimals in that interval the ones with the fewest digits are found by trying grids of one,
two, … digits: if a grid has a point in the interval, one of the two grid points next to the number
itself is such a point. All tests are exact, on natural numbers.

* `Binary.ofBits`: the number that 64 bits encode, for a finite number other than zero.
* `shortest`: the digits, and the power of ten they are multiplied by.
-/

namespace StyleConstants.Decimal

/-- The positive number `mantissa * 2 ^ exponent`, with whether the next smaller representable
number is only half a step away. -/
structure Binary where
  mantissa : Nat
  exponent : Int
  narrowBelow : Bool
  deriving DecidableEq, Repr

/-- The bit that a mantissa has above those that are stored, except near zero. -/
def hiddenBit : Nat := 0x10000000000000

/-- The absolute value of the finite number that the bits of a double-precision number encode. -/
def Binary.ofBits (bits : Nat) : Binary :=
  let fraction : Nat := bits % hiddenBit
  let biased : Nat := bits / hiddenBit % 0x800
  if biased = 0 then ⟨fraction, -1074, false⟩
  else ⟨hiddenBit + fraction, (biased : Int) - 1075, fraction == 0 && 1 < biased⟩

/-- The decimal `digits * 10 ^ exponent`. -/
structure Scientific where
  digits : Nat
  exponent : Int
  deriving DecidableEq, Repr

/-- The two factors that make a number of quarter steps of `2 ^ binary` comparable with a number of
steps of `10 ^ decimal`. -/
def commonScale (binary decimal : Int) : Nat × Nat :=
  (Nat.pow 2 (binary - 2).toNat * Nat.pow 10 (-decimal).toNat,
    Nat.pow 2 (2 - binary).toNat * Nat.pow 10 decimal.toNat)

/-- Whether `point * 10 ^ decimal` rounds to the number; the ends of its interval do so exactly if
the mantissa is even. -/
def Binary.names (x : Binary) (decimal : Int) (point : Nat) : Bool :=
  let (quarter, step) := commonScale x.exponent decimal
  let low := (4 * x.mantissa - (if x.narrowBelow then 1 else 2)) * quarter
  let high := (4 * x.mantissa + 2) * quarter
  let place := point * step
  if x.mantissa % 2 = 0 then low ≤ place && place ≤ high else low < place && place < high

/-- The grid point of `10 ^ decimal` nearest to the number among those that round to it; the even
one of two equally near. -/
def Binary.pointOn (x : Binary) (decimal : Int) : Option Nat :=
  let (quarter, step) := commonScale x.exponent decimal
  let exact := 4 * x.mantissa * quarter
  let below := exact / step
  let gap := exact % step
  match x.names decimal below, x.names decimal (below + 1) with
  | true, true =>
    if 2 * gap < step ∨ (2 * gap = step ∧ below % 2 = 0) then some below else some (below + 1)
  | true, false => some below
  | false, true => some (below + 1)
  | false, false => none

/-- The greatest power of ten that is at most `num / den`, by its exponent. -/
def leadingExponent (num den : Nat) : Int :=
  if den ≤ num then ((Nat.toDigits 10 (num / den)).length : Int) - 1
  else -((Nat.toDigits 10 ((den - 1) / num)).length : Int)

/-- Moves the zeros at the end of the digits into the exponent. -/
def Scientific.normal (x : Scientific) : Scientific :=
  if _h : x.digits ≠ 0 ∧ x.digits % 10 = 0 then
    Scientific.normal ⟨x.digits / 10, x.exponent + 1⟩
  else x
termination_by x.digits
decreasing_by omega

/-- The shortest decimal that rounds to the number, and of several the nearest. -/
def shortest (x : Binary) : Scientific :=
  let (quarter, step) := commonScale x.exponent 0
  let leading := leadingExponent (4 * x.mantissa * quarter) step
  let found := (List.range 17).findSome? fun (n : Nat) =>
    let decimal := leading - n
    (x.pointOn decimal).map fun point => Scientific.mk point decimal
  (found.getD ⟨0, 0⟩).normal

end StyleConstants.Decimal
