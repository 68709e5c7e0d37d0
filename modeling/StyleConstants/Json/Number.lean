import StyleConstants.Decimal.Shortest
import StyleConstants.Json.Value

/-!
# JSON numbers

A number without point and exponent is an integer if it fits into 64 bits. Any other is a fraction:
of its digits as many are used as fit into 64 bits, and the power of ten is applied in floating
point. A fraction is shown by its shortest decimal.
-/

namespace StyleConstants.Json

/-- A number as written: its sign, the digits before and after the point, and the exponent's sign
and digits. -/
structure Numeral where
  negative : Bool
  whole : List Char
  fraction : Option (List Char)
  exponent : Option (Bool × List Char)
  deriving DecidableEq, Repr

/-- The value of a digit. -/
def digitValue (c : Char) : Nat := c.toNat - '0'.toNat

/-- The natural number that the digits spell. -/
def naturalOf (digits : List Char) : Nat :=
  digits.foldl (fun value c => value * 10 + digitValue c) 0

/-- The least natural number that does not fit into 64 bits. -/
def wordEnd : Nat := 0x10000000000000000

/-- The bit of a sign among 64 bits, and the greatest absolute value of a negative integer. -/
def signBit : Nat := 0x8000000000000000

/-- The significand extended by as many of the digits as leave it within 64 bits, and their
number. -/
def extend (significand : Nat) : List Char → Nat × Nat
  | [] => (significand, 0)
  | c :: rest =>
    let longer := significand * 10 + digitValue c
    if longer < wordEnd then
      let (value, used) := extend longer rest
      (value, used + 1)
    else (significand, 0)

/-- The greatest power of ten that a floating-point number can hold. -/
def greatestPower : Nat := 308

/-- Divides by a power of ten, in steps that a floating-point number can hold. -/
def divideByPower (x : Float) (power : Nat) : Float :=
  if _h : power ≤ greatestPower then x / Float.ofScientific 1 false power
  else if x == 0.0 then x
  else
    divideByPower (x / Float.ofScientific 1 false greatestPower) (power - greatestPower)
termination_by power
decreasing_by
  simp only [greatestPower] at _h ⊢
  omega

/-- Multiplies by a power of ten, or nothing if the product is out of range. -/
def multiplyByPower (x : Float) (power : Nat) : Option Float :=
  if power ≤ greatestPower then
    let product := x * Float.ofScientific 1 false power
    if product.isInf then none else some product
  else if x == 0.0 then some x
  else none

/-- The fraction `significand * 10 ^ exponent`, or nothing if it is out of range. -/
def scaled (significand : Nat) (exponent : Int) : Option Float :=
  let x := significand.toUInt64.toFloat
  if 0 ≤ exponent then multiplyByPower x exponent.toNat
  else some (divideByPower x (-exponent).toNat)

/-- The greatest exponent that is counted. -/
def exponentLimit : Nat := 0x7FFFFFFF

/-- The value of a number with point or exponent or too many digits, or nothing if it is out of
range. -/
def Numeral.toFloat? (numeral : Numeral) : Option Float :=
  let (whole, used) := extend 0 numeral.whole
  let dropped := numeral.whole.length - used
  let (significand, places) := extend whole (numeral.fraction.getD [])
  let base : Int := (dropped : Int) - places
  let magnitude :=
    match numeral.exponent with
    | none => scaled significand base
    | some (negative, digits) =>
      let power := naturalOf digits
      if exponentLimit < power then
        if significand = 0 ∨ negative then some 0.0 else none
      else if negative then scaled significand (base - power)
      else scaled significand (base + power)
  magnitude.map fun x => if numeral.negative then -x else x

/-- The value of a number, or nothing if it is out of range. Minus zero is a fraction. -/
def Numeral.value? (numeral : Numeral) : Option Json :=
  match numeral.fraction, numeral.exponent with
  | none, none =>
    let magnitude := naturalOf numeral.whole
    if numeral.negative then
      if 0 < magnitude ∧ magnitude ≤ signBit then some (.integer (-magnitude))
      else numeral.toFloat?.map .float
    else if magnitude < wordEnd then some (.integer magnitude)
    else numeral.toFloat?.map .float
  | _, _ => numeral.toFloat?.map .float

/-! ## Showing a fraction -/

/-- A run of zeros. -/
def zeros (count : Nat) : String := String.ofList (List.replicate count '0')

/-- The text of a positive decimal: positional if the point stands at most sixteen digits after the
first digit and at most four zeros before it, else with an exponent. -/
def decimalText (x : Decimal.Scientific) : String :=
  let digits := toString x.digits
  let count := digits.length
  let point := x.exponent + count
  if 0 ≤ x.exponent ∧ point ≤ 16 then digits ++ zeros x.exponent.toNat ++ ".0"
  else if 0 < point ∧ point ≤ 16 then
    (digits.take point.toNat).toString ++ "." ++ (digits.drop point.toNat).toString
  else if -5 < point ∧ point ≤ 0 then "0." ++ zeros (-point).toNat ++ digits
  else
    let power := point - 1
    let sign := if power < 0 then "e-" else "e+"
    let mantissa :=
      if count = 1 then digits
      else (digits.take 1).toString ++ "." ++ (digits.drop 1).toString
    mantissa ++ sign ++ toString power.natAbs

/-- The text of a finite number. -/
def floatText (x : Float) : String :=
  let bits := x.toBits.toNat
  let sign := if bits < signBit then "" else "-"
  if bits % signBit = 0 then sign ++ "0.0"
  else sign ++ decimalText (Decimal.shortest (Decimal.Binary.ofBits bits))

end StyleConstants.Json
