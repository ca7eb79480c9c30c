/-! The shortest decimal that reads back as a given binary floating-point number. -/

namespace GossipNames.Decimal

/-- `digits * 10 ^ exponent`. -/
structure Digits where
  digits : Nat
  exponent : Int
  deriving DecidableEq, Repr

/-- A positive binary number `mantissa * 2 ^ exponent`; the gap below it is half as wide when the
mantissa is the smallest of its size. -/
structure Binary where
  mantissa : Nat
  exponent : Int
  narrowBelow : Bool

/-- A positive fraction. -/
private structure Fraction where
  numerator : Nat
  denominator : Nat

private def scaled (value : Nat) (base : Nat) (exponent : Int) : Fraction :=
  if 0 ≤ exponent then { numerator := value * Nat.pow base exponent.toNat, denominator := 1 }
  else { numerator := value, denominator := Nat.pow base exponent.natAbs }

private def Fraction.le (first second : Fraction) : Bool :=
  first.numerator * second.denominator ≤ second.numerator * first.denominator

private def Fraction.lt (first second : Fraction) : Bool :=
  first.numerator * second.denominator < second.numerator * first.denominator

/-- The power of ten that the leading digit stands for. No number of 64 bits is below
`10 ^ -330`. -/
private def leadingPower (value : Fraction) : Int :=
  let shown := toString (value.numerator * Nat.pow 10 330 / value.denominator)
  (shown.length : Int) - 331

/-- The nearer of the two neighbours on a grid of powers of ten that lies between the bounds. -/
private def onGrid? (value low high : Fraction) (closed : Bool) (exponent : Int) :
    Option Digits :=
  let step := scaled 1 10 exponent
  let below := value.numerator * step.denominator / (value.denominator * step.numerator)
  let inside := fun digits =>
    let point := scaled digits 10 exponent
    if closed then low.le point && point.le high else low.lt point && point.lt high
  let twice := 2 * value.numerator * step.denominator
  let middle := (2 * below + 1) * value.denominator * step.numerator
  if inside below ∧ inside (below + 1) then
    some { digits := if middle < twice ∨ middle = twice ∧ below % 2 = 1 then below + 1 else below,
           exponent }
  else if inside below then some { digits := below, exponent }
  else if inside (below + 1) then some { digits := below + 1, exponent }
  else none

/-- Moves trailing zeros of the digits into the exponent; no decimal here has more than a few. -/
private def withoutZeros : (steps : Nat) → Digits → Digits
  | 0, decimal => decimal
  | steps + 1, decimal =>
    if decimal.digits ≠ 0 ∧ decimal.digits % 10 = 0 then
      withoutZeros steps { digits := decimal.digits / 10, exponent := decimal.exponent + 1 }
    else decimal

/-- The coarsest grid with a decimal that rounds to the number; seventeen digits always do. -/
def shortest (number : Binary) : Digits :=
  let quarter := number.exponent - 2
  let value := scaled (4 * number.mantissa) 2 quarter
  let low := scaled (4 * number.mantissa - (if number.narrowBelow then 1 else 2)) 2 quarter
  let high := scaled (4 * number.mantissa + 2) 2 quarter
  let closed := number.mantissa % 2 = 0
  let power := leadingPower value
  let found := (List.range 17).findSome? fun (further : Nat) =>
      onGrid? value low high closed (power - further)
  withoutZeros 17 (found.getD { digits := 0, exponent := 0 })

/-- The magnitude of a finite number that is not zero. -/
def Binary.ofBits (bits : UInt64) : Binary :=
  let fraction : Nat := bits.toNat % Nat.pow 2 52
  let field : Nat := bits.toNat / Nat.pow 2 52 % Nat.pow 2 11
  if field = 0 then { mantissa := fraction, exponent := -1074, narrowBelow := false }
  else
    { mantissa := Nat.pow 2 52 + fraction, exponent := (field : Int) - 1075,
      narrowBelow := fraction = 0 ∧ field ≠ 1 }

/-- All digits of a decimal, without an exponent. -/
def Digits.positional (decimal : Digits) : String :=
  let shown := toString decimal.digits
  if 0 ≤ decimal.exponent then shown ++ String.ofList (List.replicate decimal.exponent.toNat '0')
  else
    let places := decimal.exponent.natAbs
    let filled := List.replicate (places + 1 - shown.length) '0' ++ shown.toList
    let whole := filled.take (filled.length - places)
    String.ofList (whole ++ '.' :: filled.drop (filled.length - places))

/-- The shortest text of a number of 64 bits, positional whatever its size. -/
def formatFloat (number : Float) : String :=
  let bits := number.toBits
  let sign := if Nat.pow 2 63 ≤ bits.toNat then "-" else ""
  if number.isNaN then "NaN"
  else if number.isInf then sign ++ "inf"
  else if number == 0 then sign ++ "0"
  else sign ++ (shortest (Binary.ofBits bits)).positional

end GossipNames.Decimal
