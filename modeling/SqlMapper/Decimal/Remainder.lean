import SqlMapper.Decimal.Shortest

/-!
# Remainder of floating point numbers

The remainder of a truncating division of two doubles is itself a double, so it
is computed exactly on integers: both magnitudes are brought to the smaller of
their exponents, and the remainder there takes the sign of the dividend.
-/

namespace SqlMapper.Decimal

/-- The remainder of the magnitudes, in units of `2 ^ exponent`. -/
def Binary.remainder (dividend divisor : Binary) : Nat × Int :=
  let exponent := min dividend.exponent divisor.exponent
  let left := dividend.mantissa * Nat.pow 2 (dividend.exponent - exponent).toNat
  let right := divisor.mantissa * Nat.pow 2 (divisor.exponent - exponent).toNat
  (left % right, exponent)

/-- `dividend - divisor * n`, where `n` is the quotient rounded toward zero.
There is no remainder of an infinite dividend or by zero. -/
def floatRemainder (dividend divisor : Float) : Float :=
  if dividend.isNaN || divisor.isNaN || dividend.isInf || divisor == 0.0 then 0.0 / 0.0
  else if divisor.isInf || dividend == 0.0 then dividend
  else
    let (units, exponent) :=
      (Binary.ofBits dividend.toBits).remainder (Binary.ofBits divisor.toBits)
    let magnitude := (Float.ofNat units).scaleB exponent
    if dividend < 0.0 then -magnitude else magnitude

end SqlMapper.Decimal
