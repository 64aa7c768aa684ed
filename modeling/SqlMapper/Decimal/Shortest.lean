/-!
# Shortest decimal text of a floating point number

A finite number is a mantissa times a power of two, and every real number close
enough to it rounds to it. `Binary.shortest` finds the decimal with the fewest
digits among those, taking the nearest when several have the same length, in
exact arithmetic. `floatText` writes that decimal: positionally between
one ten-thousandth and ten to the sixteenth, with an exponent elsewhere.
-/

namespace SqlMapper.Decimal

/-- The positive number `mantissa * 2 ^ exponent`. `narrow` marks a number whose
lower neighbour is only half as far away as its upper one. -/
structure Binary where
  mantissa : Nat
  exponent : Int
  narrow : Bool

/-- The positive number `digits * 10 ^ exponent`. -/
structure Numeral where
  digits : Nat
  exponent : Int

/-- The magnitude of a finite double from its bit pattern. -/
def Binary.ofBits (bits : UInt64) : Binary :=
  let hidden : Nat := Nat.pow 2 52
  let fraction : Nat := bits.toNat % hidden
  let biased : Nat := bits.toNat / hidden % Nat.pow 2 11
  if biased = 0 then ⟨fraction, -1074, false⟩
  else ⟨hidden + fraction, (biased : Int) - 1075, fraction = 0 && 1 < biased⟩

namespace Binary

/-- A fraction and the bounds of the interval that rounds to it, all over one
denominator. -/
structure Scaled where
  lower : Nat
  value : Nat
  upper : Nat
  denominator : Nat

/-- The number and its rounding interval in units of `10 ^ unit`. -/
def scaled (number : Binary) (unit : Int) : Scaled :=
  let factor := Nat.pow 2 (number.exponent - 2).toNat * Nat.pow 10 (-unit).toNat
  { lower := (4 * number.mantissa - if number.narrow then 1 else 2) * factor
    value := 4 * number.mantissa * factor
    upper := (4 * number.mantissa + 2) * factor
    denominator := Nat.pow 2 (2 - number.exponent).toNat * Nat.pow 10 unit.toNat }

/-- Whether `count` units round to the number. The bounds themselves do so only
when the mantissa is even. -/
def rounds (number : Binary) (scaled : Scaled) (count : Nat) : Bool :=
  let point := count * scaled.denominator
  if number.mantissa % 2 = 0 then scaled.lower ≤ point && point ≤ scaled.upper
  else scaled.lower < point && point < scaled.upper

/-- The multiple of `10 ^ unit` that rounds to the number and is nearest to it,
the larger one on a tie. -/
def nearestOnGrid? (number : Binary) (unit : Int) : Option Nat :=
  let scaled := number.scaled unit
  let below := scaled.value / scaled.denominator
  let above := below + 1
  match number.rounds scaled below, number.rounds scaled above with
  | false, false => none
  | true, false => some below
  | false, true => some above
  | true, true =>
    let past := scaled.value - below * scaled.denominator
    if 2 * past < scaled.denominator then some below else some above

/-- The power of ten of the leading digit of a number that is not zero. -/
def leadingPower (number : Binary) : Int :=
  let whole := number.scaled 0
  if whole.denominator ≤ whole.value then
    ((Nat.toDigits 10 (whole.value / whole.denominator)).length : Int) - 1
  else
    match (List.range 400).find? (fun power =>
      whole.denominator ≤ whole.value * Nat.pow 10 power) with
    | some power => -(power : Int)
    | none => 0

/-- The shortest decimal that rounds to the number, tried with one digit, then
two, up to the seventeen that always suffice. -/
def shortest (number : Binary) : Numeral :=
  let leading := number.leadingPower
  let candidates := (List.range 17).filterMap fun count =>
    let unit := leading - (count : Nat)
    (number.nearestOnGrid? unit).map fun digits => (⟨digits, unit⟩ : Numeral)
  candidates.headD ⟨number.mantissa, number.exponent⟩

end Binary

/-- Drop trailing zeros, at most `fuel` of them. -/
def Numeral.strip : Nat → Numeral → Numeral
  | 0, numeral => numeral
  | fuel + 1, numeral =>
    if numeral.digits % 10 = 0 ∧ numeral.digits ≠ 0 then
      Numeral.strip fuel ⟨numeral.digits / 10, numeral.exponent + 1⟩
    else numeral

/-- The decimal in positional notation, with at least one digit on both sides
of the point. -/
def Numeral.positional (digits : List Char) (leading : Int) : List Char :=
  if leading < 0 then
    '0' :: '.' :: List.replicate (-leading - 1).toNat '0' ++ digits
  else
    let width := leading.toNat + 1
    let whole := digits.take width
    let fraction := digits.drop width
    whole ++ List.replicate (width - whole.length) '0' ++ '.' ::
      (if fraction.isEmpty then ['0'] else fraction)

/-- The decimal with one digit before the point and a power of ten after it. -/
def Numeral.scientific (digits : List Char) (leading : Int) : List Char :=
  let fraction := digits.drop 1
  digits.take 1 ++ (if fraction.isEmpty then [] else '.' :: fraction) ++
    'e' :: (toString leading).toList

/-- Leading powers from `10 ^ lowestPositional` to `10 ^ highestPositional` are
written positionally. -/
def lowestPositional : Int := -4

/-- The largest leading power that is written positionally. -/
def highestPositional : Int := 15

/-- The text of a decimal that is not zero. -/
def Numeral.text (numeral : Numeral) : String :=
  let bare := numeral.strip 400
  let digits := Nat.toDigits 10 bare.digits
  let leading := bare.exponent + digits.length - 1
  if lowestPositional ≤ leading ∧ leading ≤ highestPositional then
    String.ofList (Numeral.positional digits leading)
  else
    String.ofList (Numeral.scientific digits leading)

/-- The text of a double: the fewest digits that read back as the same number. -/
def floatText (value : Float) : String :=
  let bits := value.toBits
  let magnitude := bits.toNat % Nat.pow 2 63
  let infinity := 0x7FF * Nat.pow 2 52
  let sign := if Nat.pow 2 63 ≤ bits.toNat then "-" else ""
  if infinity < magnitude then "NaN"
  else if magnitude = infinity then sign ++ "inf"
  else if magnitude = 0 then sign ++ "0.0"
  else sign ++ (Binary.ofBits bits).shortest.text

end SqlMapper.Decimal
