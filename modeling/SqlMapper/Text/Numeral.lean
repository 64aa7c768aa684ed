/-!
# Numerals

Numbers written with digits of a base of at most sixteen.
-/

namespace SqlMapper.Text

/-- The value of a hexadecimal digit. -/
def hexValue? (char : Char) : Option Nat :=
  if char.isDigit then some (char.toNat - '0'.toNat)
  else if 'a' ≤ char ∧ char ≤ 'f' then some (char.toNat - 'a'.toNat + 10)
  else if 'A' ≤ char ∧ char ≤ 'F' then some (char.toNat - 'A'.toNat + 10)
  else none

/-- The number written in a base, if every character is a digit of it. -/
def readNumber? (base : Nat) (digits : List Char) : Option Nat :=
  digits.foldlM (fun number char => do
    let digit ← hexValue? char
    if digit < base then some (number * base + digit) else none) 0

end SqlMapper.Text
