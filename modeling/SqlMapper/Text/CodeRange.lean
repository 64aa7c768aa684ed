/-!
# Ranges of code points

Character classes and case maps are tables of code point ranges. Alternating
capitals and small letters share a block, so a range has a step. All tables of code
points follow version 17 of the Unicode standard.
-/

namespace SqlMapper.Text

/-- The code points `first, first + step, …` up to and including `last`. -/
structure CodeRange where
  first : Nat
  last : Nat
  step : Nat

namespace CodeRange

/-- Membership of one code point. -/
def contains (range : CodeRange) (point : Nat) : Bool :=
  range.first ≤ point && point ≤ range.last && (point - range.first) % range.step == 0

/-- Whether some range of the table holds the character. -/
def covers (table : List CodeRange) (char : Char) : Bool :=
  table.any fun range => range.contains char.toNat

end CodeRange

end SqlMapper.Text
