import SqlMapper.Operator
import SqlMapper.Value

/-!
# Comparing values

The comparison that expressions use. It is coarser than strict equality: numbers
compare by the number they stand for, whatever their width, and members of one
enumerated type by their ordinal. Values that have no common order are at best
equal.
-/

namespace SqlMapper

/-- The order of two doubles, if neither is undefined. -/
def compareFloats (left right : Float) : Option Ordering :=
  if left < right then some .lt
  else if left == right then some .eq
  else if right < left then some .gt
  else none

/-- The order of two numbers: exact for integers, as doubles otherwise. -/
def compareNumbers (left right : Value) : Option Ordering :=
  match left.integer?, right.integer? with
  | some left, some right => some (compare left right)
  | _, _ =>
    match left.float?, right.float? with
    | some left, some right => compareFloats left right
    | _, _ => none

namespace Value

/-- The order of two values, or nothing when they cannot be compared. -/
def compare? : Value → Value → Option Ordering
  | null, null => some .eq
  | bool left, bool right => some (compare left right)
  | string left, string right => some (compare left right)
  | left, right =>
    match left, right with
    | member first, member second =>
      if first.type = second.type then some (compare first.ordinal.toInt second.ordinal.toInt)
      else none
    | _, _ =>
      if left.kind.isNumeric && right.kind.isNumeric then compareNumbers left right
      else if left.same right then some .eq
      else none

/-- Equality as expressions test it. -/
def equals (left right : Value) : Bool :=
  left.compare? right == some .eq

end Value

end SqlMapper
