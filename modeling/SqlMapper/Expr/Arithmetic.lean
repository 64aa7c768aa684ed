import SqlMapper.Decimal.Remainder
import SqlMapper.Operator
import SqlMapper.Value

/-!
# Arithmetic on values

Integers are computed exactly and then checked against the width of the result:
an operation on two narrow integers stays narrow, any other on integers is wide.
Mixed with a double, integers become doubles. Null absorbs every operation.
-/

namespace SqlMapper

/-- The width of an integer type. -/
inductive Width where
  | narrow
  | wide
  deriving DecidableEq

namespace Width

/-- The least number that is too large. Its negative is the least number that can
be represented. -/
def bound : Width → Int
  | narrow => 0x80000000
  | wide => 0x8000000000000000

/-- Whether a number can be represented. -/
def fits (width : Width) (number : Int) : Bool :=
  -width.bound ≤ number && number < width.bound

/-- The integer value of a number that fits. -/
def value (width : Width) (number : Int) : Value :=
  match width with
  | narrow => .i32 (Int32.ofInt number)
  | wide => .i64 (Int64.ofInt number)

/-- The integer value of a number, if it fits. -/
def value? (width : Width) (number : Int) : Option Value :=
  if width.fits number then some (width.value number) else none

end Width

/-- The width of the result of an operation on two integers. -/
def Value.commonWidth? : Value → Value → Option Width
  | .i32 _, .i32 _ => some .narrow
  | .i32 _, .i64 _ => some .wide
  | .i64 _, .i32 _ => some .wide
  | .i64 _, .i64 _ => some .wide
  | _, _ => none

namespace Arithmetic

/-- The exact result on integers of the given width, unless it does not fit.
Division rounds toward zero and fails when its quotient does not fit; so does
the remainder, which has the sign of the dividend. -/
def onIntegers (op : Arithmetic) (width : Width) (left right : Int) : Option Value :=
  match op with
  | add => width.value? (left + right)
  | sub => width.value? (left - right)
  | mul => width.value? (left * right)
  | div => if right = 0 then none else width.value? (left.tdiv right)
  | rem =>
    if right = 0 || !width.fits (left.tdiv right) then none
    else width.value? (left.tmod right)

/-- The result on doubles. -/
def onFloats (op : Arithmetic) (left right : Float) : Float :=
  match op with
  | add => left + right
  | sub => left - right
  | mul => left * right
  | div => left / right
  | rem => Decimal.floatRemainder left right

end Arithmetic

end SqlMapper
