import SqlMapper.Text.Numeral
import SqlMapper.Text.Search

/-!
# Network addresses

Which texts are addresses of version four and six. An address of version six has
eight groups of up to four hexadecimal digits, of which a double colon may leave
some out; its last two groups may be written as an address of version four.
-/

namespace SqlMapper.Url

open Text (hexValue? readNumber?)

/-- One of the four numbers of a plain decimal address: at most 255, without
leading zeros. -/
def isOctet (digits : List Char) : Bool :=
  !digits.isEmpty && (digits.length == 1 || digits.head? != some '0') &&
    match readNumber? 10 digits with
    | some number => number ≤ 255
    | none => false

/-- Four octets with dots between them. -/
def isDottedQuad (chars : List Char) : Bool :=
  let octets := Text.splitOn '.' chars
  octets.length == 4 && octets.all isOctet

/-- A group of an address of version six. -/
def isGroup (chars : List Char) : Bool :=
  1 ≤ chars.length && chars.length ≤ 4 && chars.all fun char => (hexValue? char).isSome

/-- The number of groups that the pieces between colons stand for. Only the very
last piece of an address may be a dotted quad, which stands for two. -/
def countGroups? (mayEndDotted : Bool) : List (List Char) → Option Nat
  | [] => some 0
  | [piece] =>
    if isGroup piece then some 1
    else if mayEndDotted && isDottedQuad piece then some 2
    else none
  | piece :: rest =>
    if isGroup piece then (countGroups? mayEndDotted rest).map (· + 1) else none

/-- The number of groups in one part of an address. -/
def partGroups? (mayEndDotted : Bool) (chars : List Char) : Option Nat :=
  if chars.isEmpty then some 0 else countGroups? mayEndDotted (Text.splitOn ':' chars)

/-- What stands before and after the first double colon. -/
def splitDoubleColon? : List Char → Option (List Char × List Char)
  | ':' :: ':' :: rest => some ([], rest)
  | char :: rest => (splitDoubleColon? rest).map fun (left, right) => (char :: left, right)
  | [] => none

/-- An address of version six. -/
def isAddressSix (chars : List Char) : Bool :=
  match splitDoubleColon? chars with
  | none => !chars.isEmpty && partGroups? true chars == some 8
  | some (left, right) =>
    match partGroups? false left, partGroups? true right with
    | some first, some second => first + second ≤ 7
    | _, _ => false

/-- A number of an address of version four in a host name: decimal, octal after a
leading zero, or hexadecimal after `0x`. -/
def hostNumber? (digits : List Char) : Option Nat :=
  match digits with
  | [] => none
  | '0' :: 'x' :: rest => readNumber? 16 rest
  | '0' :: 'X' :: rest => readNumber? 16 rest
  | '0' :: digit :: rest => readNumber? 8 (digit :: rest)
  | _ => readNumber? 10 digits

/-- The dotted parts of a host name; a dot at the end adds none. -/
def hostParts (chars : List Char) : List (List Char) :=
  let parts := Text.splitOn '.' chars
  if 1 < parts.length && parts.getLast?.any List.isEmpty then parts.dropLast else parts

/-- Whether a host name has to be an address, because its last part is a number. -/
def endsInNumber (chars : List Char) : Bool :=
  match (hostParts chars).getLast? with
  | none => false
  | some last => !last.isEmpty && (last.all Char.isDigit || (hostNumber? last).isSome)

/-- An address of version four as a host name: up to four numbers, of which the
last fills the bytes that the others leave. -/
def isAddressFour (chars : List Char) : Bool :=
  let parts := hostParts chars
  match parts.mapM hostNumber? with
  | none => false
  | some numbers =>
    numbers.length ≤ 4 &&
      (numbers.dropLast.all fun number => number ≤ 255) &&
      numbers.getLast?.any fun last => last < Nat.pow 256 (5 - numbers.length)

end SqlMapper.Url
