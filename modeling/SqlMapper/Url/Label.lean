import SqlMapper.Text.Joining
import SqlMapper.Url.DomainForm

/-!
# Labels

The parts of a domain between dots. A label with letters beyond ASCII has an ASCII
form too: the mark `xn--`, the ASCII characters of the label, a hyphen if there are
any, and digits that say which characters are put where. The digits form numbers of
variable length; each number counts how many places are passed over, in a text that
is gone through once for every code point from 128 on.
-/

namespace SqlMapper.Url

/-- The digit that a character stands for in the ASCII form of a label. -/
def labelDigit? (char : Char) : Option Nat :=
  if char.isDigit then some (char.toNat - '0'.toNat + 26)
  else if 'a' ≤ char ∧ char ≤ 'z' then some (char.toNat - 'a'.toNat)
  else none

/-- The bias after a number: the thresholds of the next number follow the size of
the last one. -/
def labelBias (delta count : Nat) (first : Bool) : Nat :=
  let delta := if first then delta / 700 else delta / 2
  reduce 8 (delta + delta / count) 0
where
  reduce : Nat → Nat → Nat → Nat
    | 0, delta, steps => steps + 36 * delta / (delta + 38)
    | fuel + 1, delta, steps =>
      if 455 < delta then reduce fuel (delta / 35) (steps + 36)
      else steps + 36 * delta / (delta + 38)

/-- The largest number that the digits of a label may stand for. -/
def largestIndex : Nat := 0xFFFFFFFF

/-- What is known after some numbers of a label have been read. -/
structure LabelDecoder where
  decoded : List Char
  /-- The code point that is being put into the text. -/
  point : Nat
  /-- The place behind the last character that was put. -/
  start : Nat
  bias : Nat

/-- Put the next character: `index` is where the last one ended and how many places
are passed over since then. -/
def LabelDecoder.put? (decoder : LabelDecoder) (index : Nat) : Option LabelDecoder :=
  let places := decoder.decoded.length + 1
  let point := decoder.point + index / places
  if point.isValidChar then
    let place := index % places
    some {
      decoded := decoder.decoded.take place ++ Char.ofNat point :: decoder.decoded.drop place
      point
      start := place + 1
      bias := labelBias (index - decoder.start) places (decoder.start == 0) }
  else none

/-- The text after all numbers have been read. `index` and `weight` belong to the
number being read, and `position` counts its digits. -/
def readDigits? (decoder : LabelDecoder) (index weight position : Nat) :
    List Char → Option (List Char)
  | [] => if position = 0 then some decoder.decoded else none
  | char :: rest => do
    let digit ← labelDigit? char
    let step := 36 * (position + 1)
    let threshold :=
      if step ≤ decoder.bias then 1
      else if decoder.bias + 26 ≤ step then 26
      else step - decoder.bias
    let index := index + digit * weight
    if largestIndex < index then none
    else if threshold ≤ digit then
      let weight := weight * (36 - threshold)
      if largestIndex < weight then none
      else readDigits? decoder index weight (position + 1) rest
    else
      let decoder ← decoder.put? index
      readDigits? decoder decoder.start 1 0 rest

/-- The longest ASCII form that is read. -/
def longestAsciiForm : Nat := 2000

/-- The longest label beyond ASCII. -/
def longestLabel : Nat := 1000

/-- Whether every character is ASCII. -/
def isAscii (chars : List Char) : Bool :=
  chars.all fun char => char.toNat < 0x80

/-- The label with the given ASCII form, without its mark. A hyphen in front is no
mark between two parts. -/
def readAsciiForm? (form : List Char) : Option (List Char) :=
  let digits := (form.reverse.takeWhile (· != '-')).reverse
  let before := form.take (form.length - digits.length)
  if digits.isEmpty || before.length == 1 || longestAsciiForm < form.length || !isAscii form then
    none
  else readDigits? ⟨before.dropLast, 128, 0, 72⟩ 0 1 0 digits

/-- What a label of a domain in its form stands for. An ASCII form has to stand for
a text that is in the form of a domain. -/
def readLabel? (label : List Char) : Option (List Char) := do
  match label with
  | 'x' :: 'n' :: '-' :: '-' :: form =>
    let text ← readAsciiForm? form
    if (← domainForm? text) = text then some text else none
  | _ => some label

/-- Whether joiners stand only where they can be seen: after a sign that silences a
vowel, or, if they part letters, between letters that would join. `before` holds
the characters to the left, the nearest first. -/
def joinersAreSeen (before : List Char) : List Char → Bool
  | [] => true
  | char :: rest =>
    let isSeen :=
      match before with
      | [] => false
      | last :: _ =>
        Text.markClass last == Text.viramaClass ||
          (char == '\u200C' && Text.joinAcross before rest)
    (!isJoiner char || isSeen) && joinersAreSeen (char :: before) rest

/-- Whether a text may be a label: no mark begins it, its joiners can be seen, and
it is not too long. -/
def isLabel (text : List Char) : Bool :=
  !text.head?.any Text.isMark && joinersAreSeen [] text &&
    (isAscii text || text.length ≤ longestLabel)

end SqlMapper.Url
