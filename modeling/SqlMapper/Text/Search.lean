/-!
# Searching and cutting text

Operations on texts as sequences of characters: blanks at the ends, occurrences
of one text inside another, replacement, and windows counted in characters.
-/

namespace SqlMapper.Text

/-- A blank of any script, line and paragraph separators included. -/
def isBlank (char : Char) : Bool :=
  let point := char.toNat
  (0x09 ≤ point && point ≤ 0x0D) || point == 0x20 || point == 0x85 || point == 0xA0 ||
    point == 0x1680 || (0x2000 ≤ point && point ≤ 0x200A) || point == 0x2028 ||
    point == 0x2029 || point == 0x202F || point == 0x205F || point == 0x3000

/-- Drop what satisfies `test` from the end. -/
def dropTail {Item : Type} (test : Item → Bool) (items : List Item) : List Item :=
  (items.reverse.dropWhile test).reverse

/-- The text without leading blanks. -/
def trimStart (text : String) : String :=
  String.ofList (text.toList.dropWhile isBlank)

/-- The text without trailing blanks. -/
def trimEnd (text : String) : String :=
  String.ofList (dropTail isBlank text.toList)

/-- The text without blanks at either end. -/
def trim (text : String) : String :=
  String.ofList (dropTail isBlank (text.toList.dropWhile isBlank))

/-- Whether `pattern` occurs somewhere in the characters. -/
def occursIn (pattern : List Char) : List Char → Bool
  | [] => pattern.isEmpty
  | char :: rest => pattern.isPrefixOf (char :: rest) || occursIn pattern rest

/-- Whether `text` begins with `pattern`. -/
def startsWith (text pattern : String) : Bool :=
  pattern.toList.isPrefixOf text.toList

/-- Whether `text` ends with `pattern`. -/
def endsWith (text pattern : String) : Bool :=
  pattern.toList.isSuffixOf text.toList

/-- Whether `pattern` occurs in `text`. -/
def contains (text pattern : String) : Bool :=
  occursIn pattern.toList text.toList

/-- Replace the occurrences of a non-empty `pattern` from left to right, after
passing over the `skip` characters that belong to the last occurrence. -/
def replaceOccurrences (pattern replacement : List Char) : Nat → List Char → List Char
  | _, [] => []
  | skip + 1, _ :: rest => replaceOccurrences pattern replacement skip rest
  | 0, char :: rest =>
    if pattern.isPrefixOf (char :: rest) then
      replacement ++ replaceOccurrences pattern replacement (pattern.length - 1) rest
    else
      char :: replaceOccurrences pattern replacement 0 rest

/-- Replace every occurrence of `pattern`. The empty text occurs before each
character and at the end. -/
def replace (text pattern replacement : String) : String :=
  if pattern.toList.isEmpty then
    String.ofList
      (replacement.toList ++ text.toList.flatMap fun char => char :: replacement.toList)
  else
    String.ofList (replaceOccurrences pattern.toList replacement.toList 0 text.toList)

/-- The characters of `text` after the first `start`. -/
def dropFirst (text : String) (start : Nat) : String :=
  String.ofList (text.toList.drop start)

/-- At most `length` characters of `text`, after the first `start`. -/
def window (text : String) (start length : Nat) : String :=
  String.ofList ((text.toList.drop start).take length)

/-- The pieces of `chars` between separators; there is always at least one. -/
def splitOn (separator : Char) : List Char → List (List Char)
  | [] => [[]]
  | char :: rest =>
    if char == separator then [] :: splitOn separator rest
    else
      match splitOn separator rest with
      | [] => [[char]]
      | piece :: pieces => (char :: piece) :: pieces

/-- Texts one after another with `separator` between neighbours. -/
def join (separator : String) : List String → String
  | [] => ""
  | [text] => text
  | text :: rest => text ++ separator ++ join separator rest

end SqlMapper.Text
