import SqlMapper.Text.CaseMap
import SqlMapper.Text.Search

/-!
# Naming of tables and columns

A naming scheme derives table and column names from the names in a model. The
schemes that change names split them into words: at characters that are neither
letters nor digits, between a small letter and a capital, and before the last
capital of a run of capitals that is followed by a small letter.
-/

namespace SqlMapper

/-- A way of deriving table and column names. -/
structure Naming where
  table : String → String
  column : String → String → String

namespace Naming

/-- The case of the last cased character of the current word. -/
inductive WordMode where
  | boundary
  | small
  | capital
  deriving DecidableEq

/-- The mode after a character that does not end a word. -/
def WordMode.after (mode : WordMode) (char : Char) : WordMode :=
  if Text.isLowercase char then small
  else if Text.isUppercase char then capital
  else mode

/-- The words of a piece without separators, where `word` is the part of the
current word to the left. -/
def pieceWords (mode : WordMode) (word : List Char) : List Char → List (List Char)
  | [] => []
  | [last] => [word ++ [last]]
  | char :: next :: rest =>
    if mode.after char = .small && Text.isUppercase next then
      (word ++ [char]) :: pieceWords .boundary [] (next :: rest)
    else if mode = .capital && Text.isUppercase char && Text.isLowercase next then
      word :: pieceWords .boundary [char] (next :: rest)
    else
      pieceWords (mode.after char) (word ++ [char]) (next :: rest)

/-- The pieces between characters that are neither letters nor digits. -/
def pieces (piece : List Char) : List Char → List (List Char)
  | [] => [piece]
  | char :: rest =>
    if Text.isAlphanumeric char then pieces (piece ++ [char]) rest
    else piece :: pieces [] rest

/-- The words of a name. -/
def words (name : String) : List (List Char) :=
  (pieces [] name.toList).flatMap (pieceWords .boundary [])

/-- A word in small letters; a capital sigma at its end takes the final form. -/
def lowerWord : List Char → List Char
  | [] => []
  | ['Σ'] => ['ς']
  | char :: rest => Text.lowerChar char ++ lowerWord rest

/-- A word in capitals. -/
def upperWord (word : List Char) : List Char :=
  word.flatMap Text.upperChar

/-- The words of a name, each changed by `convert`, with underscores between. -/
def underscored (convert : List Char → List Char) (name : String) : String :=
  Text.join "_" ((words name).map fun word => String.ofList (convert word))

/-- Names are used as they are. -/
def verbatim : Naming :=
  ⟨id, fun _ field => field⟩

/-- Names are written in small letters with underscores. -/
def snake : Naming :=
  ⟨underscored lowerWord, fun _ => underscored lowerWord⟩

/-- Names are written in capitals with underscores. -/
def upperSnake : Naming :=
  ⟨underscored upperWord, fun _ => underscored upperWord⟩

end Naming

end SqlMapper
