import SqlMapper.Statement

/-!
# Batches

Several statements become one text. Their generated parameter names all start
over, so those of each statement get a suffix of its own, in the text and among
the parameters. Names chosen by the caller are kept and may be shared as long as
they are bound to the same value.
-/

namespace SqlMapper.Batch

/-- The letter with a number below twenty-six. -/
def letter (number : Nat) : Char :=
  Char.ofNat ('a'.toNat + number)

/-- The suffix of a statement: the words over the small letters, shorter words
first and in alphabetical order among those of one length. -/
def suffix (number : Nat) : List Char :=
  if number < 26 then [letter number]
  else suffix (number / 26 - 1) ++ [letter (number % 26)]
termination_by number
decreasing_by omega

/-- A character that can be part of a parameter name. -/
def isNameChar (char : Char) : Bool :=
  char.isAlphanum || char == '_'

/-- The parameter name that follows a marker at the start of `chars`. -/
def nameAfter (marker chars : List Char) : List Char :=
  (chars.drop marker.length).takeWhile isNameChar

/-- The text with `suffix` after every placeholder whose name is to be
`renamed`. Nothing between quotes is a placeholder. `skip` counts the characters
that were already written. -/
def renamePlaceholders (marker : List Char) (renamed : String → Bool) (suffix : List Char) :
    Nat → Bool → List Char → List Char
  | _, _, [] => []
  | skip + 1, quoted, _ :: rest => renamePlaceholders marker renamed suffix skip quoted rest
  | 0, quoted, char :: rest =>
    if char = '\'' then char :: renamePlaceholders marker renamed suffix 0 (!quoted) rest
    else if !quoted && !marker.isEmpty && marker.isPrefixOf (char :: rest) then
      let name := nameAfter marker (char :: rest)
      marker ++ name ++ (if renamed (String.ofList name) then suffix else []) ++
        renamePlaceholders marker renamed suffix (marker.length + name.length - 1) quoted rest
    else char :: renamePlaceholders marker renamed suffix 0 quoted rest

/-- Whether a name gets a suffix: it is generated and bound by the statement. -/
def isRenamed (statement : Query) (name : String) : Bool :=
  Params.isGenerated name && statement.params.contains name

/-- The text of a statement with its generated placeholders renamed. -/
def rename (dialect : Dialect) (statement : Query) (suffix : List Char) : String :=
  String.ofList <|
    renamePlaceholders dialect.marker.toList (isRenamed statement) suffix 0 false
      statement.sql.toList

/-- The name of a parameter in the batch. -/
def finalName (suffix : List Char) (name : String) : String :=
  if Params.isGenerated name then name ++ String.ofList suffix else name

/-- Add a parameter, which must not be bound to another value already. -/
def bind (params : Params) (name : String) (value : Value) : Result Params :=
  match params.get? name with
  | none => .ok (params.insert name value)
  | some existing =>
    if existing.same value then .ok params
    else
      (Fault.invalidStatement
        ("parameter `" ++ name ++ "` is bound to both " ++ existing.display ++ " and " ++
          value.display)).fail

/-- Add the parameters of a statement under their names in the batch. -/
def bindAll (suffix : List Char) (params : Params) (statement : Query) : Result Params :=
  statement.params.entries.foldlM (fun params entry =>
    bind params (finalName suffix entry.1) entry.2) params

/-- The statements with their suffixes. -/
def numbered (statements : List Query) : List (Query × List Char) :=
  statements.zipIdx.map fun (statement, index) => (statement, suffix index)

/-- One text of all statements, with the parameters of all. -/
def compile (dialect : Dialect) (statements : List Query) : Result Query := do
  if statements.isEmpty then
    (Fault.invalidStatement "a batch needs at least one statement").fail
  else
    let texts := (numbered statements).map fun (statement, suffix) =>
      rename dialect statement suffix
    let params ← (numbered statements).foldlM (fun params (statement, suffix) =>
      bindAll suffix params statement) .empty
    return ⟨Text.join dialect.separator texts, params⟩

end SqlMapper.Batch
