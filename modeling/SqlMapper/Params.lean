import SqlMapper.Value

/-!
# Parameters

The parameters of a statement, in the order in which they were bound. A value
bound without a name is given the next free generated name, a `p` and a number;
the numbers never fall behind the parameters bound so far, and none is used
twice.
-/

namespace SqlMapper

/-- Named values in binding order, and the least number for the next generated
name. -/
structure Params where
  entries : List (String × Value)
  offset : Nat

namespace Params

/-- No parameters. -/
def empty : Params :=
  ⟨[], 0⟩

/-- No parameters; generated names start at `offset`. -/
def startingAt (offset : Nat) : Params :=
  ⟨[], offset⟩

/-- The generated name with a number. -/
def generatedName (number : Nat) : String :=
  "p" ++ toString number

/-- Whether a name is a `p` followed by digits. -/
def isGenerated (name : String) : Bool :=
  match name.toList with
  | 'p' :: digits => !digits.isEmpty && digits.all Char.isDigit
  | _ => false

/-- The value bound to a name. -/
def get? (params : Params) (name : String) : Option Value :=
  NameTable.get? name params.entries

/-- Whether a name is bound. -/
def contains (params : Params) (name : String) : Bool :=
  NameTable.contains name params.entries

/-- Number of parameters. -/
def size (params : Params) : Nat :=
  params.entries.length

def isEmpty (params : Params) : Bool :=
  params.entries.isEmpty

/-- The names in binding order. -/
def names (params : Params) : List String :=
  NameTable.names params.entries

/-- Bind `value` to `name`, replacing what was bound to it. -/
def insert (params : Params) (name : String) (value : Value) : Params :=
  ⟨NameTable.insert name value params.entries, params.offset⟩

/-- Parameters with the given names. -/
def ofEntries (entries : List (String × Value)) : Params :=
  ⟨NameTable.ofEntries entries, 0⟩

/-- The first number whose name is to be tried. -/
def firstNumber (params : Params) : Nat :=
  max params.offset params.size

/-- The least number from the first one on whose name is free. One more number
is tried than there are names, so one of them is free. -/
def freeNumber (params : Params) : Nat :=
  let numbers := List.range' params.firstNumber (params.size + 1)
  (numbers.find? fun number => !params.contains (generatedName number)).getD
    (params.firstNumber + params.size + 1)

/-- Bind `value` to a generated name that is free; the name comes with the new
parameters. -/
def push (params : Params) (value : Value) : String × Params :=
  let number := params.freeNumber
  let name := generatedName number
  (name, ⟨NameTable.insert name value params.entries, number + 1⟩)

/-- Bind values one after another; their names come in the same order. -/
def pushAll (params : Params) : List Value → List String × Params
  | [] => ([], params)
  | value :: rest =>
    let (name, params) := params.push value
    let (names, params) := params.pushAll rest
    (name :: names, params)

/-- Equality of entries in order. -/
def sameEntries : List (String × Value) → List (String × Value) → Bool
  | [], [] => true
  | left :: lefts, right :: rights =>
    left.1 == right.1 && left.2.same right.2 && sameEntries lefts rights
  | _, _ => false

/-- Equality: the same names bound to the same values in the same order. -/
def same (left right : Params) : Bool :=
  sameEntries left.entries right.entries

end Params

end SqlMapper
