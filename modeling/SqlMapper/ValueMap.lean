import SqlMapper.Enumeration
import SqlMapper.Error

/-!
# Value maps

A value map pairs the values of a field with the literals stored for them. Null
stands for itself in both directions. A map passes `verify` when its literals
are of one kind and neither a value nor a literal occurs twice, so that reading
a stored literal undoes storing it.
-/

namespace SqlMapper

/-- Pairs of a field value and its stored literal, for the type named `type`. -/
structure ValueMap where
  type : String
  entries : List (Value × Value)

/-- Why a value map is ambiguous. -/
inductive ValueMapFault where
  | mixedKinds (type : String) (first other : ValueKind)
  | valueTwice (type : String) (value : Value)
  | literalTwice (type : String) (literal : Value)

namespace ValueMapFault

def message : ValueMapFault → String
  | mixedKinds type first other =>
    "ambiguous SQL value type for `" ++ type ++ "`: both " ++ first.name ++ " and " ++
      other.name ++ " are used"
  | valueTwice type value => "value " ++ value.display ++ " is mapped twice for `" ++ type ++ "`"
  | literalTwice type literal =>
    "SQL value " ++ literal.display ++ " is used twice for `" ++ type ++ "`"

def fail {α : Type} (fault : ValueMapFault) : Result α :=
  (Fault.invalidSchema fault.message).fail

end ValueMapFault

namespace ValueMap

/-- The map of a boolean field. -/
def ofBool (whenTrue whenFalse : Value) : ValueMap :=
  ⟨"bool", [(.bool true, whenTrue), (.bool false, whenFalse)]⟩

/-- The map of an enumerated field. -/
def ofEnumeration (enumeration : Enumeration) : ValueMap :=
  ⟨enumeration.name, enumeration.variants.map fun variant =>
    (.member (variant.member enumeration.name), variant.stored)⟩

/-- The literal stored for a value. -/
def toStored (map : ValueMap) (value : Value) : Result Value :=
  if value.isNull then .ok .null
  else
    match map.entries.find? fun entry => entry.1.same value with
    | some entry => .ok entry.2
    | none => (Fault.valueNotMapped value map.type).fail

/-- The value that a stored literal stands for. -/
def ofStored (map : ValueMap) (literal : Value) : Result Value :=
  if literal.isNull then .ok .null
  else
    match map.entries.find? fun entry => entry.2.same literal with
    | some entry => .ok entry.1
    | none => (Fault.valueNotMapped literal map.type).fail

/-- The literal stored for a boolean. -/
def storedBool (map : ValueMap) (value : Bool) : Result Value :=
  map.toStored (.bool value)

/-- The first literal whose kind differs from that of the first one. -/
def mixedKinds? (map : ValueMap) : Option ValueMapFault :=
  match map.entries with
  | [] => none
  | (_, first) :: rest =>
    (rest.find? fun entry => entry.2.kind ≠ first.kind).map fun entry =>
      .mixedKinds map.type first.kind entry.2.kind

/-- What an entry shares with a later one: its value, or else its literal. -/
def clash? (type : String) (entry later : Value × Value) : Option ValueMapFault :=
  if entry.1.same later.1 then some (.valueTwice type entry.1)
  else if entry.2.same later.2 then some (.literalTwice type entry.2)
  else none

/-- The first entry that shares a value or a literal with a later one. -/
def repetition? (type : String) : List (Value × Value) → Option ValueMapFault
  | [] => none
  | entry :: rest =>
    match rest.findSome? (clash? type entry) with
    | some fault => some fault
    | none => repetition? type rest

/-- Accepts a map that is unambiguous in both directions. -/
def verify (map : ValueMap) : Result Unit :=
  match map.mixedKinds? with
  | some fault => fault.fail
  | none =>
    match repetition? map.type map.entries with
    | some fault => fault.fail
    | none => .ok ()

/-- Equality of entries in order. -/
def sameEntries : List (Value × Value) → List (Value × Value) → Bool
  | [], [] => true
  | left :: lefts, right :: rights =>
    left.1.same right.1 && left.2.same right.2 && sameEntries lefts rights
  | _, _ => false

/-- Equality of maps: the same type and the same entries in order. -/
def same (left right : ValueMap) : Bool :=
  left.type == right.type && sameEntries left.entries right.entries

end ValueMap

end SqlMapper
