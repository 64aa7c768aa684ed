import SqlMapper.Value

/-!
# Errors

An error is a fault together with the faults that led to it. Context is put in
front: the text of an error reads from the most recent fault to the first cause.
-/

namespace SqlMapper

/-- What went wrong at one place. -/
inductive Fault where
  /-- A constant expression has no value. -/
  | evaluationFailed (message : String)
  /-- A model cannot be mapped, or lacks what a statement needs. -/
  | invalidSchema (message : String)
  /-- A statement was put together wrongly. -/
  | invalidStatement (message : String)
  /-- An expression has no counterpart in SQL. -/
  | unsupportedExpression (expression : String)
  /-- A dialect cannot express what was asked for. -/
  | unsupportedFeature (message : String)
  /-- A value map has no entry for a value. -/
  | valueNotMapped (value : Value) (type : String)
  /-- A message of the caller's own. -/
  | adhoc (message : String)
  /-- A failure reported by something outside the mapper. -/
  | foreign (message : String)

/-- The text of a fault on its own. -/
def Fault.message : Fault → String
  | evaluationFailed message => "expression evaluation failed: " ++ message
  | invalidSchema message => "invalid schema: " ++ message
  | invalidStatement message => "invalid statement: " ++ message
  | unsupportedExpression expression => "expression not supported: " ++ expression
  | unsupportedFeature message => "unsupported feature: " ++ message
  | valueNotMapped value type =>
    "value " ++ value.display ++ " is not mapped for type `" ++ type ++ "`"
  | adhoc message => message
  | foreign message => message

/-- What kind of thing went wrong. -/
inductive FaultKind where
  | evaluationFailed
  | invalidSchema
  | invalidStatement
  | unsupportedExpression
  | unsupportedFeature
  | valueNotMapped
  | adhoc
  | foreign
  deriving DecidableEq

/-- A fault without its wording. -/
def Fault.kind : Fault → FaultKind
  | evaluationFailed _ => .evaluationFailed
  | invalidSchema _ => .invalidSchema
  | invalidStatement _ => .invalidStatement
  | unsupportedExpression _ => .unsupportedExpression
  | unsupportedFeature _ => .unsupportedFeature
  | valueNotMapped _ _ => .valueNotMapped
  | adhoc _ => .adhoc
  | foreign _ => .foreign

/-- A fault and the faults behind it, the most recent first. -/
structure Error where
  fault : Fault
  causes : List Fault

/-- The failure of a text formatter, which says nothing about its reason. -/
def Fault.formatting : Fault :=
  .foreign "an error occurred when formatting an argument"

namespace Error

/-- An error without a cause. -/
def of (fault : Fault) : Error :=
  ⟨fault, []⟩

/-- The faults from the most recent to the first. -/
def chain (error : Error) : List Fault :=
  error.fault :: error.causes

/-- The kind of the most recent fault. -/
def kind (error : Error) : FaultKind :=
  error.fault.kind

/-- The whole chain as text. -/
def message (error : Error) : String :=
  Text.join ": " (error.chain.map Fault.message)

/-- Whether the most recent fault came from outside the mapper. -/
def isForeign (error : Error) : Bool :=
  match error.fault with
  | .foreign _ => true
  | _ => false

/-- Put `outer` in front of `error`. An outer error that has causes of its own,
or is `shared` with another holder, is not extended: its text becomes the fault
of a new error. -/
def within (error outer : Error) (shared : Bool) : Error :=
  if shared || !outer.causes.isEmpty then ⟨.adhoc outer.message, error.chain⟩
  else ⟨outer.fault, error.chain⟩

/-- Put a fault in front of `error`. -/
def context (error : Error) (fault : Fault) : Error :=
  error.within (of fault) false

end Error

/-- A computation that may fail. -/
abbrev Result (α : Type) := Except Error α

/-- Fail with one fault. -/
def Fault.fail {α : Type} (fault : Fault) : Result α :=
  .error (.of fault)

namespace Value

/-- The boolean that an expression was required to have as its value. -/
def toBool (value : Value) : Result Bool :=
  match value with
  | bool value => .ok value
  | other => (Fault.evaluationFailed ("expected a bool, found " ++ other.display)).fail

/-- The text that an expression was required to have as its value. -/
def toText (value : Value) : Result String :=
  match value with
  | string value => .ok value
  | other => (Fault.evaluationFailed ("expected a string, found " ++ other.display)).fail

end Value

end SqlMapper
