import SqlMapper.Model
import SqlMapper.Proofs.Operators

/-!
# Expressions on a given row

An expression over the mapped row has a value once a row is given: the row is a
record of its values, and everything else is evaluated as usual.
-/

namespace SqlMapper.Expr

mutual

/-- The expression with a given row in place of the mapped one. -/
def onRow (row : Row) : Expr → Expr
  | .row => value (.record row.values)
  | value constant => value constant
  | deferred name result => deferred name result
  | member target name => member (target.onRow row) name
  | binary op left right => binary op (left.onRow row) (right.onRow row)
  | unary op operand => unary op (operand.onRow row)
  | method target name arguments => method (target.onRow row) name (allOnRow row arguments)
  | call name arguments => call name (allOnRow row arguments)
  | record typeName fields => record typeName (fieldsOnRow row fields)
  | list items => list (allOnRow row items)

def allOnRow (row : Row) : List Expr → List Expr
  | [] => []
  | expr :: rest => expr.onRow row :: allOnRow row rest

def fieldsOnRow (row : Row) : List (String × Expr) → List (String × Expr)
  | [] => []
  | (name, expr) :: rest => (name, expr.onRow row) :: fieldsOnRow row rest

end

mutual

/-- The expression and everything inside it. -/
def parts : Expr → List Expr
  | row => [row]
  | value constant => [value constant]
  | deferred name result => [deferred name result]
  | member target name => member target name :: target.parts
  | binary op left right => binary op left right :: (left.parts ++ right.parts)
  | unary op operand => unary op operand :: operand.parts
  | method target name arguments =>
    method target name arguments :: (target.parts ++ allParts arguments)
  | call name arguments => call name arguments :: allParts arguments
  | record typeName fields => record typeName fields :: fieldParts fields
  | list items => list items :: allParts items

def allParts : List Expr → List Expr
  | [] => []
  | expr :: rest => expr.parts ++ allParts rest

def fieldParts : List (String × Expr) → List Expr
  | [] => []
  | (_, expr) :: rest => expr.parts ++ fieldParts rest

end

/-- Every part of the expression has a value on the row. -/
def DefinedOn (row : Row) (expr : Expr) : Prop :=
  ∀ part ∈ expr.parts, ∃ value, (part.onRow row).evaluate = .ok value

variable {row : Row}

theorem mem_parts_self (expr : Expr) : expr ∈ expr.parts := by
  cases expr <;> simp [parts]

namespace DefinedOn

variable {left right operand expr : Expr}

theorem evaluates (defined : expr.DefinedOn row) :
    ∃ value, (expr.onRow row).evaluate = .ok value :=
  defined expr (mem_parts_self expr)

theorem of_left {op : BinaryOp} (defined : (binary op left right).DefinedOn row) :
    left.DefinedOn row :=
  fun part member => defined part (by simp [parts, member])

theorem of_right {op : BinaryOp} (defined : (binary op left right).DefinedOn row) :
    right.DefinedOn row :=
  fun part member => defined part (by simp [parts, member])

theorem of_operand {op : UnaryOp} (defined : (unary op operand).DefinedOn row) :
    operand.DefinedOn row :=
  fun part member => defined part (by simp [parts, member])

end DefinedOn

mutual

/-- A row changes nothing where it is not mentioned. -/
theorem onRow_of_rowFree {expr : Expr} (rowFree : expr.referencesRow = false) :
    expr.onRow row = expr := by
  cases expr with
  | row => cases rowFree
  | value _ | deferred _ _ => rfl
  | member target name => rw [onRow, onRow_of_rowFree (by simpa [referencesRow] using rowFree)]
  | binary op left right =>
      simp only [referencesRow, Bool.or_eq_false_iff] at rowFree
      rw [onRow, onRow_of_rowFree rowFree.1, onRow_of_rowFree rowFree.2]
  | unary op operand => rw [onRow, onRow_of_rowFree (by simpa [referencesRow] using rowFree)]
  | method target name arguments =>
      simp only [referencesRow, Bool.or_eq_false_iff] at rowFree
      rw [onRow, onRow_of_rowFree rowFree.1, allOnRow_of_rowFree rowFree.2]
  | call name arguments =>
      rw [onRow, allOnRow_of_rowFree (by simpa [referencesRow] using rowFree)]
  | record typeName fields =>
      rw [onRow, fieldsOnRow_of_rowFree (by simpa [referencesRow] using rowFree)]
  | list items => rw [onRow, allOnRow_of_rowFree (by simpa [referencesRow] using rowFree)]

theorem allOnRow_of_rowFree {items : List Expr} (rowFree : anyReferencesRow items = false) :
    allOnRow row items = items := by
  cases items with
  | nil => rfl
  | cons expr rest =>
      simp only [anyReferencesRow, Bool.or_eq_false_iff] at rowFree
      rw [allOnRow, onRow_of_rowFree rowFree.1, allOnRow_of_rowFree rowFree.2]

theorem fieldsOnRow_of_rowFree {fields : List (String × Expr)}
    (rowFree : anyFieldReferencesRow fields = false) : fieldsOnRow row fields = fields := by
  cases fields with
  | nil => rfl
  | cons field rest =>
      simp only [anyFieldReferencesRow, Bool.or_eq_false_iff] at rowFree
      rw [fieldsOnRow, onRow_of_rowFree rowFree.1, fieldsOnRow_of_rowFree rowFree.2]

end

mutual

/-- What is inside an expression that does not mention the row does not mention it either. -/
theorem rowFree_of_mem_parts {expr part : Expr} (rowFree : expr.referencesRow = false)
    (member : part ∈ expr.parts) : part.referencesRow = false := by
  cases expr with
  | row => cases rowFree
  | value _ | deferred _ _ =>
      rw [parts, List.mem_singleton] at member
      rw [member, rowFree]
  | member target name =>
      rcases List.mem_cons.mp member with rfl | inside
      · exact rowFree
      · exact rowFree_of_mem_parts (by simpa [referencesRow] using rowFree) inside
  | binary op left right =>
      rcases List.mem_cons.mp member with rfl | inside
      · exact rowFree
      · simp only [referencesRow, Bool.or_eq_false_iff] at rowFree
        rcases List.mem_append.mp inside with inLeft | inRight
        · exact rowFree_of_mem_parts rowFree.1 inLeft
        · exact rowFree_of_mem_parts rowFree.2 inRight
  | unary op operand =>
      rcases List.mem_cons.mp member with rfl | inside
      · exact rowFree
      · exact rowFree_of_mem_parts (by simpa [referencesRow] using rowFree) inside
  | method target name arguments =>
      rcases List.mem_cons.mp member with rfl | inside
      · exact rowFree
      · simp only [referencesRow, Bool.or_eq_false_iff] at rowFree
        rcases List.mem_append.mp inside with inTarget | inArguments
        · exact rowFree_of_mem_parts rowFree.1 inTarget
        · exact rowFree_of_mem_allParts rowFree.2 inArguments
  | call name arguments =>
      rcases List.mem_cons.mp member with rfl | inside
      · exact rowFree
      · exact rowFree_of_mem_allParts (by simpa [referencesRow] using rowFree) inside
  | record typeName fields =>
      rcases List.mem_cons.mp member with rfl | inside
      · exact rowFree
      · exact rowFree_of_mem_fieldParts (by simpa [referencesRow] using rowFree) inside
  | list items =>
      rcases List.mem_cons.mp member with rfl | inside
      · exact rowFree
      · exact rowFree_of_mem_allParts (by simpa [referencesRow] using rowFree) inside

theorem rowFree_of_mem_allParts {items : List Expr} {part : Expr}
    (rowFree : anyReferencesRow items = false) (member : part ∈ allParts items) :
    part.referencesRow = false := by
  cases items with
  | nil => cases member
  | cons expr rest =>
      simp only [anyReferencesRow, Bool.or_eq_false_iff] at rowFree
      rcases List.mem_append.mp member with first | later
      · exact rowFree_of_mem_parts rowFree.1 first
      · exact rowFree_of_mem_allParts rowFree.2 later

theorem rowFree_of_mem_fieldParts {fields : List (String × Expr)} {part : Expr}
    (rowFree : anyFieldReferencesRow fields = false) (member : part ∈ fieldParts fields) :
    part.referencesRow = false := by
  cases fields with
  | nil => cases member
  | cons field rest =>
      simp only [anyFieldReferencesRow, Bool.or_eq_false_iff] at rowFree
      rcases List.mem_append.mp member with first | later
      · exact rowFree_of_mem_parts rowFree.1 first
      · exact rowFree_of_mem_fieldParts rowFree.2 later

end

section Operations

variable {left right operand : Expr} {first second : Value}

theorem evaluate_connective {op : Connective} {first second : Bool}
    (leftValue : left.evaluate = .ok (.bool first))
    (rightValue : right.evaluate = .ok (.bool second)) :
    (binary (.connective op) left right).evaluate = .ok (.bool (op.onTruth first second)) := by
  cases op with
  | and =>
      rw [evaluate, leftValue, rightValue]
      cases first <;> rfl
  | or =>
      rw [evaluate, leftValue, rightValue]
      cases first <;> rfl

theorem evaluate_comparison {op : Comparison} (leftValue : left.evaluate = .ok first)
    (rightValue : right.evaluate = .ok second) :
    (binary (.comparison op) left right).evaluate = .bool <$> op.apply first second := by
  rw [evaluate, leftValue, rightValue]
  rfl

theorem evaluate_arithmetic {op : Arithmetic} (leftValue : left.evaluate = .ok first)
    (rightValue : right.evaluate = .ok second) :
    (binary (.arithmetic op) left right).evaluate = op.apply first second := by
  rw [evaluate, leftValue, rightValue]
  rfl

theorem evaluate_unary {op : UnaryOp} (value : operand.evaluate = .ok first) :
    (unary op operand).evaluate = op.apply first := by
  rw [evaluate, value]
  rfl

end Operations

end SqlMapper.Expr
