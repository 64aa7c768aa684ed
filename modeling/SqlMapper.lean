import SqlMapper.Batch
import SqlMapper.Compile
import SqlMapper.Decimal.Remainder
import SqlMapper.Decimal.Shortest
import SqlMapper.Dialect
import SqlMapper.Dialect.Select
import SqlMapper.Enumeration
import SqlMapper.Error
import SqlMapper.Expr
import SqlMapper.Expr.Arithmetic
import SqlMapper.Expr.Compare
import SqlMapper.Expr.Evaluate
import SqlMapper.Expr.TextMethod
import SqlMapper.Literal
import SqlMapper.Model
import SqlMapper.NameTable
import SqlMapper.Naming
import SqlMapper.Operator
import SqlMapper.Params
import SqlMapper.Registry
import SqlMapper.Schema
import SqlMapper.Shortcut
import SqlMapper.Sql
import SqlMapper.Statement
import SqlMapper.Statement.Delete
import SqlMapper.Statement.Insert
import SqlMapper.Statement.Select
import SqlMapper.Statement.Update
import SqlMapper.TableMap
import SqlMapper.Term
import SqlMapper.Text.CaseMap
import SqlMapper.Text.CodeRange
import SqlMapper.Text.CodeTable
import SqlMapper.Text.Composition
import SqlMapper.Text.Direction
import SqlMapper.Text.Joining
import SqlMapper.Text.Letters
import SqlMapper.Text.Mark
import SqlMapper.Text.Numeral
import SqlMapper.Text.Quoted
import SqlMapper.Text.Search
import SqlMapper.Typed
import SqlMapper.Url.Address
import SqlMapper.Url.Connection
import SqlMapper.Url.Domain
import SqlMapper.Url.DomainForm
import SqlMapper.Url.Label
import SqlMapper.Value
import SqlMapper.ValueMap
import SqlMapper.Proofs.Batch.Bindings
import SqlMapper.Proofs.Batch.Conflicts
import SqlMapper.Proofs.Batch.Merge
import SqlMapper.Proofs.Batch.Renaming
import SqlMapper.Proofs.Batch.Scan
import SqlMapper.Proofs.Batch.Suffix
import SqlMapper.Proofs.Batch.Words
import SqlMapper.Proofs.Coding
import SqlMapper.Proofs.Compile.BindingOrder
import SqlMapper.Proofs.Compile.Condition
import SqlMapper.Proofs.Compile.Denotation
import SqlMapper.Proofs.Compile.Failure
import SqlMapper.Proofs.Compile.Folding
import SqlMapper.Proofs.Compile.Meaning
import SqlMapper.Proofs.Compile.Operand
import SqlMapper.Proofs.Compile.Parts
import SqlMapper.Proofs.Compile.PlaceholderOrder
import SqlMapper.Proofs.Compile.ReadBack
import SqlMapper.Proofs.Compile.Shape
import SqlMapper.Proofs.Compile.Sharing
import SqlMapper.Proofs.Compile.Spelling
import SqlMapper.Proofs.Compile.Step
import SqlMapper.Proofs.Compile.StoredForm
import SqlMapper.Proofs.Compile.Template
import SqlMapper.Proofs.Compile.TextTest
import SqlMapper.Proofs.Compile.Variation
import SqlMapper.Proofs.Dialect.Identifier
import SqlMapper.Proofs.Dialect.Paging
import SqlMapper.Proofs.Error.Sharing
import SqlMapper.Proofs.Expr.Comparison
import SqlMapper.Proofs.Expr.Failure
import SqlMapper.Proofs.Expr.IntegerArithmetic
import SqlMapper.Proofs.Expr.OnRow
import SqlMapper.Proofs.Freshness
import SqlMapper.Proofs.Literal
import SqlMapper.Proofs.Numbering
import SqlMapper.Proofs.Operators
import SqlMapper.Proofs.Precedence
import SqlMapper.Proofs.Reading
import SqlMapper.Proofs.Related
import SqlMapper.Proofs.Result
import SqlMapper.Proofs.Sameness
import SqlMapper.Proofs.Schema.Mapping
import SqlMapper.Proofs.Schema.Remembered
import SqlMapper.Proofs.Schema.Transparency
import SqlMapper.Proofs.Schema.Usage
import SqlMapper.Proofs.Statement.Binding
import SqlMapper.Proofs.Statement.ByKey
import SqlMapper.Proofs.Statement.Columns
import SqlMapper.Proofs.Statement.Complete
import SqlMapper.Proofs.Statement.Draft
import SqlMapper.Proofs.Statement.Families
import SqlMapper.Proofs.Statement.Insertion
import SqlMapper.Proofs.Statement.KeyLookup
import SqlMapper.Proofs.Statement.ObjectForm
import SqlMapper.Proofs.Statement.Paging
import SqlMapper.Proofs.Statement.Request
import SqlMapper.Proofs.Statement.Row
import SqlMapper.Proofs.Statement.Scope
import SqlMapper.Proofs.Statement.Separation
import SqlMapper.Proofs.Statement.Variation
import SqlMapper.Proofs.Statement.Wording
import SqlMapper.Proofs.Statement.Writing
import SqlMapper.Proofs.TableMap
import SqlMapper.Proofs.Text.Runs
import SqlMapper.Proofs.ValueMap
