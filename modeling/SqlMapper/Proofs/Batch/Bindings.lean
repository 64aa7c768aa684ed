import SqlMapper.Proofs.Batch.Merge
import SqlMapper.Proofs.Statement.Complete
import SqlMapper.Proofs.TableMap

/-!
# A batch keeps the bindings of its statements

Statements that were built refer to parameters with generated names, which a batch
renames twice: in the text, which it reads again, and among the parameters. Both come
to the same if the text is legible, which only depends on the names of the table and its
columns and on the way a dialect writes: no quotes in them, and nothing that begins like
a generated placeholder. A column with an apostrophe in its name shows that this is
needed.
-/

namespace SqlMapper

open Params

/-- A statement that was built: a request that succeeded after some history of a
schema. -/
structure Built (dialect : Dialect) where
  tableStem : Option String
  naming : Naming
  history : List Call
  model : Model
  request : Request
  query : Query
  coherent : (Usage.ofCalls tableStem naming
    (.statement model dialect request :: history)).Coherent
  succeeded : ((request.run model dialect).outcome
    ((Schema.fresh tableStem naming).after history)).1 = .ok query

/-- Everything that may stand in a statement besides placeholders and text literals is
overlooked by renaming. -/
structure Scope.IsLegible (scope : Scope) (first second : Char) : Prop where
  wording : ∀ words ∈ Term.wording ++ StatementKind.wording,
    Batch.overlooks first second words.toList = true
  identity : ∀ call, scope.dialect.identity = .followUp call →
    Batch.overlooks first second ("; select " ++ call).toList = true
  texts : ∀ words ∈ scope.texts, Batch.overlooks first second words.toList = true
  table : Batch.overlooks first second
    (scope.dialect.escapeIdentifier scope.map.table).toList = true
  columns : ∀ property ∈ scope.map.properties, Batch.overlooks first second
    (scope.dialect.escapeIdentifier property.column).toList = true
  fields : ∀ property ∈ scope.map.properties, Batch.overlooks first second
    (scope.dialect.escapeIdentifier property.name).toList = true
  literals : ∀ constant, scope.map.WritesLiteral constant →
    (∃ text, constant = .string text) ∨
      Batch.overlooks first second constant.text.toList = true

namespace Batch

theorem isNameChar_of_isDigit {char : Char} (digit : char.isDigit = true) :
    isNameChar char = true := by
  simp [isNameChar, Char.isAlphanum, digit]

theorem isNameChar_of_mem_generated {name : String} (generated : isGenerated name = true) :
    ∀ char ∈ name.toList, isNameChar char = true := by
  obtain ⟨digits, chars, digit⟩ := toList_of_isGenerated generated
  rw [chars]
  exact List.forall_mem_cons.mpr
    ⟨by decide, fun char member => isNameChar_of_isDigit (digit char member)⟩

/-- A number contains neither quotes nor markers. -/
theorem overlooks_number {first : Char} (apart : isNameChar first = false) (second : Char)
    (count : Nat) : overlooks first second (toString count).toList = true := by
  have digits : ∀ char ∈ (toString count).toList, isNameChar char = true := by
    rw [Nat.toString_eq_repr, Nat.toList_repr]
    exact fun _ member =>
      isNameChar_of_isDigit (Nat.isDigit_of_mem_toDigits (by decide) (by decide) member)
  apply overlooks_of_notMem
  · intro quote
    exact absurd (digits _ quote) (by decide)
  · intro marker
    exact absurd (digits _ marker) (by simp [apart])

end Batch

namespace Scope.IsLegible

variable {scope : Scope} {first second : Char}

/-- What may stand in a legible statement is legible. -/
theorem piece (legible : scope.IsLegible first second) (apart : Batch.isNameChar first = false)
    {piece : Piece String} (allowed : scope.Allows piece)
    (generated : ∀ name, piece.parameter? = some name → isGenerated name = true) :
    piece.IsLegible scope.dialect first second := by
  cases piece with
  | text words =>
      rcases allowed with worded | worded | ⟨call, style, rfl⟩
      · exact legible.wording words (List.mem_append_left _ worded)
      · exact legible.wording words (List.mem_append_right _ worded)
      · exact legible.identity call style
  | raw words => exact legible.texts words allowed
  | number count => exact Batch.overlooks_number apart second count
  | identifier name =>
      rcases allowed with rfl | ⟨property, mapped, rfl | rfl⟩
      · exact legible.table
      · exact legible.columns property mapped
      · exact legible.fields property mapped
  | literal constant =>
      rcases legible.literals constant allowed with ⟨text, rfl⟩ | overlooked
      · trivial
      · cases constant with
        | string text => trivial
        | _ => exact overlooked
  | placeholder name => exact Batch.isNameChar_of_mem_generated (generated name rfl)

end Scope.IsLegible

/-- No statement has a colon or an at sign in its wording. -/
theorem Batch.overlooks_wording {first : Char} (marker : first ∈ ['@', ':']) :
    ∀ words ∈ Term.wording ++ StatementKind.wording, overlooks first 'p' words.toList = true := by
  apply List.all_eq_true.mp
  simp only [List.mem_cons, List.not_mem_nil, or_false] at marker
  rcases marker with rfl | rfl
  · decide
  · decide

namespace Query.IsComplete

variable {query : Query} {scope : Scope} {sql : Sql} {first second : Char}

theorem isGenerated_of_mem_names (complete : query.IsComplete scope sql) :
    ∀ name ∈ query.params.names, isGenerated name = true := by
  intro name named
  rw [complete.names] at named
  obtain ⟨number, -, rfl⟩ := List.mem_map.mp named
  exact isGenerated_generatedName number

theorem nodup_names (complete : query.IsComplete scope sql) : query.params.names.Nodup :=
  complete.references.nodup_iff.mp complete.once

/-- Renaming a complete and legible statement renames its placeholders. -/
theorem rename (complete : query.IsComplete scope sql) (apart : Apart sql)
    (marks : scope.dialect.Marks first second) (legible : scope.IsLegible first second)
    (suffix : List Char) :
    Batch.rename scope.dialect query suffix =
      scope.dialect.write (sql.map (Piece.map (Batch.finalName suffix))) := by
  have generated : ∀ name ∈ placeholders sql, isGenerated name = true := fun name member =>
    complete.isGenerated_of_mem_names name (complete.references.mem_iff.mp member)
  have readable : ∀ piece ∈ sql, piece.IsLegible scope.dialect first second := by
    intro piece member
    apply legible.piece marks.apart (complete.allowed piece member)
    exact fun name own => generated name (List.mem_filterMap.mpr ⟨piece, member, own⟩)
  have renames : ∀ name, Batch.isRenamed query name = true → name.toList.head? = some 'p' := by
    intro name isRenamed
    obtain ⟨digits, chars, -⟩ := toList_of_isGenerated (Bool.and_eq_true_iff.mp isRenamed).1
    rw [chars]
    rfl
  have same : ∀ name ∈ placeholders sql,
      Batch.suffixed (Batch.isRenamed query) suffix name = Batch.finalName suffix name := by
    intro name member
    have bound : query.params.contains name = true :=
      NameTable.contains_iff_mem.mpr (complete.references.mem_iff.mp member)
    simp [Batch.suffixed, Batch.isRenamed, Batch.finalName, generated name member, bound]
  rw [Batch.rename, complete.text,
    Batch.renamePlaceholders_write marks renames suffix readable (apart.setsApart _),
    map_congr_placeholders same, String.ofList_toList]

end Query.IsComplete

namespace Built

variable {dialect : Dialect}

/-- What a built statement is about. -/
def scope (statement : Built dialect) : Scope :=
  ⟨TableMap.draft statement.tableStem statement.naming statement.model, dialect,
    statement.request.texts⟩

theorem exists_pieces (statement : Built dialect) :
    ∃ sql, statement.query.IsComplete statement.scope sql ∧ Apart sql := by
  have succeeded := statement.succeeded
  rw [Usage.outcome_after statement.request statement.coherent, Result.bind_eq_ok] at succeeded
  obtain ⟨map, mapped, written⟩ := succeeded
  obtain rfl := TableMap.eq_draft_of_ofModel_eq_ok mapped
  obtain ⟨sql, complete, -, apart⟩ := Request.pieces_result written
  exact ⟨sql, complete, apart⟩

end Built

/-- A batch of built statements whose scopes are legible succeeds. Its text is that of
the statements with every placeholder renamed and everything else as it was, and the new
name of a placeholder is bound to the value of the old one. -/
theorem batch_keeps_bindings {dialect : Dialect} {first second : Char}
    (marks : dialect.Marks first second) {statements : List (Built dialect)}
    (given : statements ≠ [])
    (legible : ∀ statement ∈ statements, statement.scope.IsLegible first second) :
    ∃ (pieces : Built dialect → Sql) (params : Params),
      (∀ statement : Built dialect,
        statement.query.IsComplete statement.scope (pieces statement)) ∧
      Batch.compile dialect (statements.map Built.query) =
        .ok ⟨Text.join dialect.separator (statements.mapIdx fun index statement =>
          dialect.write
            ((pieces statement).map (Piece.map (Batch.finalName (Batch.suffix index))))), params⟩ ∧
      ∀ (index : Nat) (statement : Built dialect), statements[index]? = some statement →
        ∀ name value, statement.query.params.get? name = some value →
          params.get? (Batch.finalName (Batch.suffix index) name) = some value := by
  obtain ⟨pieces, written⟩ := Classical.skolem.mp (@Built.exists_pieces dialect)
  have unique : (NameTable.names (Batch.entries (statements.map Built.query))).Nodup := by
    apply Batch.nodup_names_entries
    intro query member
    obtain ⟨statement, -, rfl⟩ := List.mem_map.mp member
    have complete := (written statement).1
    exact ⟨complete.nodup_names, complete.isGenerated_of_mem_names⟩
  refine ⟨pieces, ⟨Batch.entries (statements.map Built.query), 0⟩,
    fun statement => (written statement).1, ?_, ?_⟩
  · rw [Batch.compile_eq_ok (by simpa using given) unique]
    have texts : (Batch.numbered (statements.map Built.query)).map
        (fun numbered => Batch.rename dialect numbered.1 numbered.2) =
        statements.mapIdx fun index statement => dialect.write
          ((pieces statement).map (Piece.map (Batch.finalName (Batch.suffix index)))) := by
      rw [Batch.numbered, List.zipIdx_map, List.map_map, List.map_map,
        List.mapIdx_eq_zipIdx_map]
      apply List.map_congr_left
      intro entry member
      obtain ⟨complete, apart⟩ := written entry.1
      exact complete.rename apart marks
        (legible entry.1 (List.fst_mem_of_mem_zipIdx member)) (Batch.suffix entry.2)
    rw [texts]
  · intro index statement here name value bound
    exact Batch.get?_entries unique (by rw [List.getElem?_map, here]; rfl) bound

namespace Ticket

theorem legible : Scope.IsLegible ⟨.draft none .verbatim model, .sqlite, []⟩ '@' 'p' where
  wording := Batch.overlooks_wording (by decide)
  identity := by
    intro call style
    cases style
    decide
  texts := List.forall_mem_nil _
  table := by decide
  columns := by decide
  fields := by decide
  literals := by
    have plain : ∀ property ∈ (TableMap.draft none .verbatim model).properties,
        property.valueMap = none :=
      List.forall_mem_cons.mpr ⟨rfl, List.forall_mem_singleton.mpr rfl⟩
    intro constant literal
    obtain ⟨property, mapped, truth, stored, converted, written⟩ := literal
    rw [Property.toStored, plain property mapped] at converted
    cases converted
    cases written
    cases truth <;> exact .inr (by decide)

/-- The seat of a ticket is changed. -/
def reseated : Built .sqlite where
  tableStem := none
  naming := .verbatim
  history := []
  model := model
  request := rebooking
  query := ⟨"update \"Ticket\" set \"seat\" = @p1 where (\"id\" = @p0)",
    .numbered 0 [.i64 7, .i32 12]⟩
  coherent := Usage.coherent_single ..
  succeeded := rfl

/-- A ticket is given back. -/
def returned : Built .sqlite where
  tableStem := none
  naming := .verbatim
  history := []
  model := model
  request := .deleteByKey [] (.row booked)
  query := ⟨"delete from \"Ticket\" where (\"id\" = @p0)", .numbered 0 [.i64 7]⟩
  coherent := Usage.coherent_single ..
  succeeded := rfl

theorem reseated_returned_bindings :
    ∃ text params, Batch.compile .sqlite [reseated.query, returned.query] = .ok ⟨text, params⟩ ∧
      params.get? "p1a" = some (.i32 12) ∧ params.get? "p0b" = some (.i64 7) := by
  have marks : Dialect.sqlite.Marks '@' 'p' := ⟨by decide, by decide, by decide⟩
  have legible : ∀ statement ∈ [reseated, returned], statement.scope.IsLegible '@' 'p' :=
    List.forall_mem_cons.mpr ⟨legible, List.forall_mem_singleton.mpr legible⟩
  obtain ⟨pieces, params, -, compiled, bindings⟩ :=
    batch_keeps_bindings marks (List.cons_ne_nil _ _) legible
  have seat := bindings 0 reseated rfl "p1" (.i32 12) rfl
  have key := bindings 1 returned rfl "p0" (.i64 7) rfl
  rw [Batch.suffix_of_lt (by decide)] at seat key
  exact ⟨_, params, compiled, seat, key⟩

end Ticket

namespace Belonging

/-- Belongings with a note, whose column has an apostrophe in its name. -/
def model : Model :=
  ⟨"Item", none, [(Field.plain "Id" ⟨.i64, false⟩).mark .primaryKey,
    (Field.plain "Note" ⟨.string, false⟩).mark (.column "owner's")]⟩

/-- Belongings with a certain note are removed. -/
def removed : Built .sqlserver where
  tableStem := none
  naming := .verbatim
  history := []
  model := model
  request := .delete [.condition (.eq (.field "Note") (.value (.string "x")))]
  query := ⟨"delete from [Item] where ([owner's] = @p0)", .numbered 0 [.string "x"]⟩
  coherent := Usage.coherent_single ..
  succeeded := rfl

/-- The apostrophe is taken for the beginning of a text, so the placeholder behind it
keeps its name, to which the batch binds nothing. -/
theorem removed_batch_unbound :
    removed.request.texts = [] ∧ removed.query.params.get? "p0" = some (.string "x") ∧
      ∃ params,
        Batch.compile .sqlserver [removed.query] =
          .ok ⟨"delete from [Item] where ([owner's] = @p0)", params⟩ ∧
        params.names = ["p0a"] := by
  have first : Batch.suffix 0 = ['a'] := Batch.suffix_of_lt (by decide)
  refine ⟨rfl, rfl, ⟨[("p0a", .string "x")], 0⟩, ?_, rfl⟩
  simp only [Batch.compile, Batch.numbered, List.zipIdx_cons, List.zipIdx_nil, List.map_cons,
    List.map_nil, first]
  rfl

end Belonging

end SqlMapper
