import SqlMapper.Proofs.Batch.Scan
import SqlMapper.Proofs.Batch.Suffix

/-!
# Renaming behind a marker of one character

Where the marker of a dialect is a single character, a text can be taken apart without
knowing how it was written: whatever stands behind a marker outside of quotes is a
placeholder. `rename_separated` says that renaming does this for any statement that is put
together from placeholders, text literals with any content, and words without quotes and
markers.
-/

namespace SqlMapper

/-- A statement whose pieces can be told apart in its text. -/
structure Dialect.Separates (dialect : Dialect) (marker : Char) (sql : Sql) : Prop where
  /-- The names of placeholders are made of the characters of names. -/
  named : ∀ name, .placeholder name ∈ sql → ∀ char ∈ name.toList, Batch.isNameChar char = true
  /-- Behind a placeholder the text ends or goes on with another character. -/
  apart : dialect.SetsApart sql
  /-- Only text literals have quotes, and only they and placeholders have markers. -/
  plain : ∀ piece ∈ sql, piece.parameter? = none → (∀ content, piece ≠ .literal (.string content)) →
    '\'' ∉ (dialect.writePiece piece).toList ∧ marker ∉ (dialect.writePiece piece).toList

namespace Dialect.Separates

variable {dialect : Dialect} {marker : Char} {sql : Sql}

/-- Words without quotes and markers are overlooked, whatever stands behind the marker of a
placeholder. -/
theorem isLegible (separates : dialect.Separates marker sql) (second : Char) :
    ∀ piece ∈ sql, piece.IsLegible dialect marker second := by
  intro piece member
  have overlooked (other : piece.parameter? = none)
      (unquoted : ∀ content, piece ≠ .literal (.string content)) :
      Batch.overlooks marker second (dialect.writePiece piece).toList = true := by
    obtain ⟨noQuote, noMarker⟩ := separates.plain piece member other unquoted
    exact Batch.overlooks_of_notMem noQuote noMarker
  cases piece with
  | placeholder name => exact separates.named name member
  | literal constant =>
      cases constant with
      | string content => trivial
      | _ => exact overlooked rfl nofun
  | _ => exact overlooked rfl nofun

end Dialect.Separates

namespace Batch

theorem head?_of_isRenamed {statement : Query} {name : String}
    (renamed : isRenamed statement name = true) : name.toList.head? = some 'p' := by
  obtain ⟨digits, chars, -⟩ :=
    Params.toList_of_isGenerated (Bool.and_eq_true_iff.mp renamed).1
  rw [chars, List.head?_cons]

/-- Renaming appends the suffix to those placeholders of a statement that have a generated
name and are bound by it, and keeps everything else. -/
theorem rename_separated {dialect : Dialect} {marker : Char} {sql : Sql}
    (single : dialect.marker = String.singleton marker) (unquoted : marker ≠ '\'')
    (apart : isNameChar marker = false) (separates : dialect.Separates marker sql)
    (params : Params) (suffix : List Char) :
    rename dialect ⟨dialect.write sql, params⟩ suffix =
      dialect.write (sql.map (Piece.map fun name =>
        if Params.isGenerated name = true ∧ params.contains name = true then
          name ++ String.ofList suffix
        else name)) := by
  have marks : dialect.Marks marker 'p' := by
    refine ⟨?_, unquoted, apart⟩
    rw [single, String.toList_singleton]
    exact List.prefix_rfl
  have begin : ∀ name, isRenamed ⟨dialect.write sql, params⟩ name = true →
      name.toList.head? = some 'p' := fun _ => head?_of_isRenamed
  have renamed := renamePlaceholders_write marks begin suffix (separates.isLegible 'p')
    separates.apart
  rw [rename, renamed, String.ofList_toList]
  congr 1
  apply map_congr_placeholders
  intro name _
  simp only [suffixed, isRenamed, Bool.and_eq_true]

/-- A dialect whose marker takes more than one byte. -/
def sectioned : Dialect :=
  { Dialect.sqlite with marker := "§" }

/-- Text literals that stand side by side and look like placeholders, a name that begins like
a bound one, and a name that is bound but not generated. -/
def quoting : Sql :=
  [.raw "select ", .literal (.string "it's §p1"), .literal (.string "'"), .placeholder "p1",
    .text ", ", .placeholder "p12", .text ", ", .placeholder "page", .literal (.string "§p1"),
    .number 7, .placeholder ""]

theorem quoting_renamed :
    rename sectioned ⟨sectioned.write quoting, ⟨[("p1", .null), ("page", .null)], 0⟩⟩ ['a', 'b'] =
      "select 'it''s §p1'''''§p1ab, §p12, §page'§p1'7§" := by
  have separates : sectioned.Separates '§' quoting := by
    refine ⟨by simp [quoting, isNameChar], ⟨by decide, by decide, by decide, by decide, trivial⟩,
      ?_⟩
    have number : '\'' ∉ (toString 7).toList ∧ '§' ∉ (toString 7).toList := by decide
    simpa [quoting, Dialect.writePiece, Piece.parameter?] using number
  rw [rename_separated rfl (by decide) (by decide) separates]
  rfl

end Batch

end SqlMapper
