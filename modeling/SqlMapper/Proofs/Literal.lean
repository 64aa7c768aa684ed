import SqlMapper.Proofs.Compile.Operand
import SqlMapper.Proofs.Compile.Step
import SqlMapper.Statement

/-!
# Texts written as literals

A text stands between quotes, with each of its own quotes doubled. Standard SQL reads two
quotes as one and stops at a quote that stands alone. Such a reader gets every text back,
whatever follows its literal, and accepts nothing but literals. The only texts that become
part of a condition this way are those stored for the truth values of a column.
-/

namespace SqlMapper

namespace Literal

/-- Reads on behind an opening quote: the characters of the text and what is left behind
the closing quote. -/
def readQuoted : List Char → Option (List Char × List Char)
  | [] => none
  | '\'' :: '\'' :: rest => (readQuoted rest).map fun read => ('\'' :: read.1, read.2)
  | '\'' :: rest => some ([], rest)
  | char :: rest => (readQuoted rest).map fun read => (char :: read.1, read.2)

/-- Reads a literal of a text: the text and what is left behind it. -/
def readText? : List Char → Option (String × List Char)
  | '\'' :: rest => (readQuoted rest).map fun read => (String.ofList read.1, read.2)
  | _ => none

theorem readQuoted_cons {char : Char} (ordinary : char ≠ '\'') (rest : List Char) :
    readQuoted (char :: rest) = (readQuoted rest).map fun read => (char :: read.1, read.2) := by
  rw [readQuoted]
  · exact fun _ same => absurd same ordinary
  · exact fun same => absurd same ordinary

theorem readQuoted_closing {rest : List Char} (alone : rest.head? ≠ some '\'') :
    readQuoted ('\'' :: rest) = some ([], rest) := by
  cases rest with
  | nil => rfl
  | cons char later =>
      rw [readQuoted]
      intro behind doubled
      exact alone (congrArg List.head? doubled)

/-- A text is read back from between its quotes. -/
theorem readQuoted_escaped {rest : List Char} (alone : rest.head? ≠ some '\'')
    (text : List Char) : readQuoted (escaped text ++ '\'' :: rest) = some (text, rest) := by
  induction text with
  | nil => exact readQuoted_closing alone
  | cons char text inductionHypothesis =>
      by_cases quote : char = '\''
      · subst quote
        simp [escaped, readQuoted, inductionHypothesis]
      · simp [escaped, quote, readQuoted_cons quote, inductionHypothesis]

/-- What is read stood there with its quotes doubled, and the closing quote stood alone. -/
theorem eq_of_readQuoted {chars text rest : List Char}
    (read : readQuoted chars = some (text, rest)) :
    rest.head? ≠ some '\'' ∧ chars = escaped text ++ '\'' :: rest := by
  induction chars using readQuoted.induct generalizing text with
  | case1 => cases read
  | case2 later inductionHypothesis =>
      obtain ⟨⟨inner, _⟩, found, same⟩ := Option.map_eq_some_iff.mp read
      cases same
      obtain ⟨alone, rfl⟩ := inductionHypothesis found
      exact ⟨alone, rfl⟩
  | case3 later single =>
      have alone : later.head? ≠ some '\'' := by
        intro doubled
        obtain ⟨behind, rfl⟩ := List.head?_eq_some_iff.mp doubled
        exact single behind rfl
      rw [readQuoted_closing alone] at read
      cases read
      exact ⟨alone, rfl⟩
  | case4 char later notDoubled notClosing inductionHypothesis =>
      have ordinary : char ≠ '\'' := notClosing
      rw [readQuoted_cons ordinary] at read
      obtain ⟨⟨inner, _⟩, found, same⟩ := Option.map_eq_some_iff.mp read
      cases same
      obtain ⟨alone, rfl⟩ := inductionHypothesis found
      exact ⟨alone, by simp [escaped, ordinary]⟩

theorem toList_text_string (text : String) :
    (string text).text.toList = '\'' :: escaped text.toList ++ ['\''] :=
  String.toList_ofList

/-- The reader accepts the literals of texts and nothing else, up to the first quote that
stands alone. -/
theorem readText?_eq_some_iff {chars rest : List Char} {text : String} :
    readText? chars = some (text, rest) ↔
      chars = (string text).text.toList ++ rest ∧ rest.head? ≠ some '\'' := by
  rw [toList_text_string]
  constructor
  · intro read
    unfold readText? at read
    split at read
    next later =>
      obtain ⟨⟨inner, _⟩, found, same⟩ := Option.map_eq_some_iff.mp read
      cases same
      obtain ⟨alone, rfl⟩ := eq_of_readQuoted found
      exact ⟨by simp, alone⟩
    next => cases read
  · rintro ⟨rfl, alone⟩
    have inner := readQuoted_escaped alone text.toList
    simp [readText?, inner]

end Literal

/-- A boolean column, or its negation, as a condition. -/
def Expr.columnHolds (name : String) : Bool → Expr
  | true => .field name
  | false => .unary .not (.field name)

namespace Property

variable {map : TableMap} {name : String} {property : Property} {value : Bool} {stored : String}

/-- A text stored for a truth value is what the column is compared with. -/
theorem test_eq_of_text (texts : property.toStored (.bool value) = .ok (.string stored)) :
    property.test value = .ok (.columnIs property.column (.string stored)) := by
  rw [test, texts]
  rfl

/-- A boolean column and its negation bind nothing. -/
theorem outcome_columnHolds (evaluator : Evaluator) (mapped : map.property name = .ok property)
    (boolean : property.kind.isBool = true)
    (texts : property.toStored (.bool value) = .ok (.string stored)) (bound : List Value) :
    ((Expr.columnHolds name value).predicate map evaluator).outcome bound =
      (.ok (.columnIs property.column (.string stored)), bound) := by
  cases value with
  | true =>
      rw [Expr.columnHolds, Expr.predicate, Expr.operand_field evaluator mapped, pure_bind,
        Operand.condition, if_pos boolean, test_eq_of_text texts, Compile.outcome_ofResult]
  | false =>
      have mentioned : (Expr.unary .not (.field name)).referencesRow = true := rfl
      rw [Expr.columnHolds, Expr.predicate, Expr.operand_not mentioned,
        Expr.operand_field evaluator mapped]
      simp only [pure_bind, Operand.negatedCondition, if_pos boolean, test_eq_of_text texts]
      rfl

end Property

theorem Dialect.write_columnIs (dialect : Dialect) (column : String) (literal : Literal)
    (names : List String) :
    dialect.write ((Term.columnIs column literal).sql names) =
      "(" ++ dialect.escapeIdentifier column ++ " = " ++ literal.text ++ ")" := by
  simp [Term.sql, Term.pieces, Term.infixPieces, Piece.map, write_cons, writePiece,
    String.append_assoc]

/-- A text has a literal that is read back as the text, whatever follows that does not begin
with a quote, and nothing else is read as that text; so different texts have different
literals. Where texts are stored for the truth values of a boolean column, the column and its
negation compile to one comparison with one literal, which is read back as the stored text,
and bind nothing. -/
theorem text_literals_round_trip :
    (∀ text : String, ∃ written,
      (Literal.ofValue (.string text)).map Literal.text = .ok written ∧
      ∀ chars rest, Literal.readText? chars = some (text, rest) ↔
        chars = written.toList ++ rest ∧ rest.head? ≠ some '\'') ∧
    (∀ text other : String, (Literal.ofValue (.string text)).map Literal.text =
      (Literal.ofValue (.string other)).map Literal.text → text = other) ∧
    ∀ (map : TableMap) (name : String) (property : Property) (coding : ValueMap)
      (stored : Bool → String), map.property? name = some property →
      property.kind.isBool = true → property.valueMap = some coding →
      (∀ value, coding.toStored (.bool value) = .ok (.string (stored value))) →
      ∀ value evaluator (dialect : Dialect) (params : Params), ∃ sql written,
        params.compile ((Expr.columnHolds name value).predicate map evaluator) =
          (.ok sql, params) ∧
        dialect.write sql =
          "(" ++ dialect.escapeIdentifier property.column ++ " = " ++ written ++ ")" ∧
        ∀ rest : List Char, rest.head? ≠ some '\'' →
          Literal.readText? (written.toList ++ rest) = some (stored value, rest) := by
  refine ⟨fun text => ⟨_, rfl, fun chars rest => Literal.readText?_eq_some_iff⟩, ?_, ?_⟩
  · intro text other same
    have texts : (Literal.string text).text = (Literal.string other).text := Except.ok.inj same
    have read : Literal.readText? ((Literal.string text).text.toList ++ []) = some (text, []) :=
      Literal.readText?_eq_some_iff.mpr ⟨rfl, nofun⟩
    have readOther : Literal.readText? ((Literal.string text).text.toList ++ []) =
        some (other, []) :=
      Literal.readText?_eq_some_iff.mpr ⟨by rw [texts], nofun⟩
    cases read.symm.trans readOther
    rfl
  · intro map name property coding stored found boolean coded texts value evaluator dialect params
    have mapped : map.property name = .ok property := by rw [TableMap.property, found]
    have text : property.toStored (.bool value) = .ok (.string (stored value)) := by
      rw [Property.toStored, coded]
      exact texts value
    refine ⟨_, _, ?_, dialect.write_columnIs property.column (.string (stored value)) [],
      fun rest alone => Literal.readText?_eq_some_iff.mpr ⟨rfl, alone⟩⟩
    rw [params.compile_eq, property.outcome_columnHolds evaluator mapped boolean text]
    rfl

namespace Guest

/-- Whether a guest agreed is stored in words, with quotes of their own. -/
def answers : ValueMap :=
  .ofBool (.string "it's fine") (.string "'no'")

def agreed : Property :=
  { name := "agreed", column := "agreed", kind := .bool, primaryKey := false, generated := false
    identity := false, computed := false, nullable := false, readOnly := false
    selectable := true, valueMap := some answers, owner := "Guest" }

def guests : TableMap :=
  ⟨"Guest", "Guest", [agreed]⟩

theorem notAgreed_round_trip :
    ∃ sql written, Params.empty.compile
        ((Expr.columnHolds "agreed" false).predicate guests .standard) = (.ok sql, .empty) ∧
      Dialect.ansi.write sql = "(\"agreed\" = '''no''')" ∧
      Dialect.ansi.write sql = "(\"agreed\" = " ++ written ++ ")" ∧
      Literal.readText? (written.toList ++ [')']) = some ("'no'", [')']) := by
  have stored : ∀ value, answers.toStored (.bool value) =
      .ok (.string (if value then "it's fine" else "'no'")) := by
    intro value
    cases value <;> rfl
  obtain ⟨sql, written, compiled, text, read⟩ := text_literals_round_trip.2.2 guests "agreed"
    agreed answers _ rfl rfl rfl stored false .standard .ansi .empty
  have known : Params.empty.compile
      ((Expr.columnHolds "agreed" false).predicate guests .standard) =
        (.ok ((Term.columnIs "agreed" (.string "'no'")).sql []), .empty) := rfl
  cases known.symm.trans compiled
  exact ⟨_, written, rfl, by decide, text, read [')'] (by decide)⟩

end Guest

end SqlMapper
