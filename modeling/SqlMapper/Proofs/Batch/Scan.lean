import SqlMapper.Batch
import SqlMapper.Proofs.Text.Runs

/-!
# Renaming reads a statement as it was written

Renaming sees a finished text and has to find the placeholders in it again. It finds
exactly those that were written as such, if all other text is overlooked: apart from
text literals it has no quotes, and where a placeholder could begin in it, none does.
`Batch.overlooks` checks this for one text on its own, and `renamePlaceholders_write`
puts together what renaming does to each piece of a statement.
-/

namespace SqlMapper

/-- The first two characters of each generated placeholder of a dialect. The first
one, with which a marker begins, is neither a quote nor part of a name. -/
structure Dialect.Marks (dialect : Dialect) (first second : Char) : Prop where
  opening : [first, second] <+: dialect.marker.toList ++ ['p']
  unquoted : first ≠ '\''
  apart : Batch.isNameChar first = false

namespace Batch

/-- Whether a text has no quotes and, wherever the first character of a marker stands in
it, goes on in another way than a generated placeholder. -/
def overlooks (first second : Char) : List Char → Bool
  | [] => true
  | char :: rest =>
    char != '\'' && (char != first || rest.head?.any (· != second)) && overlooks first second rest

/-- Whether a text ends or goes on with something that is not part of a name. -/
def endsName (chars : List Char) : Bool :=
  chars.head?.all fun char => !isNameChar char

theorem overlooks_of_notMem {first second : Char} {words : List Char} (unquoted : '\'' ∉ words)
    (unmarked : first ∉ words) : overlooks first second words = true := by
  induction words with
  | nil => rfl
  | cons char rest inductionHypothesis =>
      rw [List.mem_cons, not_or] at unquoted unmarked
      have later := inductionHypothesis unquoted.2 unmarked.2
      simp [overlooks, later, Ne.symm unquoted.1, Ne.symm unmarked.1]

section Names

variable {name rest : List Char}

theorem takeWhile_name (named : ∀ char ∈ name, isNameChar char = true)
    (ends : endsName rest = true) : (name ++ rest).takeWhile isNameChar = name :=
  Text.takeWhile_append_run named ends

theorem dropWhile_name (named : ∀ char ∈ name, isNameChar char = true)
    (ends : endsName rest = true) : (name ++ rest).dropWhile isNameChar = rest :=
  Text.dropWhile_append_run named ends

end Names

section Scanner

variable {first second : Char} {marker more : List Char} {renamed : String → Bool}
variable {suffix : List Char}

/-- A character that is no quote and with which no marker begins is kept. -/
theorem renamePlaceholders_cons {char : Char} {rest : List Char} (unquoted : char ≠ '\'')
    (unmarked : marker.isPrefixOf (char :: rest) = false) :
    renamePlaceholders marker renamed suffix 0 false (char :: rest) =
      char :: renamePlaceholders marker renamed suffix 0 false rest := by
  simp [renamePlaceholders, unquoted, unmarked]

theorem renamePlaceholders_cons_of_ne {char : Char} {rest : List Char}
    (unquoted : char ≠ '\'') (other : char ≠ first) :
    renamePlaceholders (first :: more) renamed suffix 0 false (char :: rest) =
      char :: renamePlaceholders (first :: more) renamed suffix 0 false rest := by
  apply renamePlaceholders_cons unquoted
  simp [List.isPrefixOf, Ne.symm other]

variable (marker more renamed suffix)

theorem renamePlaceholders_skip (quoted : Bool) (written rest : List Char) :
    renamePlaceholders marker renamed suffix written.length quoted (written ++ rest) =
      renamePlaceholders marker renamed suffix 0 quoted rest := by
  induction written with
  | nil => rfl
  | cons char written inductionHypothesis => exact inductionHypothesis

/-- What renaming does where a marker begins: the name behind it is taken as a whole. -/
theorem renamePlaceholders_marker (unquoted : first ≠ '\'') (rest : List Char) :
    renamePlaceholders (first :: more) renamed suffix 0 false (first :: (more ++ rest)) =
      first :: more ++ rest.takeWhile isNameChar ++
        (if renamed (String.ofList (rest.takeWhile isNameChar)) then suffix else []) ++
          renamePlaceholders (first :: more) renamed suffix 0 false
            (rest.dropWhile isNameChar) := by
  have marked : (first :: more).isPrefixOf (first :: (more ++ rest)) = true := by
    rw [List.isPrefixOf_iff_prefix]
    exact List.prefix_append (first :: more) rest
  have name : nameAfter (first :: more) (first :: (more ++ rest)) =
      rest.takeWhile isNameChar := by
    simp [nameAfter]
  have whole : more ++ rest =
      (more ++ rest.takeWhile isNameChar) ++ rest.dropWhile isNameChar := by
    rw [List.append_assoc, List.takeWhile_append_dropWhile]
  have written : (first :: more).length + (rest.takeWhile isNameChar).length - 1 =
      (more ++ rest.takeWhile isNameChar).length := by
    rw [List.length_append, List.length_cons]
    omega
  have skipped := renamePlaceholders_skip (first :: more) renamed suffix false
    (more ++ rest.takeWhile isNameChar) (rest.dropWhile isNameChar)
  rw [← whole, ← written] at skipped
  simp only [renamePlaceholders, unquoted, if_false, marked, name, skipped]
  simp

/-- A placeholder is renamed as a whole. -/
theorem renamePlaceholders_placeholder (unquoted : first ≠ '\'') {name rest : List Char}
    (named : ∀ char ∈ name, isNameChar char = true) (ends : endsName rest = true) :
    renamePlaceholders (first :: more) renamed suffix 0 false (first :: more ++ name ++ rest) =
      first :: more ++ name ++ (if renamed (String.ofList name) then suffix else []) ++
        renamePlaceholders (first :: more) renamed suffix 0 false rest := by
  have marker := renamePlaceholders_marker more renamed suffix unquoted (name ++ rest)
  rw [takeWhile_name named ends, dropWhile_name named ends] at marker
  simpa using marker

/-- A name on its own is kept. -/
theorem renamePlaceholders_name (apart : isNameChar first = false) {name : List Char}
    (named : ∀ char ∈ name, isNameChar char = true) (rest : List Char) :
    renamePlaceholders (first :: more) renamed suffix 0 false (name ++ rest) =
      name ++ renamePlaceholders (first :: more) renamed suffix 0 false rest := by
  induction name with
  | nil => rfl
  | cons char name inductionHypothesis =>
      obtain ⟨here, later⟩ := List.forall_mem_cons.mp named
      have unquoted : char ≠ '\'' := by
        rintro rfl
        exact absurd here (by decide)
      have other : char ≠ first := by
        rintro rfl
        exact absurd here (by simp [apart])
      rw [List.cons_append, renamePlaceholders_cons_of_ne unquoted other,
        inductionHypothesis later, List.cons_append]

variable {renamed}

/-- A marker of one character is kept where no generated name stands behind it. -/
theorem renamePlaceholders_marker_of_ne (unquoted : first ≠ '\'')
    (apart : isNameChar first = false)
    (renames : ∀ name, renamed name = true → name.toList.head? = some 'p') {next : Char}
    (other : next ≠ 'p') (rest : List Char) :
    renamePlaceholders [first] renamed suffix 0 false (first :: next :: rest) =
      first :: renamePlaceholders [first] renamed suffix 0 false (next :: rest) := by
  have kept : renamed (String.ofList ((next :: rest).takeWhile isNameChar)) = false := by
    rw [Bool.eq_false_iff]
    intro isRenamed
    have opening := renames _ isRenamed
    rw [String.toList_ofList, List.takeWhile_cons] at opening
    split at opening
    next => exact other (Option.some.inj opening)
    next => cases opening
  have marker := renamePlaceholders_marker [] renamed suffix unquoted (next :: rest)
  have named : ∀ char ∈ (next :: rest).takeWhile isNameChar, isNameChar char = true :=
    fun _ member => List.mem_takeWhile_imp member
  have name := renamePlaceholders_name [] renamed suffix apart named
    ((next :: rest).dropWhile isNameChar)
  rw [List.takeWhile_append_dropWhile] at name
  rw [List.nil_append, kept] at marker
  rw [marker, name]
  simp

/-- A text that is overlooked is kept. -/
theorem renamePlaceholders_overlooked (opening : [first, second] <+: first :: more ++ ['p'])
    (unquoted : first ≠ '\'') (apart : isNameChar first = false)
    (renames : ∀ name, renamed name = true → name.toList.head? = some 'p') {words : List Char}
    (overlooked : overlooks first second words = true) (rest : List Char) :
    renamePlaceholders (first :: more) renamed suffix 0 false (words ++ rest) =
      words ++ renamePlaceholders (first :: more) renamed suffix 0 false rest := by
  induction words with
  | nil => rfl
  | cons char words inductionHypothesis =>
      simp only [overlooks, Bool.and_eq_true, Bool.or_eq_true, bne_iff_ne, ne_eq] at overlooked
      obtain ⟨⟨noQuote, goesOn⟩, later⟩ := overlooked
      rw [List.cons_append, List.cons_append, ← inductionHypothesis later]
      rcases goesOn with other | goesOn
      · exact renamePlaceholders_cons_of_ne noQuote other
      · by_cases same : char = first
        · subst same
          cases words with
          | nil => cases goesOn
          | cons next words =>
              have differs : next ≠ second := by simpa using goesOn
              -- A longer marker does not begin here; one of a single character does.
              cases more with
              | cons third more =>
                  obtain rfl : second = third := by simpa using opening
                  apply renamePlaceholders_cons noQuote
                  simp [List.isPrefixOf, Ne.symm differs]
              | nil =>
                  obtain rfl : second = 'p' := by simpa using opening
                  exact renamePlaceholders_marker_of_ne suffix noQuote apart renames differs _
        · exact renamePlaceholders_cons_of_ne noQuote same

variable (renamed)

/-- Inside quotes everything is kept, and the doubled quotes of a text stay inside. -/
theorem renamePlaceholders_escaped (content rest : List Char) :
    renamePlaceholders marker renamed suffix 0 true (Literal.escaped content ++ '\'' :: rest) =
      Literal.escaped content ++
        '\'' :: renamePlaceholders marker renamed suffix 0 false rest := by
  induction content with
  | nil => simp [Literal.escaped, renamePlaceholders]
  | cons char content inductionHypothesis =>
      by_cases quote : char = '\''
      · simp [Literal.escaped, quote, renamePlaceholders, inductionHypothesis]
      · simp [Literal.escaped, quote, renamePlaceholders, inductionHypothesis]

/-- A text literal is kept. -/
theorem renamePlaceholders_literal (content : String) (rest : List Char) :
    renamePlaceholders marker renamed suffix 0 false
        ((Literal.string content).text.toList ++ rest) =
      (Literal.string content).text.toList ++
        renamePlaceholders marker renamed suffix 0 false rest := by
  have inside := renamePlaceholders_escaped marker renamed suffix content.toList rest
  simp [Literal.text, renamePlaceholders, inside]

end Scanner

end Batch

namespace Dialect

/-- Whether no placeholder runs into what is written behind it. -/
def SetsApart (dialect : Dialect) : Sql → Prop
  | [] => True
  | .placeholder _ :: rest =>
    Batch.endsName (dialect.write rest).toList = true ∧ dialect.SetsApart rest
  | _ :: rest => dialect.SetsApart rest

end Dialect

/-- A piece that renaming recognises for what it is: the name of a placeholder consists
of the characters of names, and what is neither a placeholder nor a text literal is
overlooked. -/
def Piece.IsLegible (dialect : Dialect) (first second : Char) : Piece String → Prop
  | placeholder name => ∀ char ∈ name.toList, Batch.isNameChar char = true
  | literal (.string _) => True
  | piece => Batch.overlooks first second (dialect.writePiece piece).toList = true

namespace Batch

/-- What renaming does to the name of one placeholder. -/
def suffixed (renamed : String → Bool) (suffix : List Char) (name : String) : String :=
  if renamed name then name ++ String.ofList suffix else name

/-- Renaming the text of a statement renames its placeholders and nothing else. -/
theorem renamePlaceholders_write {dialect : Dialect} {first second : Char}
    (marks : dialect.Marks first second) {renamed : String → Bool}
    (renames : ∀ name, renamed name = true → name.toList.head? = some 'p')
    (suffix : List Char) {sql : Sql}
    (legible : ∀ piece ∈ sql, piece.IsLegible dialect first second)
    (apart : dialect.SetsApart sql) :
    renamePlaceholders dialect.marker.toList renamed suffix 0 false (dialect.write sql).toList =
      (dialect.write (sql.map (Piece.map (suffixed renamed suffix)))).toList := by
  obtain ⟨opening, unquoted, separate⟩ := marks
  obtain ⟨more, marker⟩ : ∃ more, dialect.marker.toList = first :: more := by
    cases chars : dialect.marker.toList with
    | nil =>
        rw [chars] at opening
        have short := opening.length_le
        simp at short
    | cons char more =>
        rw [chars] at opening
        obtain ⟨rfl, -⟩ : first = char ∧ _ := by simpa using opening
        exact ⟨more, rfl⟩
  rw [marker] at opening ⊢
  have kept {words : String} (overlooked : overlooks first second words.toList = true) :=
    renamePlaceholders_overlooked more suffix opening unquoted separate renames overlooked
  induction sql with
  | nil => rfl
  | cons piece rest inductionHypothesis =>
      obtain ⟨here, later⟩ := List.forall_mem_cons.mp legible
      rw [List.map_cons, Dialect.toList_write_cons, Dialect.toList_write_cons]
      cases piece with
      | placeholder name =>
          obtain ⟨ends, apartLater⟩ := apart
          have read := renamePlaceholders_placeholder more renamed suffix unquoted here ends
          rw [String.ofList_toList] at read
          have written (name : String) :
              (dialect.placeholder name).toList = first :: more ++ name.toList := by
            rw [Dialect.placeholder, String.toList_append, marker]
          have readLater := inductionHypothesis later apartLater
          simp only [Piece.map, Dialect.writePiece, written, read, readLater, suffixed]
          split <;> simp
      | literal constant =>
          have readLater := inductionHypothesis later apart
          cases constant with
          | string content =>
              simp only [Piece.map, Dialect.writePiece, renamePlaceholders_literal, readLater]
          | _ => rw [kept here, readLater]; rfl
      | _ => rw [kept here, inductionHypothesis later apart]; rfl

end Batch

end SqlMapper
