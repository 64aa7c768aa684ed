import Mathlib.Data.List.Infix
import SqlMapper.Proofs.Compile.Meaning
import SqlMapper.Proofs.Compile.Operand

/-!
# Text tests and patterns

Whether a text begins with, ends with or contains another one is asked in two ways: of a
constant by a search, of a column by a pattern. The pattern finds every text that the
search finds, and it finds no other text exactly when the text that is looked for has no
characters that mean something in a pattern.
-/

namespace SqlMapper

/-- Whether a text matches a pattern, in which `%` stands for any run of characters, `_`
for any one character, and every other character for itself. -/
def likes : List Char → List Char → Bool
  | [], text => text.isEmpty
  | mark :: pattern, text =>
    if mark == '%' then text.tails.any (likes pattern)
    else
      match text with
      | [] => false
      | char :: rest => (mark == '_' || mark == char) && likes pattern rest

/-- A character that does not stand for itself alone in a pattern. -/
def isWildcard (char : Char) : Bool :=
  char == '%' || char == '_'

theorem forall_isWildcard_eq_false {chars : List Char} :
    (∀ char ∈ chars, isWildcard char = false) ↔ '%' ∉ chars ∧ '_' ∉ chars := by
  simp only [isWildcard, Bool.or_eq_false_iff, beq_eq_false_iff_ne, ne_eq, forall_and,
    List.forall_mem_ne']

section Matching

variable {pattern text rest : List Char} {char first : Char}

theorem likes_run : likes ('%' :: pattern) text = true ↔
    ∃ skipped rest, text = skipped ++ rest ∧ likes pattern rest = true := by
  simp only [likes, beq_self_eq_true, if_true, List.any_eq_true, List.mem_tails]
  constructor
  · rintro ⟨rest, ⟨skipped, whole⟩, matched⟩
    exact ⟨skipped, rest, whole.symm, matched⟩
  · rintro ⟨skipped, rest, whole, matched⟩
    exact ⟨rest, ⟨skipped, whole.symm⟩, matched⟩

theorem likes_anything : likes ['%'] text = true :=
  likes_run.mpr ⟨text, [], (List.append_nil text).symm, rfl⟩

/-- Outside wildcards, a pattern finds what it says. -/
theorem likes_cons_of_plain (plain : isWildcard char = false) :
    likes (char :: pattern) text = true ↔
      ∃ rest, text = char :: rest ∧ likes pattern rest = true := by
  obtain ⟨noRun, noAny⟩ : char ≠ '%' ∧ char ≠ '_' := by simpa [isWildcard] using plain
  cases text with
  | nil => simp [likes, noRun]
  | cons first rest => simp [likes, noRun, noAny, @eq_comm _ char first]

/-- Behind a literal part, the rest of the pattern meets the rest of the text. -/
theorem likes_append_of_plain {literal : List Char}
    (plain : ∀ char ∈ literal, isWildcard char = false) :
    likes (literal ++ pattern) text = true ↔
      ∃ rest, text = literal ++ rest ∧ likes pattern rest = true := by
  induction literal generalizing text with
  | nil => simp
  | cons char literal inductionHypothesis =>
      obtain ⟨charPlain, literalPlain⟩ := List.forall_mem_cons.mp plain
      rw [List.cons_append, likes_cons_of_plain charPlain]
      simp only [inductionHypothesis literalPlain]
      constructor
      · rintro ⟨_, rfl, rest, rfl, matched⟩
        exact ⟨rest, rfl, matched⟩
      · rintro ⟨rest, rfl, matched⟩
        exact ⟨literal ++ rest, rfl, rest, rfl, matched⟩

/-- A wildcard finds any one character, and every character finds itself. -/
theorem likes_cons (found : isWildcard char = true ∨ char = first)
    (matched : likes pattern rest = true) : likes (char :: pattern) (first :: rest) = true := by
  by_cases run : char = '%'
  · subst run
    exact likes_run.mpr ⟨[first], rest, rfl, matched⟩
  · simpa [likes, run, matched, isWildcard] using found

/-- A pattern finds every text that has other characters only where it has wildcards. -/
theorem likes_map_append {change : Char → Char}
    (keeps : ∀ char, isWildcard char = false → change char = char) (literal : List Char)
    (matched : likes pattern rest = true) :
    likes (literal ++ pattern) (literal.map change ++ rest) = true := by
  induction literal with
  | nil => exact matched
  | cons char literal inductionHypothesis =>
      refine likes_cons ?_ inductionHypothesis
      cases wild : isWildcard char with
      | true => exact .inl rfl
      | false => exact .inr (keeps char wild).symm

end Matching

theorem Text.occursIn_iff {pattern text : List Char} :
    occursIn pattern text = true ↔ pattern <:+: text := by
  induction text with
  | nil => simp [occursIn]
  | cons char rest inductionHypothesis =>
      rw [occursIn, Bool.or_eq_true, List.isPrefixOf_iff_prefix, inductionHypothesis,
        List.infix_cons_iff]

/-- A test of whether a text has another one in it. -/
inductive TextTest where
  | startsWith
  | endsWith
  | contains

namespace TextTest

/-- The method that performs the test. -/
def method : TextTest → String
  | startsWith => "starts_with"
  | endsWith => "ends_with"
  | contains => "contains"

def freeBefore : TextTest → Bool
  | startsWith => false
  | endsWith | contains => true

def freeAfter : TextTest → Bool
  | startsWith | contains => true
  | endsWith => false

/-- The test as an expression. -/
def expr (test : TextTest) (target : Expr) (argument : String) : Expr :=
  .method target test.method [.value (.string argument)]

/-- The argument stands in the text, with other characters only at the ends where the test
leaves them free. -/
def Finds (test : TextTest) (text argument : List Char) : Prop :=
  ∃ before after, text = before ++ argument ++ after ∧
    (test.freeBefore = false → before = []) ∧ (test.freeAfter = false → after = [])

/-- Any run of characters where they are free. -/
def free (isFree : Bool) : List Char :=
  if isFree then ['%'] else []

/-- The pattern of the test, as characters. -/
def pattern (test : TextTest) (argument : List Char) : List Char :=
  free test.freeBefore ++ (argument ++ free test.freeAfter)

variable {test : TextTest} {argument text before after : List Char}

theorem likes_free_append {isFree : Bool} {rest : List Char} :
    likes (free isFree ++ rest) text = true ↔
      ∃ before after, text = before ++ after ∧ (isFree = false → before = []) ∧
        likes rest after = true := by
  cases isFree with
  | true =>
      simp only [free, if_true, List.singleton_append, likes_run, Bool.true_eq_false,
        false_implies, true_and]
  | false => simp [free]

theorem likes_free {isFree : Bool} :
    likes (free isFree) text = true ↔ (isFree = false → text = []) := by
  cases isFree with
  | true => simp [free, likes_anything]
  | false => simp [free, likes]

/-- What a search finds, the pattern finds too, whatever stands in its wildcards' places. -/
theorem likes_pattern_of_change {change : Char → Char}
    (keeps : ∀ char, isWildcard char = false → change char = char)
    (noneBefore : test.freeBefore = false → before = [])
    (noneAfter : test.freeAfter = false → after = []) :
    likes (test.pattern argument) (before ++ (argument.map change ++ after)) = true :=
  likes_free_append.mpr ⟨before, _, rfl, noneBefore,
    likes_map_append keeps argument (likes_free.mpr noneAfter)⟩

theorem likes_pattern_of_finds (found : test.Finds text argument) :
    likes (test.pattern argument) text = true := by
  obtain ⟨before, after, rfl, noneBefore, noneAfter⟩ := found
  have matched : likes (test.pattern argument) (before ++ (argument.map id ++ after)) = true :=
    likes_pattern_of_change (fun _ _ => rfl) noneBefore noneAfter
  rwa [List.map_id, ← List.append_assoc] at matched

/-- A pattern without wildcards finds what the search finds. -/
theorem likes_pattern_iff_of_plain (plain : ∀ char ∈ argument, isWildcard char = false) :
    likes (test.pattern argument) text = true ↔ test.Finds text argument := by
  refine ⟨fun matched => ?_, likes_pattern_of_finds⟩
  obtain ⟨before, rest, rfl, noneBefore, behind⟩ := likes_free_append.mp matched
  obtain ⟨after, rfl, ended⟩ := (likes_append_of_plain plain).mp behind
  exact ⟨before, after, (List.append_assoc ..).symm, noneBefore, likes_free.mp ended⟩

/-- A letter in the place of a wildcard. -/
def instead (char : Char) : Char :=
  if isWildcard char then 'a' else char

/-- A pattern with wildcards finds the argument with letters in their places; the search
does not. -/
theorem exists_likes_not_finds {char : Char} (member : char ∈ argument)
    (wild : isWildcard char = true) :
    ∃ text, likes (test.pattern argument) text = true ∧ ¬ test.Finds text argument := by
  refine ⟨argument.map instead, ?_, ?_⟩
  · have keeps : ∀ char, isWildcard char = false → instead char = char := by
      intro char plain
      simp [instead, plain]
    have matched : likes (test.pattern argument) ([] ++ (argument.map instead ++ [])) = true :=
      likes_pattern_of_change keeps (fun _ => rfl) (fun _ => rfl)
    simpa using matched
  · rintro ⟨before, after, whole, -, -⟩
    have lengths := congrArg List.length whole
    simp only [List.length_append, List.length_map] at lengths
    obtain rfl : before = [] := List.eq_nil_of_length_eq_zero (by omega)
    obtain rfl : after = [] := List.eq_nil_of_length_eq_zero (by omega)
    have same : argument.map instead = argument.map id := by simpa using whole
    have fixed : 'a' = char := by
      simpa [instead, wild] using List.map_inj_left.mp same char member
    subst fixed
    exact absurd wild (by decide)

/-- Pattern and search agree on all texts exactly when the argument has no wildcards. -/
theorem likes_pattern_iff_finds :
    (∀ text, likes (test.pattern argument) text = true ↔ test.Finds text argument) ↔
      ∀ char ∈ argument, isWildcard char = false := by
  constructor
  · intro agree char member
    by_contra wild
    obtain ⟨text, matched, missed⟩ :=
      exists_likes_not_finds member (by simpa using wild)
    exact missed ((agree text).mp matched)
  · exact fun plain text => likes_pattern_iff_of_plain plain

theorem likePattern_method (test : TextTest) (argument : String) :
    likePattern test.method argument = some (String.ofList (test.pattern argument.toList)) := by
  cases test <;>
    simp [likePattern, method, pattern, free, freeBefore, freeAfter, ← String.toList_inj]

/-- The value of the test on a constant is what the search finds. -/
theorem evaluate_finds (test : TextTest) (text argument : String) :
    ∃ holds, (test.expr (.value (.string text)) argument).evaluate = .ok (.bool holds) ∧
      (holds = true ↔ test.Finds text.toList argument.toList) := by
  cases test with
  | startsWith =>
      refine ⟨Text.startsWith text argument, rfl, ?_⟩
      rw [Text.startsWith, List.isPrefixOf_iff_prefix]
      constructor
      · rintro ⟨after, whole⟩
        exact ⟨[], after, whole.symm, fun _ => rfl, nofun⟩
      · rintro ⟨before, after, whole, noneBefore, -⟩
        obtain rfl := noneBefore rfl
        exact ⟨after, whole.symm⟩
  | endsWith =>
      refine ⟨Text.endsWith text argument, rfl, ?_⟩
      rw [Text.endsWith, List.isSuffixOf_iff_suffix]
      constructor
      · rintro ⟨before, whole⟩
        exact ⟨before, [], by simp [whole], nofun, fun _ => rfl⟩
      · rintro ⟨before, after, whole, -, noneAfter⟩
        obtain rfl := noneAfter rfl
        exact ⟨before, by simp [whole]⟩
  | contains =>
      refine ⟨Text.contains text argument, rfl, ?_⟩
      rw [Text.contains, Text.occursIn_iff]
      constructor
      · rintro ⟨before, after, whole⟩
        exact ⟨before, after, whole.symm, nofun, nofun⟩
      · rintro ⟨before, after, whole, -, -⟩
        exact ⟨before, after, whole.symm⟩

theorem methodOperand_method {map : TableMap} {evaluator : Evaluator} {whole argument : Expr}
    {text : Term} : Expr.methodOperand map evaluator whole text test.method [argument] = (do
      let argument ← argument.operand map evaluator
      return .term (← likeTerm whole test.method text argument)) := by
  cases test <;> rfl

/-- On a column the test compiles to a match against its pattern, which is bound. -/
theorem outcome_predicate {map : TableMap} {name : String} {property : Property}
    (evaluator : Evaluator) (mapped : map.property name = .ok property) (test : TextTest)
    (argument : String) (bound : List Value) :
    ((test.expr (.field name) argument).predicate map evaluator).outcome bound =
      (.ok (.like (.column property.column) (.slot bound.length)),
        bound ++ [.string (String.ofList (test.pattern argument.toList))]) := by
  have mentioned : (test.expr (.field name) argument).referencesRow = true := rfl
  rw [Expr.predicate, expr, Expr.operand_method mentioned, Expr.operand_field evaluator mapped]
  simp only [methodOperand_method, Expr.operand, likeTerm, likePattern_method, Operand.render,
    pure_bind]
  rfl

end TextTest

/-- On a column, a text test compiles to a match against a pattern, which is bound. The
pattern finds every text for which the test holds by evaluation; it finds these alone, for
all texts, exactly when the argument has no wildcards. -/
theorem text_test_agrees_iff {map : TableMap} {name : String} {property : Property}
    (evaluator : Evaluator) (mapped : map.property name = .ok property) (test : TextTest)
    (argument : String) :
    ∃ pattern : String,
      (∀ params : Params,
        params.compile ((test.expr (.field name) argument).predicate map evaluator) =
          (.ok (Term.infixPieces [.identifier property.column] "like"
              [.placeholder (params.push (.string pattern)).1]),
            (params.push (.string pattern)).2)) ∧
      (∀ text : String, ∃ holds,
        (test.expr (.value (.string text)) argument).evaluate = .ok (.bool holds) ∧
        (holds = true → likes pattern.toList text.toList = true)) ∧
      ((∀ text : String, (test.expr (.value (.string text)) argument).evaluate =
          .ok (.bool (likes pattern.toList text.toList))) ↔
        '%' ∉ argument.toList ∧ '_' ∉ argument.toList) := by
  have chars : (String.ofList (test.pattern argument.toList)).toList =
      test.pattern argument.toList := String.toList_ofList
  refine ⟨String.ofList (test.pattern argument.toList), fun params => ?_, fun text => ?_, ?_⟩
  · rw [params.compile_eq, TextTest.outcome_predicate evaluator mapped]
    rfl
  · obtain ⟨holds, evaluated, finds⟩ := test.evaluate_finds text argument
    refine ⟨holds, evaluated, fun held => ?_⟩
    rw [chars]
    exact TextTest.likes_pattern_of_finds (finds.mp held)
  · rw [← forall_isWildcard_eq_false, ← TextTest.likes_pattern_iff_finds, chars]
    constructor
    · intro agree text
      obtain ⟨holds, evaluated, finds⟩ := test.evaluate_finds (String.ofList text) argument
      rw [agree] at evaluated
      cases evaluated
      simpa using finds
    · intro agree text
      obtain ⟨holds, evaluated, finds⟩ := test.evaluate_finds text argument
      have same : likes (test.pattern argument.toList) text.toList = holds :=
        Bool.eq_iff_iff.mpr ((agree text.toList).trans finds.symm)
      rw [evaluated, same]

namespace Invoice

def customer : Property :=
  { paid with name := "customer", column := "customer", kind := .string, valueMap := none }

def customers : TableMap :=
  ⟨"Invoice", "invoices", [customer]⟩

theorem customer_startsWith_agrees :
    customers.property "customer" = .ok customer ∧
    ∃ pattern : String,
      Params.empty.compile
          ((TextTest.startsWith.expr (.field "customer") "Al").predicate customers .standard) =
        (.ok (Term.infixPieces [.identifier "customer"] "like" [.placeholder "p0"]),
          .numbered 0 [.string pattern]) ∧
      ∀ text : String, (TextTest.startsWith.expr (.value (.string text)) "Al").evaluate =
        .ok (.bool (likes pattern.toList text.toList)) := by
  have mapped : customers.property "customer" = .ok customer := rfl
  obtain ⟨pattern, compiled, -, agrees⟩ :=
    text_test_agrees_iff .standard mapped .startsWith "Al"
  exact ⟨mapped, pattern, compiled .empty, agrees.mpr (by decide)⟩

/-- The test for texts that begin with `%` compiles to a pattern that finds others too. -/
theorem percent_finds_other_text :
    Params.empty.compile
        ((Expr.method (.field "customer") "starts_with" [.value (.string "%")]).predicate
          customers .standard) =
      (.ok (Term.infixPieces [.identifier "customer"] "like" [.placeholder "p0"]),
        .numbered 0 [.string "%%"]) ∧
    likes "%%".toList "a".toList = true ∧
    (Expr.method (.value (.string "a")) "starts_with" [.value (.string "%")]).evaluate =
      .ok (.bool false) :=
  ⟨rfl, rfl, rfl⟩

end Invoice

end SqlMapper
