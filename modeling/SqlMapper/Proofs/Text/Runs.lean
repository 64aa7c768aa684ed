import Mathlib.Data.List.TakeWhile

/-!
# Runs of characters

A run of items that satisfy a test is found again in a longer text, if what stands behind it
begins with an item that does not. The digits of a number are such a run, so a number can be
read off the start of a text.
-/

namespace SqlMapper.Text

section Runs

variable {Item : Type} {test : Item → Bool} {run rest : List Item}

theorem takeWhile_append_run (all : ∀ item ∈ run, test item = true)
    (ends : (rest.head?.all fun item => !test item) = true) :
    (run ++ rest).takeWhile test = run := by
  rw [List.takeWhile_append_of_pos all]
  cases rest with
  | nil => simp
  | cons item rest =>
      have other : test item = false := by simpa using ends
      simp [other]

theorem dropWhile_append_run (all : ∀ item ∈ run, test item = true)
    (ends : (rest.head?.all fun item => !test item) = true) :
    (run ++ rest).dropWhile test = rest := by
  rw [List.dropWhile_append_of_pos all]
  cases rest with
  | nil => rfl
  | cons item rest =>
      have other : test item = false := by simpa using ends
      simp [other]

end Runs

/-- What follows `words` in a text that begins with them. -/
def dropWords? (words : String) (chars : List Char) : Option (List Char) :=
  if words.toList.isPrefixOf chars then some (chars.drop words.toList.length) else none

/-- The decimal number at the start of a text, and what follows it. -/
def leadingNumber? (chars : List Char) : Option (Nat × List Char) :=
  match chars.takeWhile Char.isDigit with
  | [] => none
  | digits => some (Nat.ofDigitChars 10 digits 0, chars.dropWhile Char.isDigit)

/-- Whether a text ends or goes on with something that is no digit. -/
def endsNumber (chars : List Char) : Bool :=
  chars.head?.all fun char => !char.isDigit

@[simp] theorem dropWords?_append (words : String) (rest : List Char) :
    dropWords? words (words.toList ++ rest) = some rest := by
  have begins : words.toList.isPrefixOf (words.toList ++ rest) = true :=
    List.isPrefixOf_iff_prefix.mpr (List.prefix_append _ _)
  rw [dropWords?, if_pos begins, List.drop_left]

theorem leadingNumber?_append (number : Nat) {rest : List Char} (ends : endsNumber rest = true) :
    leadingNumber? ((toString number).toList ++ rest) = some (number, rest) := by
  have chars : (toString number).toList = Nat.toDigits 10 number := by
    rw [Nat.toString_eq_ofList_toDigits, String.toList_ofList]
  have digits : ∀ char ∈ Nat.toDigits 10 number, char.isDigit = true :=
    fun _ member => Nat.isDigit_of_mem_toDigits (by decide) (by decide) member
  rw [leadingNumber?, chars, takeWhile_append_run digits ends, dropWhile_append_run digits ends]
  split
  next empty => exact absurd empty Nat.toDigits_ne_nil
  next => rw [Nat.ofDigitChars_toDigits (by decide) (by decide)]

end SqlMapper.Text
