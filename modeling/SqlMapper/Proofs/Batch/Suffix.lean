import SqlMapper.Batch
import SqlMapper.Proofs.Numbering
import SqlMapper.Proofs.Text.Runs

/-!
# Names in a batch

The suffixes of statements are words over the small letters, one for each number, and
a generated name ends with a digit. So the name of a parameter in the batch gives back
both its number and its statement, and no two parameters of a batch get the same name.
-/

namespace SqlMapper

namespace Batch

/-- The number of a word over the small letters, counted from one. -/
def wordNumber (word : List Char) : Nat :=
  word.foldl (fun total char => total * 26 + (char.toNat - 96)) 0

theorem toNat_letter {number : Nat} (small : number < 26) :
    (letter number).toNat = 97 + number := by
  have valid : ('a'.toNat + number).isValidChar := by
    left
    show 97 + number < _
    omega
  rw [letter, Char.ofNat, dif_pos valid]
  rfl

theorem wordNumber_append_letter (word : List Char) {number : Nat} (small : number < 26) :
    wordNumber (word ++ [letter number]) = wordNumber word * 26 + (number + 1) := by
  have position : (letter number).toNat - 96 = number + 1 := by
    rw [toNat_letter small]
    omega
  simp [wordNumber, position]

theorem suffix_of_lt {number : Nat} (small : number < 26) : suffix number = [letter number] := by
  rw [suffix, if_pos small]

theorem suffix_of_not_lt {number : Nat} (large : ¬ number < 26) :
    suffix number = suffix (number / 26 - 1) ++ [letter (number % 26)] := by
  rw [suffix, if_neg large]

/-- Suffixes are numbered in their own order. -/
theorem wordNumber_suffix (number : Nat) : wordNumber (suffix number) = number + 1 := by
  induction number using suffix.induct with
  | case1 number small =>
      have single := wordNumber_append_letter [] small
      rw [suffix_of_lt small, ← List.nil_append [letter number], single]
      simp [wordNumber]
  | case2 number large inductionHypothesis =>
      have small : number % 26 < 26 := Nat.mod_lt number (by decide)
      rw [suffix_of_not_lt large, wordNumber_append_letter _ small, inductionHypothesis]
      omega

theorem suffix_inj {left right : Nat} : suffix left = suffix right ↔ left = right := by
  constructor
  · intro same
    have numbers := congrArg wordNumber same
    rw [wordNumber_suffix, wordNumber_suffix] at numbers
    omega
  · exact congrArg suffix

theorem isDigit_letter {number : Nat} (small : number < 26) : (letter number).isDigit = false := by
  have point := toNat_letter small
  simp only [Char.isDigit, Char.toNat] at *
  simp [UInt32.le_iff_toNat_le, point]
  omega

/-- What holds of every letter holds of the characters of a suffix. -/
theorem forall_mem_suffix {property : Char → Prop}
    (letters : ∀ number < 26, property (letter number)) (number : Nat) :
    ∀ char ∈ suffix number, property char := by
  induction number using suffix.induct with
  | case1 number small =>
      rw [suffix_of_lt small, List.forall_mem_singleton]
      exact letters number small
  | case2 number large inductionHypothesis =>
      have small : number % 26 < 26 := Nat.mod_lt number (by decide)
      rw [suffix_of_not_lt large, List.forall_mem_append, List.forall_mem_singleton]
      exact ⟨inductionHypothesis, letters _ small⟩

theorem isDigit_of_mem_suffix (number : Nat) :
    ∀ char ∈ suffix number, char.isDigit = false :=
  forall_mem_suffix (fun _ small => isDigit_letter small) number

end Batch

namespace Params

theorem toList_generatedName (number : Nat) :
    (generatedName number).toList = 'p' :: Nat.toDigits 10 number := by
  simp [generatedName, Nat.toString_eq_repr, Nat.toList_repr]

@[simp] theorem isGenerated_generatedName (number : Nat) :
    isGenerated (generatedName number) = true := by
  have digits : ∀ char ∈ Nat.toDigits 10 number, char.isDigit = true :=
    fun _ member => Nat.isDigit_of_mem_toDigits (by decide) (by decide) member
  simpa [isGenerated, toList_generatedName] using digits

/-- What a generated name consists of. -/
theorem toList_of_isGenerated {name : String} (generated : isGenerated name = true) :
    ∃ digits, name.toList = 'p' :: digits ∧ ∀ char ∈ digits, char.isDigit = true := by
  unfold isGenerated at generated
  split at generated
  next digits chars =>
    have digit := (Bool.and_eq_true_iff.mp generated).2
    exact ⟨digits, chars, List.all_eq_true.mp digit⟩
  next => cases generated

end Params

namespace Batch

open Params

theorem finalName_of_isGenerated {name : String} (generated : isGenerated name = true)
    (suffix : List Char) : finalName suffix name = name ++ String.ofList suffix :=
  if_pos generated

/-- The digits of a name end where the suffix begins. -/
theorem takeWhile_digits_append_suffix {digits : List Char}
    (digit : ∀ char ∈ digits, char.isDigit = true) (index : Nat) :
    (digits ++ suffix index).takeWhile Char.isDigit = digits := by
  refine Text.takeWhile_append_run digit ((Option.all_eq_true _ _).mpr fun char first => ?_)
  rw [isDigit_of_mem_suffix index char (List.mem_of_mem_head? first), Bool.not_false]

/-- A generated name in the batch belongs to one parameter of one statement. -/
theorem finalName_inj {index other : Nat} {name otherName : String}
    (generated : isGenerated name = true) (otherGenerated : isGenerated otherName = true) :
    finalName (suffix index) name = finalName (suffix other) otherName ↔
      index = other ∧ name = otherName := by
  constructor
  · intro same
    obtain ⟨digits, chars, digit⟩ := toList_of_isGenerated generated
    obtain ⟨otherDigits, otherChars, otherDigit⟩ := toList_of_isGenerated otherGenerated
    have tails : digits ++ suffix index = otherDigits ++ suffix other := by
      rw [finalName_of_isGenerated generated, finalName_of_isGenerated otherGenerated,
        ← String.toList_inj] at same
      simpa [chars, otherChars] using same
    have sameDigits : digits = otherDigits := by
      rw [← takeWhile_digits_append_suffix digit index, tails,
        takeWhile_digits_append_suffix otherDigit other]
    have sameSuffix : suffix index = suffix other := by
      rw [sameDigits] at tails
      exact List.append_cancel_left tails
    refine ⟨suffix_inj.mp sameSuffix, ?_⟩
    rw [← String.toList_inj, chars, otherChars, sameDigits]
  · intro same
    rw [same.1, same.2]

end Batch

end SqlMapper
