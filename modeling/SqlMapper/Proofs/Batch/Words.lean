import SqlMapper.Proofs.Batch.Suffix
import Mathlib.Data.List.Induction
import Mathlib.Data.List.Shortlex
import Mathlib.Data.Set.Function

/-!
# Words over the small letters

The suffixes of the statements of a batch are all the words over the small letters, each once:
shorter words first, and words of one length in alphabetical order. Read with the letters as
digits from one to twenty-six, a suffix gives the position of its statement, counted from one.
The digits have no zero, so a carry takes one off: `zz` is followed by `aaa`.
-/

namespace SqlMapper.Batch

/-! ## Letters and words -/

/-- A text of small letters, at least one. -/
structure IsWord (word : List Char) : Prop where
  ne_nil : word ≠ []
  letters : ∀ char ∈ word, 'a' ≤ char ∧ char ≤ 'z'

theorem letter_bounds {number : Nat} (small : number < 26) :
    'a' ≤ letter number ∧ letter number ≤ 'z' := by
  have point := toNat_letter small
  simp only [Char.le_def, UInt32.le_iff_toNat_le]
  change 97 ≤ (letter number).toNat ∧ (letter number).toNat ≤ 122
  omega

theorem letter_lt_letter {first second : Nat} (before : first < second) (small : second < 26) :
    letter first < letter second := by
  have firstPoint := toNat_letter (Nat.lt_trans before small)
  have secondPoint := toNat_letter small
  rw [Char.lt_def, UInt32.lt_iff_toNat_lt]
  change (letter first).toNat < (letter second).toNat
  omega

theorem exists_letter_eq {char : Char} (bounds : 'a' ≤ char ∧ char ≤ 'z') :
    ∃ number < 26, letter number = char := by
  have points : 97 ≤ char.toNat ∧ char.toNat ≤ 122 := by
    simp only [Char.le_def, UInt32.le_iff_toNat_le] at bounds
    exact bounds
  refine ⟨char.toNat - 97, by omega, ?_⟩
  rw [← Char.toNat_inj, toNat_letter (by omega)]
  omega

theorem suffix_ne_nil (number : Nat) : suffix number ≠ [] := by
  rw [suffix]
  split <;> simp

theorem isWord_suffix (number : Nat) : IsWord (suffix number) :=
  ⟨suffix_ne_nil number, forall_mem_suffix (fun _ small => letter_bounds small) number⟩

/-- A letter behind a suffix: the digits before it count one more than their suffix. -/
theorem suffix_append_letter (number : Nat) {last : Nat} (small : last < 26) :
    suffix ((number + 1) * 26 + last) = suffix number ++ [letter last] := by
  have front : ((number + 1) * 26 + last) / 26 - 1 = number := by omega
  have back : ((number + 1) * 26 + last) % 26 = last := by omega
  rw [suffix_of_not_lt (by omega), front, back]

/-- No word is left out. -/
theorem IsWord.exists_suffix_eq {word : List Char} (isWord : IsWord word) :
    ∃ number, suffix number = word := by
  induction word using List.reverseRecOn with
  | nil => exact absurd rfl isWord.ne_nil
  | append_singleton front char inductionHypothesis =>
      obtain ⟨last, small, rfl⟩ := exists_letter_eq (isWord.letters char (by simp))
      by_cases single : front = []
      · exact ⟨last, by rw [single, suffix_of_lt small, List.nil_append]⟩
      · have isFront : IsWord front :=
          ⟨single, fun char inside => isWord.letters char (List.mem_append_left _ inside)⟩
        obtain ⟨number, rfl⟩ := inductionHypothesis isFront
        exact ⟨(number + 1) * 26 + last, suffix_append_letter number small⟩

/-! ## The order of words -/

theorem lex_append_of_length_eq {first second : List Char} (before : List.Lex (· < ·) first second)
    (lengths : first.length = second.length) (one other : List Char) :
    List.Lex (· < ·) (first ++ one) (second ++ other) := by
  induction before with
  | nil => cases lengths
  | cons _ inductionHypothesis => exact .cons (inductionHypothesis (Nat.succ.inj lengths))
  | rel less => exact .rel less

theorem shortlex_append_singleton {first second : List Char}
    (before : List.Shortlex (· < ·) first second) (one other : Char) :
    List.Shortlex (· < ·) (first ++ [one]) (second ++ [other]) := by
  rcases List.shortlex_def.mp before with shorter | ⟨lengths, smaller⟩
  · apply List.Shortlex.of_length_lt
    simpa using shorter
  · apply List.Shortlex.of_lex
    · simp [lengths]
    · exact lex_append_of_length_eq smaller lengths [one] [other]

theorem shortlex_suffix {first second : Nat} (before : first < second) :
    List.Shortlex (· < ·) (suffix first) (suffix second) := by
  induction second using suffix.induct generalizing first with
  | case1 second small =>
      rw [suffix_of_lt (Nat.lt_trans before small), suffix_of_lt small,
        List.shortlex_singleton_iff]
      exact letter_lt_letter before small
  | case2 second large inductionHypothesis =>
      rw [suffix_of_not_lt large]
      by_cases single : first < 26
      · apply List.Shortlex.of_length_lt
        have some := List.length_pos_iff.mpr (suffix_ne_nil (second / 26 - 1))
        rw [suffix_of_lt single, List.length_append]
        simpa using some
      · rw [suffix_of_not_lt single]
        -- The carries decide, unless they are equal: then the last letters do.
        rcases Nat.lt_or_ge (first / 26 - 1) (second / 26 - 1) with carry | carry
        · exact shortlex_append_singleton (inductionHypothesis carry) _ _
        · have same : first / 26 - 1 = second / 26 - 1 := by omega
          have last : first % 26 < second % 26 := by omega
          rw [same]
          apply List.Shortlex.append_left
          rw [List.shortlex_singleton_iff]
          exact letter_lt_letter last (Nat.mod_lt second (by decide))

theorem shortlex_suffix_iff {first second : Nat} :
    List.Shortlex (· < ·) (suffix first) (suffix second) ↔ first < second := by
  constructor
  · intro before
    rcases Nat.lt_trichotomy first second with less | rfl | more
    · exact less
    · exact absurd before (irrefl _)
    · exact absurd before (asymm (shortlex_suffix more))
  · exact shortlex_suffix

/-! ## Spelling a suffix letter by letter -/

/-- The word that is complete after so many rounds, if it is. A round puts one letter before
those found so far, and goes on with what is carried unless the number is used up. -/
def spell? : (rounds number : Nat) → (found : List Char) → Option (List Char)
  | 0, _, _ => none
  | rounds + 1, number, found =>
    if number < 26 then some (letter (number % 26) :: found)
    else spell? rounds (number / 26 - 1) (letter (number % 26) :: found)

/-- In every round the suffix of the number, put before the letters found so far, is the same
word. So the word is complete after as many rounds as the suffix has letters. -/
theorem spell?_eq_some_iff {rounds number : Nat} {found word : List Char} :
    spell? rounds number found = some word ↔
      word = suffix number ++ found ∧ (suffix number).length ≤ rounds := by
  induction rounds generalizing number found with
  | zero =>
      have some := List.length_pos_iff.mpr (suffix_ne_nil number)
      simp only [spell?, reduceCtorEq, false_iff]
      omega
  | succ rounds inductionHypothesis =>
      rw [spell?, suffix]
      split
      next small =>
        rw [Nat.mod_eq_of_lt small, Option.some_inj]
        simp [eq_comm]
      next =>
        rw [inductionHypothesis]
        simp

-- A carry takes one off, which shows behind the last word of each length.
example : spell? 2 701 [] = some ['z', 'z'] ∧ spell? 3 702 [] = some ['a', 'a', 'a'] := by decide

/-! ## The enumeration -/

/-- A set of words that has with a word all words before it. -/
structure IsInitial (part : Set (List Char)) : Prop where
  words : ∀ word ∈ part, IsWord word
  closed : ∀ word ∈ part, ∀ earlier, IsWord earlier →
    List.Shortlex (· < ·) earlier word → earlier ∈ part

/-- The words that are read as numbers up to a bound. -/
def wordsUpTo (bound : Nat) : Set (List Char) :=
  {word | IsWord word ∧ wordNumber word ≤ bound}

theorem isInitial_wordsUpTo (bound : Nat) : IsInitial (wordsUpTo bound) := by
  refine ⟨fun word inside => inside.1, ?_⟩
  rintro word ⟨isWord, within⟩ earlier isEarlier before
  obtain ⟨number, rfl⟩ := isWord.exists_suffix_eq
  obtain ⟨other, rfl⟩ := isEarlier.exists_suffix_eq
  have less := shortlex_suffix_iff.mp before
  refine ⟨isEarlier, ?_⟩
  rw [wordNumber_suffix] at within ⊢
  omega

theorem suffix_bijOn (bound : Nat) : Set.BijOn suffix (Set.Iio bound) (wordsUpTo bound) := by
  refine ⟨?words, fun _ _ _ _ same => suffix_inj.mp same, ?all⟩
  case words =>
    intro number below
    exact ⟨isWord_suffix number, (wordNumber_suffix number).trans_le below⟩
  case all =>
    rintro word ⟨isWord, within⟩
    obtain ⟨number, rfl⟩ := isWord.exists_suffix_eq
    rw [wordNumber_suffix] at within
    exact ⟨number, within, rfl⟩

/-- The suffixes are found letter by letter in as many rounds as they have letters, and in
order they are the words over the small letters: all of them together, and those below a bound
an initial part. -/
theorem suffixes_enumerate_words :
    (∀ number rounds word, spell? rounds number [] = some word ↔
      word = suffix number ∧ word.length ≤ rounds) ∧
    Set.BijOn suffix Set.univ {word | IsWord word} ∧
    (∀ bound, IsInitial (wordsUpTo bound) ∧
      Set.BijOn suffix (Set.Iio bound) (wordsUpTo bound)) ∧
    (∀ first second, first < second ↔
      List.Shortlex (· < ·) (suffix first) (suffix second)) ∧
    ∀ number, wordNumber (suffix number) = number + 1 := by
  refine ⟨?spelled, ?all, fun bound => ⟨isInitial_wordsUpTo bound, suffix_bijOn bound⟩,
    fun _ _ => shortlex_suffix_iff.symm, wordNumber_suffix⟩
  case spelled =>
    intro number rounds word
    rw [spell?_eq_some_iff, List.append_nil]
    exact and_congr_right fun spelled => by rw [spelled]
  case all =>
    exact ⟨fun number _ => isWord_suffix number, fun _ _ _ _ same => suffix_inj.mp same,
      fun _ isWord => isWord.exists_suffix_eq.imp fun _ same => ⟨trivial, same⟩⟩

end SqlMapper.Batch
