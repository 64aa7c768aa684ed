import SqlMapper.Dialect
import Mathlib.Data.List.Forall2

/-!
# Identifiers

An identifier is split at its dots, and each segment is delimited unless it is so already.
As long as no delimiter has a dot in it, the written identifier splits into the delimited
segments; so identifiers whose segments are all delimited on writing are told apart by what
is written. If moreover no delimiter is empty, what was put between them passes as delimited,
and writing an identifier that is written already changes nothing.
-/

namespace SqlMapper

namespace Text

variable {separator : Char} {chars segment : List Char}

theorem splitOn_eq (separator : Char) (chars : List Char) :
    splitOn separator chars = chars.splitOn separator := by
  induction chars with
  | nil => simp [splitOn]
  | cons char rest inductionHypothesis =>
      rw [splitOn, List.splitOn_cons_eq_if_modifyHead, inductionHypothesis]
      split
      next => rfl
      next =>
        cases found : rest.splitOn separator with
        | nil => exact absurd found (List.splitOn_ne_nil _ _)
        | cons piece pieces => rfl

theorem splitOn_ne_nil (separator : Char) (chars : List Char) : splitOn separator chars ≠ [] := by
  rw [splitOn_eq]
  exact List.splitOn_ne_nil _ _

/-- No separator is inside a segment. -/
theorem notMem_of_mem_splitOn (member : segment ∈ splitOn separator chars) :
    separator ∉ segment := by
  induction chars generalizing segment with
  | nil =>
      rw [splitOn, List.mem_singleton] at member
      simp [member]
  | cons char rest inductionHypothesis =>
      rw [splitOn] at member
      split at member
      next =>
        rcases List.mem_cons.mp member with rfl | later
        · exact List.not_mem_nil
        · exact inductionHypothesis later
      next differs =>
        split at member
        next none => exact absurd none (splitOn_ne_nil _ _)
        next piece pieces found =>
          rcases List.mem_cons.mp member with rfl | later
          · have own := inductionHypothesis (found ▸ List.mem_cons_self)
            simp only [beq_iff_eq] at differs
            simp [Ne.symm differs, own]
          · exact inductionHypothesis (found ▸ List.mem_cons_of_mem _ later)

theorem toList_join (separator : String) (texts : List String) :
    (join separator texts).toList = separator.toList.intercalate (texts.map String.toList) := by
  induction texts with
  | nil => rfl
  | cons text rest inductionHypothesis =>
      cases rest with
      | nil => simp [join]
      | cons next rest =>
          rw [join, String.toList_append, String.toList_append, inductionHypothesis]
          · simp [List.intercalate_cons_cons]
          · exact List.cons_ne_nil _ _

/-- A text is put together again from its segments. -/
theorem intercalate_splitOn (separator : Char) (chars : List Char) :
    [separator].intercalate (splitOn separator chars) = chars := by
  rw [splitOn_eq]
  exact List.intercalate_splitOn separator

theorem splitOn_append_cons (separator : Char) (first second : List Char) :
    (first ++ separator :: second).splitOn separator =
      first.splitOn separator ++ second.splitOn separator :=
  List.splitOnP_append_cons first second (beq_self_eq_true separator)

theorem join_append (separator : String) {first second : List String} (some : first ≠ [])
    (further : second ≠ []) :
    join separator (first ++ second) =
      join separator first ++ separator ++ join separator second := by
  induction first with
  | nil => exact absurd rfl some
  | cons text rest inductionHypothesis =>
      cases rest with
      | nil =>
          obtain ⟨next, last, rfl⟩ := List.exists_cons_of_ne_nil further
          rfl
      | cons next rest =>
          have shorter := inductionHypothesis (List.cons_ne_nil next rest)
          simp only [List.cons_append, join, String.append_assoc] at shorter ⊢
          rw [shorter]

end Text

namespace Dialect

variable {dialect : Dialect} {first second identifier : String}

/-- No delimiter has a dot in it. -/
structure DotFree (dialect : Dialect) : Prop where
  left : '.' ∉ dialect.left.toList
  right : '.' ∉ dialect.right.toList

/-- No segment of the identifier has the delimiters of the dialect already. -/
def IsPlain (dialect : Dialect) (identifier : String) : Prop :=
  ∀ segment ∈ Text.splitOn '.' identifier.toList,
    dialect.isDelimited (String.ofList segment) = false

instance (dialect : Dialect) (identifier : String) : Decidable (dialect.IsPlain identifier) :=
  inferInstanceAs (Decidable (∀ segment ∈ Text.splitOn '.' identifier.toList, _))

theorem dotFree_of_mem_builtin (listed : dialect ∈ builtin) : dialect.DotFree := by
  simp only [builtin, List.mem_cons, List.not_mem_nil, or_false] at listed
  rcases listed with rfl | rfl | rfl | rfl | rfl | rfl | rfl <;> exact ⟨by decide, by decide⟩

theorem DotFree.notMem_escapeSegment (dotFree : dialect.DotFree) {segment : String}
    (inside : '.' ∉ segment.toList) : '.' ∉ (dialect.escapeSegment segment).toList := by
  unfold escapeSegment
  split
  next => exact inside
  next => simp [dotFree.left, inside, dotFree.right]

/-- The written identifier splits into its segments as they are written. -/
theorem DotFree.splitOn_escapeIdentifier (dotFree : dialect.DotFree) (identifier : String) :
    Text.splitOn '.' (dialect.escapeIdentifier identifier).toList =
      (Text.splitOn '.' identifier.toList).map fun segment =>
        (dialect.escapeSegment (String.ofList segment)).toList := by
  rw [escapeIdentifier, Text.toList_join, List.map_map, Text.splitOn_eq]
  apply List.splitOn_intercalate
  · intro chars member
    obtain ⟨segment, inside, rfl⟩ := List.mem_map.mp member
    apply dotFree.notMem_escapeSegment
    rw [String.toList_ofList]
    exact Text.notMem_of_mem_splitOn inside
  · exact mt List.map_eq_nil_iff.mp (Text.splitOn_ne_nil _ _)

/-- Identifiers without delimiters of their own are told apart by what is written. -/
theorem DotFree.eq_of_escapeIdentifier_eq (dotFree : dialect.DotFree)
    (firstPlain : dialect.IsPlain first) (secondPlain : dialect.IsPlain second)
    (same : dialect.escapeIdentifier first = dialect.escapeIdentifier second) :
    first = second := by
  have written {identifier : String} (plain : dialect.IsPlain identifier) :
      Text.splitOn '.' (dialect.escapeIdentifier identifier).toList =
        (Text.splitOn '.' identifier.toList).map fun segment =>
          dialect.left.toList ++ segment ++ dialect.right.toList := by
    rw [dotFree.splitOn_escapeIdentifier]
    apply List.map_congr_left
    intro segment inside
    rw [escapeSegment, plain segment inside]
    simp
  have segments : Text.splitOn '.' first.toList = Text.splitOn '.' second.toList := by
    have delimited := (written firstPlain).symm.trans (same ▸ written secondPlain)
    refine (List.map_inj_right ?_).mp delimited
    exact fun _ _ equal => List.append_cancel_left (List.append_cancel_right equal)
  have characters := congrArg ['.'].intercalate segments
  rw [Text.intercalate_splitOn, Text.intercalate_splitOn] at characters
  exact String.toList_inj.mp characters

/-! ## Writing segment by segment -/

/-- The texts between the dots of an identifier. -/
def segments (identifier : String) : List String :=
  (identifier.toList.splitOn '.').map String.ofList

theorem segments_ne_nil (identifier : String) : segments identifier ≠ [] :=
  mt List.map_eq_nil_iff.mp (List.splitOn_ne_nil _ _)

theorem segments_append_dot (first second : String) :
    segments (first ++ "." ++ second) = segments first ++ segments second := by
  have characters : (first ++ "." ++ second).toList = first.toList ++ '.' :: second.toList := by
    simp
  rw [segments, characters, Text.splitOn_append_cons, List.map_append]
  rfl

theorem escapeIdentifier_eq (dialect : Dialect) (identifier : String) :
    dialect.escapeIdentifier identifier =
      Text.join "." ((segments identifier).map dialect.escapeSegment) := by
  rw [escapeIdentifier, Text.splitOn_eq, segments, List.map_map]
  rfl

theorem DotFree.segments_escapeIdentifier (dotFree : dialect.DotFree) (identifier : String) :
    segments (dialect.escapeIdentifier identifier) =
      (segments identifier).map dialect.escapeSegment := by
  have split := dotFree.splitOn_escapeIdentifier identifier
  rw [Text.splitOn_eq, Text.splitOn_eq] at split
  simp [segments, split, Function.comp_def]

theorem escapeIdentifier_append_dot (dialect : Dialect) (first second : String) :
    dialect.escapeIdentifier (first ++ "." ++ second) =
      dialect.escapeIdentifier first ++ "." ++ dialect.escapeIdentifier second := by
  have some (identifier : String) :
      (segments identifier).map dialect.escapeSegment ≠ [] :=
    mt List.map_eq_nil_iff.mp (segments_ne_nil identifier)
  simp only [escapeIdentifier_eq, segments_append_dot, List.map_append]
  exact Text.join_append "." (some first) (some second)

/-- Delimiters that are found again around what was put between them: neither is empty, and
neither has a dot in it. -/
structure IsProper (dialect : Dialect) : Prop extends dialect.DotFree where
  left_ne : dialect.left ≠ ""
  right_ne : dialect.right ≠ ""

theorem isProper_of_mem_builtin (listed : dialect ∈ builtin) : dialect.IsProper := by
  have dotFree := dotFree_of_mem_builtin listed
  simp only [builtin, List.mem_cons, List.not_mem_nil, or_false] at listed
  rcases listed with rfl | rfl | rfl | rfl | rfl | rfl | rfl <;>
    exact ⟨dotFree, by decide, by decide⟩

/-- `written` is the segment between delimiters: its own, or those that were put around it. -/
structure Encloses (dialect : Dialect) (segment written : String) : Prop where
  opens : dialect.left.toList <+: written.toList
  closes : dialect.right.toList <:+ written.toList
  keeps : written = segment ∨ written = dialect.left ++ segment ++ dialect.right

theorem isDelimited_iff {segment : String} :
    dialect.isDelimited segment = true ↔
      dialect.left.toList <+: segment.toList ∧ dialect.right.toList <:+ segment.toList ∧
        1 < segment.utf8ByteSize := by
  simp [isDelimited, Text.startsWith, Text.endsWith, and_assoc]

namespace IsProper

/-- Two delimiters have a byte each, so even with nothing between them they are long enough. -/
theorem isDelimited_enclosed (proper : dialect.IsProper) (segment : String) :
    dialect.isDelimited (dialect.left ++ segment ++ dialect.right) = true := by
  have left : dialect.left.utf8ByteSize ≠ 0 := mt String.utf8ByteSize_eq_zero_iff.mp proper.left_ne
  have right : dialect.right.utf8ByteSize ≠ 0 :=
    mt String.utf8ByteSize_eq_zero_iff.mp proper.right_ne
  refine isDelimited_iff.mpr ⟨?opens, ?closes, ?long⟩
  case opens =>
    rw [String.append_assoc, String.toList_append]
    exact List.prefix_append _ _
  case closes =>
    rw [String.toList_append]
    exact List.suffix_append _ _
  case long =>
    rw [String.utf8ByteSize_append, String.utf8ByteSize_append]
    omega

theorem isDelimited_escapeSegment (proper : dialect.IsProper) (segment : String) :
    dialect.isDelimited (dialect.escapeSegment segment) = true := by
  unfold escapeSegment
  split
  next delimited => exact delimited
  next => exact proper.isDelimited_enclosed segment

theorem escapeSegment_escapeSegment (proper : dialect.IsProper) (segment : String) :
    dialect.escapeSegment (dialect.escapeSegment segment) = dialect.escapeSegment segment :=
  if_pos (proper.isDelimited_escapeSegment segment)

theorem encloses_escapeSegment (proper : dialect.IsProper) (segment : String) :
    dialect.Encloses segment (dialect.escapeSegment segment) := by
  obtain ⟨opens, closes, -⟩ := isDelimited_iff.mp (proper.isDelimited_escapeSegment segment)
  refine ⟨opens, closes, ?_⟩
  unfold escapeSegment
  split
  next => exact .inl rfl
  next => exact .inr rfl

theorem escapeIdentifier_escapeIdentifier (proper : dialect.IsProper) (identifier : String) :
    dialect.escapeIdentifier (dialect.escapeIdentifier identifier) =
      dialect.escapeIdentifier identifier := by
  have again : dialect.escapeSegment ∘ dialect.escapeSegment = dialect.escapeSegment :=
    funext proper.escapeSegment_escapeSegment
  rw [escapeIdentifier_eq, proper.segments_escapeIdentifier, List.map_map, again,
    escapeIdentifier_eq]

end IsProper

/-- An identifier is written segment by segment, each segment between delimiters, and what is
written is not changed by writing it again. This leaves out no segment: neither the empty one,
nor one that is a single delimiter, nor one in which the two delimiters overlap. -/
theorem identifier_escaped_by_segments
    (delimiters : dialect ∈ builtin ∨ dialect.IsProper) (first second : String) :
    dialect.escapeIdentifier (dialect.escapeIdentifier first) = dialect.escapeIdentifier first ∧
    dialect.escapeIdentifier (first ++ "." ++ second) =
      dialect.escapeIdentifier first ++ "." ++ dialect.escapeIdentifier second ∧
    (segments (dialect.escapeIdentifier first)).length = (segments first).length ∧
    List.Forall₂ dialect.Encloses (segments first)
      (segments (dialect.escapeIdentifier first)) := by
  have proper : dialect.IsProper := delimiters.elim isProper_of_mem_builtin id
  have written := proper.segments_escapeIdentifier first
  refine ⟨proper.escapeIdentifier_escapeIdentifier first,
    dialect.escapeIdentifier_append_dot first second, ?count, ?each⟩
  case count => rw [written, List.length_map]
  case each =>
    rw [written, List.forall₂_map_right_iff, List.forall₂_same]
    exact fun segment _ => proper.encloses_escapeSegment segment

/-- A dialect whose delimiters are alike and two characters long. -/
def doubled : Dialect :=
  { sqlite with name := "doubled", left := "''", right := "''" }

/-- Segments of every kind: plain, empty, half a delimiter, two delimiters that overlap, and
one delimiter that is both. -/
theorem doubled_escaped_by_segments :
    (doubled ∈ builtin ∨ doubled.IsProper) ∧
    doubled.escapeIdentifier "a..'.'''" = "''a''.''''.'''''.'''" ∧
    doubled.escapeIdentifier "''a''.''''.'''''.'''" = "''a''.''''.'''''.'''" ∧
    doubled.escapeIdentifier "a..'.'''.''" = "''a''.''''.'''''.'''.''" ∧
    (segments "''a''.''''.'''''.'''").length = 4 ∧
    List.Forall₂ doubled.Encloses ["a", "", "'", "'''"]
      ["''a''", "''''", "'''''", "'''"] := by
  have proper : doubled ∈ builtin ∨ doubled.IsProper :=
    .inr ⟨⟨by decide, by decide⟩, by decide, by decide⟩
  have written : doubled.escapeIdentifier "a..'.'''" = "''a''.''''.'''''.'''" := by decide
  have last : doubled.escapeIdentifier "''" = "''" := by decide
  obtain ⟨again, appended, count, each⟩ := identifier_escaped_by_segments proper "a..'.'''" "''"
  rw [written] at again appended count each
  rw [last] at appended
  exact ⟨proper, written, again, appended, count, each⟩

end Dialect

end SqlMapper
