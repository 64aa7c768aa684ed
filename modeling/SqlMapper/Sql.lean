import SqlMapper.Literal

/-!
# SQL text in pieces

A statement is kept as a sequence of pieces until a dialect writes it out:
wording that no dialect changes, identifiers to be delimited, literals, numbers,
placeholders, and text that the caller supplied. Placeholders refer to their
parameter by name in a finished statement and by position in a template.
-/

namespace SqlMapper

/-- One piece of a statement whose placeholders refer to parameters by `ρ`. -/
inductive Piece (ρ : Type) where
  /-- Fixed wording. -/
  | text (words : String)
  /-- Text that the caller supplied. -/
  | raw (words : String)
  | number (count : Nat)
  /-- A table, column or alias, not yet delimited. -/
  | identifier (name : String)
  | literal (constant : Literal)
  | placeholder (parameter : ρ)

/-- A piece with its placeholder renamed. -/
def Piece.map {ρ σ : Type} (rename : ρ → σ) : Piece ρ → Piece σ
  | text words => .text words
  | raw words => .raw words
  | number count => .number count
  | identifier name => .identifier name
  | literal constant => .literal constant
  | placeholder parameter => .placeholder (rename parameter)

/-- A fragment whose placeholders are numbered slots. -/
abbrev Template := List (Piece Nat)

/-- A fragment whose placeholders name their parameters. -/
abbrev Sql := List (Piece String)

/-- Fragments one after another with fixed wording between neighbours. -/
def joinPieces {ρ : Type} (separator : String) : List (List (Piece ρ)) → List (Piece ρ)
  | [] => []
  | [pieces] => pieces
  | pieces :: rest => pieces ++ .text separator :: joinPieces separator rest

theorem joinPieces_cons_cons {ρ : Type} (separator : String) (pieces next : List (Piece ρ))
    (rest : List (List (Piece ρ))) :
    joinPieces separator (pieces :: next :: rest) =
      pieces ++ .text separator :: joinPieces separator (next :: rest) := rfl

/-- The parameter that a piece refers to, if it is a placeholder. -/
def Piece.parameter? {ρ : Type} : Piece ρ → Option ρ
  | placeholder parameter => some parameter
  | _ => none

/-- The references of the placeholders from left to right. -/
def placeholders {ρ : Type} (pieces : List (Piece ρ)) : List ρ :=
  pieces.filterMap Piece.parameter?

section Placeholders

variable {ρ σ : Type}

@[simp] theorem placeholders_nil : placeholders ([] : List (Piece ρ)) = [] := rfl

@[simp] theorem placeholders_text (words : String) (rest : List (Piece ρ)) :
    placeholders (.text words :: rest) = placeholders rest := rfl

@[simp] theorem placeholders_raw (words : String) (rest : List (Piece ρ)) :
    placeholders (.raw words :: rest) = placeholders rest := rfl

@[simp] theorem placeholders_number (count : Nat) (rest : List (Piece ρ)) :
    placeholders (.number count :: rest) = placeholders rest := rfl

@[simp] theorem placeholders_identifier (name : String) (rest : List (Piece ρ)) :
    placeholders (.identifier name :: rest) = placeholders rest := rfl

@[simp] theorem placeholders_literal (constant : Literal) (rest : List (Piece ρ)) :
    placeholders (.literal constant :: rest) = placeholders rest := rfl

@[simp] theorem placeholders_placeholder (parameter : ρ) (rest : List (Piece ρ)) :
    placeholders (.placeholder parameter :: rest) = parameter :: placeholders rest := rfl

@[simp] theorem placeholders_append (left right : List (Piece ρ)) :
    placeholders (left ++ right) = placeholders left ++ placeholders right := by
  simp [placeholders]

@[simp] theorem placeholders_map (rename : ρ → σ) (pieces : List (Piece ρ)) :
    placeholders (pieces.map (Piece.map rename)) = (placeholders pieces).map rename := by
  induction pieces with
  | nil => rfl
  | cons piece rest inductionHypothesis =>
      cases piece <;> simpa [Piece.map] using inductionHypothesis

/-- Renamings that agree on the placeholders agree on the pieces. -/
theorem map_congr_placeholders {rename other : ρ → σ} {pieces : List (Piece ρ)}
    (same : ∀ parameter ∈ placeholders pieces, rename parameter = other parameter) :
    pieces.map (Piece.map rename) = pieces.map (Piece.map other) := by
  apply List.map_congr_left
  intro piece member
  cases piece with
  | placeholder parameter =>
      exact congrArg Piece.placeholder
        (same parameter (List.mem_filterMap.mpr ⟨_, member, rfl⟩))
  | _ => rfl

theorem placeholders_flatten (fragments : List (List (Piece ρ))) :
    placeholders fragments.flatten = fragments.flatMap placeholders := by
  induction fragments with
  | nil => rfl
  | cons fragment rest inductionHypothesis => simp [inductionHypothesis]

theorem placeholders_joinPieces (separator : String) (fragments : List (List (Piece ρ))) :
    placeholders (joinPieces separator fragments) = fragments.flatMap placeholders := by
  induction fragments with
  | nil => rfl
  | cons fragment rest inductionHypothesis =>
      cases rest with
      | nil => simp [joinPieces]
      | cons next rest => simpa [joinPieces] using inductionHypothesis

end Placeholders

end SqlMapper
