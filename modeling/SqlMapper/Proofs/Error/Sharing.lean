import Mathlib.Data.List.Basic
import SqlMapper.Error

/-!
# Errors that are held more than once

Holding an error again does not copy it: both holders lead to one cell, which has a fault and
may lead to the cell of its cause. Context is put in front of an error by giving the cell of
the context a cause, unless it has one or something else refers to it; then the text of the
context goes into a cell of its own. Either way the text of the context stands in front, and
what other holders read stays the same. `Error.within` is what the new holder reads.
-/

namespace SqlMapper.Error

/-! ## Texts and kinds -/

/-- The text of the outer error stands in front. -/
theorem message_within (error outer : Error) (shared : Bool) :
    (error.within outer shared).message = outer.message ++ ": " ++ error.message := by
  unfold within
  split
  next => rfl
  next extended =>
    have causeless : outer.causes = [] := by simp_all
    have alone : outer.message = outer.fault.message := by
      rw [message, chain, causeless]
      rfl
    rw [alone]
    rfl

/-- An outer error that is extended gives its kind. -/
theorem kind_within (error outer : Error) (shared : Bool) :
    (error.within outer shared).kind =
      if shared = true ∨ outer.causes ≠ [] then .adhoc else outer.kind := by
  unfold within
  cases shared <;> cases outer.causes <;> rfl

theorem within_of_extended {outer : Error} (causeless : outer.causes = []) (error : Error) :
    error.within outer false = ⟨outer.fault, error.chain⟩ := by
  simp [within, causeless]

theorem within_of_wrapped {outer : Error} {shared : Bool}
    (bound : shared = true ∨ outer.causes ≠ []) (error : Error) :
    error.within outer shared = ⟨.adhoc outer.message, error.chain⟩ := by
  have wrapped : (shared || !outer.causes.isEmpty) = true := by simpa using bound
  rw [within, if_pos wrapped]

/-! ## Cells -/

/-- A fault in memory, with the place of its cause. -/
structure Cell where
  fault : Fault
  cause : Option Nat

/-- From a place along causes to another one. -/
inductive Leads (cells : List Cell) : Nat → Nat → Prop where
  | here {place : Nat} : Leads cells place place
  | cause {place next target : Nat} {cell : Cell} (found : cells[place]? = some cell)
      (caused : cell.cause = some next) (onward : Leads cells next target) :
      Leads cells place target

/-- The error that begins at a place. -/
inductive Reads (cells : List Cell) : Nat → Error → Prop where
  | first {place : Nat} {fault : Fault} (found : cells[place]? = some ⟨fault, none⟩) :
      Reads cells place (.of fault)
  | caused {place next : Nat} {fault : Fault} {error : Error}
      (found : cells[place]? = some ⟨fault, some next⟩) (cause : Reads cells next error) :
      Reads cells place ⟨fault, error.chain⟩

section Cells

variable {cells : List Cell} {place target : Nat} {error other : Error}

/-- Who leads to a place is there, or leads to a cell whose cause is there. -/
theorem Leads.cases_last (leads : Leads cells place target) :
    place = target ∨ ∃ last cell, Leads cells place last ∧ cells[last]? = some cell ∧
      cell.cause = some target := by
  induction leads with
  | here => exact .inl rfl
  | @cause place next target cell found caused onward inductionHypothesis =>
      rcases inductionHypothesis with rfl | ⟨last, lastCell, leads, lastFound, lastCaused⟩
      · exact .inr ⟨place, cell, .here, found, caused⟩
      · exact .inr ⟨last, lastCell, .cause found caused leads, lastFound, lastCaused⟩

namespace Reads

theorem unique (reads : Reads cells place error) (again : Reads cells place other) :
    error = other := by
  induction reads generalizing other with
  | first found =>
      cases again with
      | first foundAgain =>
          cases found.symm.trans foundAgain
          rfl
      | caused foundAgain => cases found.symm.trans foundAgain
  | caused found _ inductionHypothesis =>
      cases again with
      | first foundAgain => cases found.symm.trans foundAgain
      | caused foundAgain cause =>
          cases found.symm.trans foundAgain
          rw [inductionHypothesis cause]

/-- New cells are not read. -/
theorem append (reads : Reads cells place error) (more : List Cell) :
    Reads (cells ++ more) place error := by
  have kept {place : Nat} {cell : Cell} (found : cells[place]? = some cell) :
      (cells ++ more)[place]? = some cell := by
    rw [List.getElem?_append_left (List.getElem?_eq_some_iff.mp found).1, found]
  induction reads with
  | first found => exact .first (kept found)
  | caused found _ inductionHypothesis => exact .caused (kept found) inductionHypothesis

/-- A cell that the place does not lead to is not read. -/
theorem set (reads : Reads cells place error) (apart : ¬ Leads cells place target)
    (cell : Cell) : Reads (cells.set target cell) place error := by
  have kept {place : Nat} {own : Cell} (apart : ¬ Leads cells place target)
      (found : cells[place]? = some own) : (cells.set target cell)[place]? = some own := by
    have distinct : target ≠ place := by
      rintro rfl
      exact apart .here
    rw [List.getElem?_set_ne distinct, found]
  induction reads with
  | first found => exact .first (kept apart found)
  | caused found _ inductionHypothesis =>
      exact .caused (kept apart found)
        (inductionHypothesis fun leads => apart (.cause found rfl leads))

/-- An error without causes is read from a cell without a cause. -/
theorem getElem?_of_causeless (reads : Reads cells place error) (causeless : error.causes = []) :
    cells[place]? = some ⟨error.fault, none⟩ := by
  cases reads with
  | first found => exact found
  | caused => cases causeless

end Reads

end Cells

/-! ## Holders -/

/-- The cells by their places, and the place that each holder leads to. A holder that gave its
error away leads nowhere. -/
structure Memory where
  cells : List Cell
  holders : List (Option Nat)

namespace Memory

/-- The place that a holder leads to. -/
def place? (memory : Memory) (holder : Nat) : Option Nat :=
  memory.holders[holder]?.join

/-- What a holder reads. -/
def Holds (memory : Memory) (holder : Nat) (error : Error) : Prop :=
  ∃ place, memory.place? holder = some place ∧ Reads memory.cells place error

/-- Something else refers to the cell of a holder: another holder, or a cell that is in use
has its cause there. -/
def Shared (memory : Memory) (holder : Nat) : Prop :=
  ∃ place, memory.place? holder = some place ∧
    ((∃ other ≠ holder, memory.place? other = some place) ∨
      ∃ other start last cell, memory.place? other = some start ∧
        Leads memory.cells start last ∧ memory.cells[last]? = some cell ∧
        cell.cause = some place)

/-- The holder gives its error away. -/
def release (memory : Memory) (holder : Nat) : Memory :=
  { memory with holders := memory.holders.set holder none }

/-- One more holder leads to a place. -/
def receive (memory : Memory) (place : Nat) : Memory :=
  { memory with holders := memory.holders ++ [some place] }

/-- What is done with errors. -/
inductive Command where
  | raise (fault : Fault)
  | clone (holder : Nat)
  | drop (holder : Nat)
  /-- Put the error of `outer` in front of that of `holder`. Both give theirs away. -/
  | context (holder outer : Nat)

/-- The holders that give their errors away. -/
def Command.released : Command → List Nat
  | raise _ | clone _ => []
  | drop holder => [holder]
  | context holder outer => [holder, outer]

/-- One command. The context of an error is extended if it can be, and wrapped otherwise. -/
inductive Step (memory : Memory) : Command → Memory → Prop where
  | raise (fault : Fault) :
      Step memory (.raise fault)
        (receive ⟨memory.cells ++ [⟨fault, none⟩], memory.holders⟩ memory.cells.length)
  | clone {holder place : Nat} (held : memory.place? holder = some place) :
      Step memory (.clone holder) (memory.receive place)
  | drop {holder place : Nat} (held : memory.place? holder = some place) :
      Step memory (.drop holder) (memory.release holder)
  | extend {holder outer place outerPlace : Nat} {fault : Fault} (apart : holder ≠ outer)
      (held : memory.place? holder = some place)
      (outerHeld : memory.place? outer = some outerPlace)
      (causeless : memory.cells[outerPlace]? = some ⟨fault, none⟩)
      (alone : ¬ memory.Shared outer) :
      Step memory (.context holder outer)
        (receive (release (release
          ⟨memory.cells.set outerPlace ⟨fault, some place⟩, memory.holders⟩ holder) outer)
          outerPlace)
  | wrap {holder outer place outerPlace : Nat} {context : Error} (apart : holder ≠ outer)
      (held : memory.place? holder = some place)
      (outerHeld : memory.place? outer = some outerPlace)
      (reads : Reads memory.cells outerPlace context)
      (bound : memory.Shared outer ∨ context.causes ≠ []) :
      Step memory (.context holder outer)
        (receive (release (release
          ⟨memory.cells ++ [⟨.adhoc context.message, some place⟩], memory.holders⟩ holder) outer)
          memory.cells.length)

/-- Commands one after another. -/
inductive Run : Memory → List Command → Memory → Prop where
  | nil {memory : Memory} : Run memory [] memory
  | cons {memory next final : Memory} {command : Command} {rest : List Command}
      (step : memory.Step command next) (later : Run next rest final) :
      Run memory (command :: rest) final

/-- No cells and no holders. -/
def empty : Memory :=
  ⟨[], []⟩

variable {memory after final : Memory} {command : Command} {commands : List Command}
variable {holder outer other place : Nat} {error context kept : Error}

@[simp] theorem cells_release : (memory.release holder).cells = memory.cells := rfl

@[simp] theorem cells_receive : (memory.receive place).cells = memory.cells := rfl

@[simp] theorem length_holders_release :
    (memory.release holder).holders.length = memory.holders.length := List.length_set

theorem place?_release_eq_some :
    (memory.release holder).place? other = some place ↔
      other ≠ holder ∧ memory.place? other = some place := by
  unfold place? release
  rw [List.getElem?_set]
  split
  next same =>
    have nowhere : (if holder < memory.holders.length then some none else none).join ≠
        some place := by
      split <;> nofun
    exact iff_of_false nowhere fun held => held.1 same.symm
  next apart => simp [Ne.symm apart]

theorem place?_receive_eq_some {target : Nat} :
    (memory.receive target).place? other = some place ↔
      other = memory.holders.length ∧ target = place ∨ memory.place? other = some place := by
  unfold place? receive
  rcases Nat.lt_trichotomy other memory.holders.length with inside | rfl | outside
  · simp [List.getElem?_append_left inside, Nat.ne_of_lt inside]
  · simp
  · have nowhere : memory.holders[other]? = none :=
      List.getElem?_eq_none (Nat.le_of_lt outside)
    have stillNowhere : (memory.holders ++ [some target])[other]? = none :=
      List.getElem?_eq_none (by rw [List.length_append]; exact outside)
    rw [nowhere, stillNowhere]
    simp [Nat.ne_of_gt outside]

/-- Who receives after two gave away comes behind all holders. -/
theorem place?_receive_released :
    (((memory.release holder).release outer).receive place).place? memory.holders.length =
      some place := by
  rw [place?_receive_eq_some]
  simp

/-- Others keep their places when two give away and one receives. -/
theorem place?_exchange {start : Nat} (notHolder : other ≠ holder) (notOuter : other ≠ outer)
    (held : memory.place? other = some start) :
    (((memory.release holder).release outer).receive place).place? other = some start := by
  refine place?_receive_eq_some.mpr (.inr ?_)
  exact place?_release_eq_some.mpr ⟨notOuter, place?_release_eq_some.mpr ⟨notHolder, held⟩⟩

theorem Holds.unique (holds : memory.Holds holder error) (again : memory.Holds holder kept) :
    error = kept := by
  obtain ⟨place, held, reads⟩ := holds
  obtain ⟨_, heldAgain, readsAgain⟩ := again
  cases held.symm.trans heldAgain
  exact reads.unique readsAgain

/-- No other holder leads to a cell that is not shared. -/
theorem not_leads_of_not_shared {start : Nat} (alone : ¬ memory.Shared outer)
    (outerHeld : memory.place? outer = some place) (apart : other ≠ outer)
    (held : memory.place? other = some start) : ¬ Leads memory.cells start place := by
  intro leads
  apply alone
  rcases leads.cases_last with rfl | ⟨last, cell, leads, found, caused⟩
  · exact ⟨start, outerHeld, .inl ⟨other, apart, held⟩⟩
  · exact ⟨place, outerHeld, .inr ⟨other, start, last, cell, held, leads, found, caused⟩⟩

/-- A holder that does not give its error away reads the same as before. -/
theorem Step.keeps (step : memory.Step command after) (apart : other ∉ command.released)
    (holds : memory.Holds other kept) : after.Holds other kept := by
  obtain ⟨start, held, reads⟩ := holds
  cases step with
  | raise fault => exact ⟨start, place?_receive_eq_some.mpr (.inr held), reads.append _⟩
  | clone => exact ⟨start, place?_receive_eq_some.mpr (.inr held), reads⟩
  | @drop dropped =>
      have distinct : other ≠ dropped := by simpa [Command.released] using apart
      exact ⟨start, place?_release_eq_some.mpr ⟨distinct, held⟩, reads⟩
  | @extend holder outer place outerPlace fault _ _ outerHeld _ alone =>
      obtain ⟨notHolder, notOuter⟩ : other ≠ holder ∧ other ≠ outer := by
        simpa [Command.released] using apart
      have unread := not_leads_of_not_shared alone outerHeld notOuter held
      exact ⟨start, place?_exchange notHolder notOuter held, reads.set unread _⟩
  | @wrap holder outer =>
      obtain ⟨notHolder, notOuter⟩ : other ≠ holder ∧ other ≠ outer := by
        simpa [Command.released] using apart
      exact ⟨start, place?_exchange notHolder notOuter held, reads.append _⟩

/-- What no command gives away is read the same after all of them. -/
theorem Run.keeps (run : memory.Run commands final)
    (apart : ∀ command ∈ commands, other ∉ command.released) (holds : memory.Holds other kept) :
    final.Holds other kept := by
  induction run with
  | nil => exact holds
  | cons step _ inductionHypothesis =>
      obtain ⟨first, later⟩ := List.forall_mem_cons.mp apart
      exact inductionHypothesis later (step.keeps first holds)

/-- The new holder reads the error in its context. -/
theorem Step.holds_within (step : memory.Step (.context holder outer) after)
    (holds : memory.Holds holder error) (outerHolds : memory.Holds outer context) :
    ∃ shared : Bool, (shared = true ↔ memory.Shared outer) ∧
      after.Holds memory.holders.length (error.within context shared) := by
  obtain ⟨start, held, reads⟩ := holds
  obtain ⟨outerStart, outerHeld, outerReads⟩ := outerHolds
  cases step with
  | @extend _ _ place outerPlace fault apart heldAgain outerHeldAgain causeless alone =>
      cases held.symm.trans heldAgain
      cases outerHeld.symm.trans outerHeldAgain
      cases outerReads.unique (.first causeless)
      have unread := not_leads_of_not_shared alone outerHeld apart held
      have inside := (List.getElem?_eq_some_iff.mp causeless).1
      refine ⟨false, iff_of_false nofun alone, outerStart, ?_, ?_⟩
      · exact place?_receive_released
      · rw [within_of_extended rfl]
        exact .caused (List.getElem?_set_self inside) (reads.set unread _)
  | @wrap _ _ place outerPlace read apart heldAgain outerHeldAgain readsAgain bound =>
      cases held.symm.trans heldAgain
      cases outerHeld.symm.trans outerHeldAgain
      cases outerReads.unique readsAgain
      obtain ⟨shared, isShared⟩ : ∃ shared : Bool, shared = true ↔ memory.Shared outer := by
        classical exact ⟨decide (memory.Shared outer), decide_eq_true_iff⟩
      refine ⟨shared, isShared, memory.cells.length, ?_, ?_⟩
      · exact place?_receive_released
      · rw [within_of_wrapped (bound.imp_left isShared.mpr)]
        exact .caused (List.getElem?_concat_length ..) (reads.append _)

/-- Two holders can always put the error of the one in the context of the other. -/
theorem Holds.exists_step (holds : memory.Holds holder error)
    (outerHolds : memory.Holds outer context) (apart : holder ≠ outer) :
    ∃ after, memory.Step (.context holder outer) after := by
  obtain ⟨place, held, -⟩ := holds
  obtain ⟨outerPlace, outerHeld, reads⟩ := outerHolds
  by_cases bound : memory.Shared outer ∨ context.causes ≠ []
  · exact ⟨_, .wrap apart held outerHeld reads bound⟩
  · obtain ⟨alone, causeless⟩ := not_or.mp bound
    have found := reads.getElem?_of_causeless (not_not.mp causeless)
    exact ⟨_, .extend apart held outerHeld found alone⟩

/-- Every holder that did not give its error away has one to read. -/
def Legible (memory : Memory) : Prop :=
  ∀ holder place, memory.place? holder = some place → ∃ error, memory.Holds holder error

theorem empty_legible : empty.Legible := by
  intro holder place held
  cases held

/-- Holders that give something away had something. -/
theorem Step.exists_place (step : memory.Step command after)
    (given : other ∈ command.released) : ∃ place, memory.place? other = some place := by
  cases step with
  | raise | clone => cases given
  | drop held =>
      obtain rfl := List.mem_singleton.mp given
      exact ⟨_, held⟩
  | extend _ held outerHeld | wrap _ held outerHeld =>
      rcases List.mem_pair.mp given with rfl | rfl
      · exact ⟨_, held⟩
      · exact ⟨_, outerHeld⟩

/-- After a command, a holder is new or kept its place. -/
theorem Step.cases_held {start : Nat} (step : memory.Step command after)
    (held : after.place? other = some start) :
    other = memory.holders.length ∨
      other ∉ command.released ∧ memory.place? other = some start := by
  cases step with
  | raise | clone =>
      rcases place?_receive_eq_some.mp held with ⟨new, -⟩ | before
      · exact .inl new
      · exact .inr ⟨List.not_mem_nil, before⟩
  | drop =>
      obtain ⟨apart, before⟩ := place?_release_eq_some.mp held
      exact .inr ⟨mt List.mem_singleton.mp apart, before⟩
  | extend | wrap =>
      rcases place?_receive_eq_some.mp held with ⟨new, -⟩ | before
      · exact .inl (by simpa using new)
      · obtain ⟨notOuter, before⟩ := place?_release_eq_some.mp before
        obtain ⟨notHolder, before⟩ := place?_release_eq_some.mp before
        exact .inr ⟨by simp [Command.released, notHolder, notOuter], before⟩

theorem Step.legible (step : memory.Step command after) (legible : memory.Legible) :
    after.Legible := by
  intro other start held
  rcases step.cases_held held with rfl | ⟨kept, before⟩
  · cases command with
    | raise fault =>
        cases step
        exact ⟨_, _, place?_receive_eq_some.mpr (.inl ⟨rfl, rfl⟩),
          .first (List.getElem?_concat_length ..)⟩
    | clone holder =>
        cases step with
        | @clone _ place original =>
            obtain ⟨error, _, again, reads⟩ := legible holder place original
            cases original.symm.trans again
            exact ⟨error, place, place?_receive_eq_some.mpr (.inl ⟨rfl, rfl⟩), reads⟩
    | drop holder =>
        cases step
        obtain ⟨-, before⟩ := place?_release_eq_some.mp held
        simp [place?] at before
    | context holder outer =>
        obtain ⟨place, holderHeld⟩ := step.exists_place List.mem_cons_self
        obtain ⟨outerPlace, outerHeld⟩ := step.exists_place (List.mem_pair.mpr (.inr rfl))
        obtain ⟨error, holds⟩ := legible holder place holderHeld
        obtain ⟨context, outerHolds⟩ := legible outer outerPlace outerHeld
        obtain ⟨_, -, result⟩ := step.holds_within holds outerHolds
        exact ⟨_, result⟩
  · obtain ⟨error, holds⟩ := legible other start before
    exact ⟨error, step.keeps kept holds⟩

/-- Whatever was done, holders have errors to read. -/
theorem Run.legible (run : memory.Run commands final) (legible : memory.Legible) :
    final.Legible := by
  induction run with
  | nil => exact legible
  | cons step _ inductionHypothesis => exact inductionHypothesis (step.legible legible)

end Memory

open Memory in
/-- However errors were raised, held again, dropped and put in context before, a holder has
one error. An error can be put in the context of another one, and the text of the context
then stands in front of its own. The kind is that of the context if nothing else refers to
the context and it has no cause; otherwise it is that of a message. Other holders, those of
the context among them, have the same errors as before, until they give them away. In texts
it makes no difference which of two contexts is put in front of the other first. -/
theorem context_keeps_messages :
    (∀ commands memory, empty.Run commands memory →
      (∀ holder place, memory.place? holder = some place →
        ∃ error, memory.Holds holder error ∧ ∀ other, memory.Holds holder other → other = error) ∧
      ∀ holder outer error context, holder ≠ outer →
        memory.Holds holder error → memory.Holds outer context →
        (∃ after, memory.Step (.context holder outer) after) ∧
        ∀ after, memory.Step (.context holder outer) after →
          (∃ shared : Bool, (shared = true ↔ memory.Shared outer) ∧
            let result := error.within context shared
            after.Holds memory.holders.length result ∧
            result.message = context.message ++ ": " ++ error.message ∧
            result.kind =
              if shared = true ∨ context.causes ≠ [] then .adhoc else context.kind) ∧
          ∀ rest final other kept, after.Run rest final → other ≠ holder → other ≠ outer →
            (∀ command ∈ rest, other ∉ command.released) → memory.Holds other kept →
            final.Holds other kept) ∧
    ∀ (error middle outer : Error) (first second third fourth : Bool),
      ((error.within middle first).within outer second).message =
        (error.within (middle.within outer third) fourth).message := by
  refine ⟨fun commands memory run => ⟨?one, ?put⟩, ?associative⟩
  case one =>
    intro holder place held
    obtain ⟨error, holds⟩ := run.legible empty_legible holder place held
    exact ⟨error, holds, fun other again => again.unique holds⟩
  case put =>
    intro holder outer error context apart holds outerHolds
    refine ⟨holds.exists_step outerHolds apart, fun after step => ⟨?_, ?_⟩⟩
    · obtain ⟨shared, isShared, result⟩ := step.holds_within holds outerHolds
      exact ⟨shared, isShared, result, message_within error context shared,
        kind_within error context shared⟩
    · intro rest final other kept later notHolder notOuter apart before
      have first : other ∉ (Command.context holder outer).released := by
        simp [Command.released, notHolder, notOuter]
      exact later.keeps apart (step.keeps first before)
  case associative =>
    intro error middle outer first second third fourth
    simp only [message_within, String.append_assoc]

namespace Memory

/-- Two errors, the second of them held twice. -/
def heldTwice : List Command :=
  [.raise (.invalidSchema "no primary key"), .raise (.unsupportedExpression "p.Age"), .clone 1]

/-- The context is held once more, so its text is copied and the other holder keeps it. -/
theorem heldTwice_keeps_messages :
    ∃ memory after, empty.Run heldTwice memory ∧ memory.Step (.context 0 1) after ∧
      (∃ result, after.Holds 3 result ∧ result.kind = .adhoc ∧ result.message =
        "expression not supported: p.Age: invalid schema: no primary key") ∧
      after.Holds 2 (.of (.unsupportedExpression "p.Age")) := by
  let memory : Memory := ⟨[⟨.invalidSchema "no primary key", none⟩,
    ⟨.unsupportedExpression "p.Age", none⟩], [some 0, some 1, some 1]⟩
  have run : empty.Run heldTwice memory :=
    .cons (.raise _) (.cons (.raise _) (.cons (.clone rfl) .nil))
  have error : memory.Holds 0 (.of (.invalidSchema "no primary key")) := ⟨0, rfl, .first rfl⟩
  have context (holder : Nat) (held : memory.place? holder = some 1) :
      memory.Holds holder (.of (.unsupportedExpression "p.Age")) := ⟨1, held, .first rfl⟩
  have twice : memory.Shared 1 := ⟨1, rfl, .inl ⟨2, by decide, rfl⟩⟩
  obtain ⟨⟨after, step⟩, steps⟩ :=
    (context_keeps_messages.1 heldTwice memory run).2 0 1 _ _ (by decide) error (context 1 rfl)
  obtain ⟨⟨shared, isShared, result, message, kind⟩, others⟩ := steps after step
  refine ⟨memory, after, run, step, ⟨_, result, ?_, ?_⟩, ?_⟩
  · rw [kind, if_pos (.inl (isShared.mpr twice))]
  · rw [message]
    decide
  · exact others [] after 2 _ .nil (by decide) (by decide) (List.forall_mem_nil _) (context 2 rfl)

end Memory

end SqlMapper.Error
