import Mathlib.Data.List.Nodup
import Mathlib.Data.List.Perm.Subperm
import Mathlib.Tactic.Push
import SqlMapper.Proofs.Batch.Suffix
import SqlMapper.Proofs.Numbering

/-!
# Fresh names

Whatever names the parameters hold, one more number is tried than there are names, so a
value without a name of its own gets a generated name that nothing is bound to.
`Params.Adds` says what binding such values does to the parameters: the entries that were
there stay as they are, and entries under distinct, new, generated names follow them.
-/

namespace SqlMapper.Params

theorem contains_eq_false_iff {params : Params} {name : String} :
    params.contains name = false ↔ name ∉ params.names := by
  rw [← Bool.not_eq_true, contains, NameTable.contains_iff_mem, names]

/-- The numbers that are tried are not all taken. -/
theorem exists_free_number (params : Params) (first : Nat) :
    ∃ number ∈ List.range' first (params.size + 1),
      params.contains (generatedName number) = false := by
  by_contra taken
  push Not at taken
  have known : generatedNames first (params.size + 1) ⊆ params.names := by
    intro name member
    obtain ⟨number, tried, rfl⟩ := List.mem_map.mp member
    have isBound : params.contains (generatedName number) = true := by
      simpa using taken number tried
    exact NameTable.contains_iff_mem.mp isBound
  have few := ((nodup_generatedNames first (params.size + 1)).subperm known).length_le
  simp only [generatedNames, names, NameTable.names, size, List.length_map,
    List.length_range'] at few
  omega

/-- Where the search for a free name that begins with the number `first` ends: at the first
number whose name is not taken. -/
structure FirstFree (params : Params) (first found : Nat) : Prop where
  reached : first ≤ found
  taken : ∀ number, first ≤ number → number < found →
    params.contains (generatedName number) = true
  free : params.contains (generatedName found) = false

/-- The search ends, with as many numbers tried as there are names and one more at most. -/
theorem freeNumber_firstFree (params : Params) :
    params.FirstFree params.firstNumber params.freeNumber ∧
      params.freeNumber ≤ params.firstNumber + params.size := by
  obtain ⟨number, tried, free⟩ := params.exists_free_number params.firstNumber
  have isFound : ((List.range' params.firstNumber (params.size + 1)).find?
      fun number => !params.contains (generatedName number)).isSome = true :=
    List.find?_isSome.mpr ⟨number, tried, by simp [free]⟩
  obtain ⟨found, search⟩ := Option.isSome_iff_exists.mp isFound
  rw [freeNumber, search, Option.getD_some]
  obtain ⟨isFree, inside, before⟩ := List.find?_range'_eq_some.mp search
  obtain ⟨reached, below⟩ := List.mem_range'_1.mp inside
  refine ⟨⟨reached, fun number lower upper => ?_, by simpa using isFree⟩, by omega⟩
  simpa using before number lower upper

/-- Binding values without names of their own, in terms of the entries: those that were
there stay, and new ones follow them. -/
structure Adds (before after : Params) (added : List (String × Value)) : Prop where
  entries : after.entries = before.entries ++ added
  generated : ∀ name ∈ NameTable.names added, isGenerated name = true
  unbound : ∀ name ∈ NameTable.names added, before.contains name = false
  distinct : (NameTable.names added).Nodup

namespace Adds

variable {before middle after params : Params} {added further : List (String × Value)}

theorem names_eq (adds : before.Adds after added) :
    after.names = before.names ++ NameTable.names added := by
  simp [Params.names, NameTable.names, adds.entries]

theorem refl (params : Params) : params.Adds params [] where
  entries := (List.append_nil _).symm
  generated := by simp [NameTable.names]
  unbound := by simp [NameTable.names]
  distinct := List.nodup_nil

theorem trans (first : before.Adds middle added) (second : middle.Adds after further) :
    before.Adds after (added ++ further) := by
  have both : NameTable.names (added ++ further) =
      NameTable.names added ++ NameTable.names further := List.map_append
  have new : ∀ name ∈ NameTable.names further,
      name ∉ before.names ∧ name ∉ NameTable.names added := by
    intro name member
    have absent := contains_eq_false_iff.mp (second.unbound name member)
    rwa [first.names_eq, List.mem_append, not_or] at absent
  refine ⟨?_, ?_, ?_, ?_⟩
  · rw [second.entries, first.entries, List.append_assoc]
  · rw [both]
    exact List.forall_mem_append.mpr ⟨first.generated, second.generated⟩
  · rw [both]
    refine List.forall_mem_append.mpr ⟨first.unbound, fun name member => ?_⟩
    exact contains_eq_false_iff.mpr (new name member).1
  · rw [both]
    refine first.distinct.append second.distinct ?_
    intro name member later
    exact (new name later).2 member

theorem drop_entries (adds : before.Adds after added) :
    after.entries.drop before.size = added := by
  rw [adds.entries, size, List.drop_left]

end Adds

theorem push_adds (params : Params) (value : Value) :
    params.Adds (params.push value).2 [((params.push value).1, value)] where
  entries := by
    have free := params.freeNumber_firstFree.1.free
    have absent : NameTable.get? (generatedName params.freeNumber) params.entries = none := by
      simpa [contains, NameTable.contains] using free
    simp [push, NameTable.insert_of_get?_eq_none value absent]
  generated := by simp [NameTable.names, push]
  unbound := by simpa [NameTable.names, push] using params.freeNumber_firstFree.1.free
  distinct := List.nodup_singleton _

/-- The names come in the order of the values. -/
theorem pushAll_adds (params : Params) (values : List Value) :
    (params.pushAll values).1.length = values.length ∧
      params.Adds (params.pushAll values).2 ((params.pushAll values).1.zip values) := by
  induction values generalizing params with
  | nil => exact ⟨rfl, .refl params⟩
  | cons value rest inductionHypothesis =>
      obtain ⟨length, adds⟩ := inductionHypothesis (params.push value).2
      exact ⟨congrArg (· + 1) length, (params.push_adds value).trans adds⟩

/-- How parameters come into being. -/
inductive Start where
  | empty
  | startingAt (offset : Nat)
  | ofEntries (entries : List (String × Value))

namespace Start

def params : Start → Params
  | empty => .empty
  | startingAt offset => .startingAt offset
  | ofEntries entries => .ofEntries entries

/-- The least number that may be given out. -/
def offset : Start → Nat
  | startingAt offset => offset
  | empty | ofEntries _ => 0

end Start

/-- Parameters and the names that were given out on the way to them. -/
structure Tracked where
  params : Params
  given : List String

namespace Tracked

def ofStart (start : Start) : Tracked :=
  ⟨start.params, []⟩

def push (tracked : Tracked) (value : Value) : Tracked :=
  ⟨(tracked.params.push value).2, tracked.given ++ [(tracked.params.push value).1]⟩

def insert (tracked : Tracked) (name : String) (value : Value) : Tracked :=
  ⟨tracked.params.insert name value, tracked.given⟩

/-- The names are distinct, and the numbers that were given out lie between that of the
start and the offset. -/
structure Follows (tracked : Tracked) (start : Start) : Prop where
  offset : start.offset ≤ tracked.params.offset
  given : ∀ name ∈ tracked.given, ∃ number < tracked.params.offset, name = generatedName number
  unique : tracked.params.names.Nodup

theorem ofStart_follows (start : Start) : (ofStart start).Follows start := by
  cases start with
  | ofEntries entries =>
      refine ⟨Nat.le_refl 0, List.forall_mem_nil _, ?_⟩
      have unique (table : List (String × Value)) (distinct : (NameTable.names table).Nodup) :
          (NameTable.names (entries.foldl (fun table entry =>
            NameTable.insert entry.1 entry.2 table) table)).Nodup := by
        induction entries generalizing table with
        | nil => exact distinct
        | cons entry rest inductionHypothesis =>
            exact inductionHypothesis _ (NameTable.nodup_names_insert entry.2 distinct)
      exact unique [] List.nodup_nil
  | _ => exact ⟨Nat.le_refl _, List.forall_mem_nil _, List.nodup_nil⟩

namespace Follows

variable {tracked : Tracked} {start : Start}

/-- The next number lies behind all that were given out. -/
theorem offset_le (_ : tracked.Follows start) :
    tracked.params.offset ≤ tracked.params.freeNumber :=
  (Nat.le_max_left _ _).trans tracked.params.freeNumber_firstFree.1.reached

theorem push (follows : tracked.Follows start) (value : Value) :
    (tracked.push value).Follows start where
  offset := follows.offset.trans (follows.offset_le.trans (Nat.le_succ _))
  given := by
    refine List.forall_mem_append.mpr ⟨fun name member => ?_, ?_⟩
    · obtain ⟨number, below, rfl⟩ := follows.given name member
      exact ⟨number, Nat.lt_succ_of_le (below.le.trans follows.offset_le), rfl⟩
    · exact List.forall_mem_singleton.mpr ⟨_, Nat.lt_succ_self _, rfl⟩
  unique := NameTable.nodup_names_insert value follows.unique

theorem insert (follows : tracked.Follows start) (name : String) (value : Value) :
    (tracked.insert name value).Follows start :=
  ⟨follows.offset, follows.given, NameTable.nodup_names_insert value follows.unique⟩

end Follows

end Tracked

/-- A step of working with parameters and copies of them. The copies are numbered in the
order in which they were made, the original being the first. -/
inductive Command where
  | push (copy : Nat) (value : Value)
  | insert (copy : Nat) (name : String) (value : Value)
  | clone (copy : Nat)

namespace Command

def run (copies : List Tracked) : Command → List Tracked
  | push copy value => copies.modify copy (·.push value)
  | insert copy name value => copies.modify copy (·.insert name value)
  | clone copy => copies ++ copies[copy]?.toList

/-- What steps keep of every copy. -/
theorem forall_mem_run {holds : Tracked → Prop} {copies : List Tracked}
    (pushes : ∀ tracked value, holds tracked → holds (tracked.push value))
    (inserts : ∀ tracked name value, holds tracked → holds (tracked.insert name value))
    (held : ∀ tracked ∈ copies, holds tracked) (command : Command) :
    ∀ tracked ∈ command.run copies, holds tracked := by
  have modified (copy : Nat) (change : Tracked → Tracked)
      (keeps : ∀ tracked, holds tracked → holds (change tracked)) :
      ∀ tracked ∈ copies.modify copy change, holds tracked := by
    intro tracked member
    obtain ⟨index, found⟩ := List.mem_iff_getElem?.mp member
    rw [List.getElem?_modify] at found
    obtain ⟨before, beforeFound, rfl⟩ := Option.map_eq_some_iff.mp found
    have beforeHolds := held before (List.mem_of_getElem? beforeFound)
    split
    next => exact keeps before beforeHolds
    next => exact beforeHolds
  cases command with
  | push copy value => exact modified copy _ fun tracked => pushes tracked value
  | insert copy name value => exact modified copy _ fun tracked => inserts tracked name value
  | clone copy =>
      refine List.forall_mem_append.mpr ⟨held, fun tracked member => ?_⟩
      exact held tracked (List.mem_of_getElem? (Option.mem_toList.mp member))

theorem follows_of_mem_foldl {start : Start} (commands : List Command) {copies : List Tracked}
    (follow : ∀ tracked ∈ copies, tracked.Follows start) :
    ∀ tracked ∈ commands.foldl run copies, tracked.Follows start := by
  induction commands generalizing copies with
  | nil => exact follow
  | cons command rest inductionHypothesis =>
      exact inductionHypothesis (command.forall_mem_run
        (fun _ value follows => follows.push value)
        (fun _ name value follows => follows.insert name value) follow)

end Command

/-- Whatever was bound to whatever names before, in the original or in copies of it, a push
ends after trying at most one number more than there are names. It gives out a name that was
not bound, whose number is at least that of the start, at least the number of entries and
greater than all numbers given out on the way to it, and adds one entry at the end. An
insertion adds an entry at the end or gives the one of its name another value. -/
theorem push_fresh_insert_local (start : Start) (commands : List Command) :
    ∀ tracked ∈ commands.foldl Command.run [.ofStart start],
      let params := tracked.params
      (∀ value, ∃ number,
        (params.push value).1 = generatedName number ∧
        params.FirstFree params.firstNumber number ∧
        number + 1 - params.firstNumber ≤ params.size + 1 ∧
        start.offset ≤ number ∧ params.size ≤ number ∧
        (∀ name ∈ tracked.given, ∃ earlier < number, name = generatedName earlier) ∧
        (params.push value).2.entries = params.entries ++ [(generatedName number, value)]) ∧
      ∀ name value,
        (params.contains name = false ∧
          (params.insert name value).entries = params.entries ++ [(name, value)]) ∨
        ∃ before old after, params.entries = before ++ (name, old) :: after ∧
          (params.insert name value).entries = before ++ (name, value) :: after ∧
          name ∉ NameTable.names (before ++ after) := by
  intro tracked reached
  have follows := Command.follows_of_mem_foldl commands
    (List.forall_mem_singleton.mpr (Tracked.ofStart_follows start)) tracked reached
  obtain ⟨search, tried⟩ := tracked.params.freeNumber_firstFree
  refine ⟨fun value => ⟨tracked.params.freeNumber, rfl, search, by omega,
    follows.offset.trans follows.offset_le, (Nat.le_max_right _ _).trans search.reached,
    fun name member => ?_, (tracked.params.push_adds value).entries⟩, fun name value => ?_⟩
  · obtain ⟨earlier, below, rfl⟩ := follows.given name member
    exact ⟨earlier, below.trans_le follows.offset_le, rfl⟩
  · cases known : tracked.params.contains name with
    | false =>
        have fresh : NameTable.get? name tracked.params.entries = none := by
          simpa [contains, NameTable.contains] using known
        exact .inl ⟨rfl, NameTable.insert_of_get?_eq_none value fresh⟩
    | true =>
        exact .inr (NameTable.exists_insert_of_mem value follows.unique
          (NameTable.contains_iff_mem.mp known))

/-- A copy binds names of its own after a first push. -/
def copying : List Command :=
  [.push 0 .null, .clone 0, .insert 1 "p3" .null, .insert 1 "p5" .null, .insert 1 "p1" (.bool true)]

theorem copying_push_fresh :
    ∃ tracked ∈ copying.foldl Command.run [.ofStart (.ofEntries [("p1", .null), ("Id", .null)])],
      tracked.params.names = ["p1", "Id", "p2", "p3", "p5"] ∧ tracked.given = ["p2"] ∧
        ∃ number, 2 < number ∧ 5 ≤ number ∧ generatedName number = "p6" ∧
          (tracked.params.push .null).2.entries =
            tracked.params.entries ++ [(generatedName number, .null)] := by
  let tracked : Tracked := ⟨⟨[("p1", .bool true), ("Id", .null), ("p2", .null), ("p3", .null),
    ("p5", .null)], 3⟩, ["p2"]⟩
  have reached : tracked ∈
      copying.foldl Command.run [.ofStart (.ofEntries [("p1", .null), ("Id", .null)])] :=
    List.mem_cons_of_mem _ List.mem_cons_self
  obtain ⟨number, name, -, -, -, entries, ordered, added⟩ :=
    (push_fresh_insert_local _ copying tracked reached).1 .null
  obtain ⟨earlier, less, second⟩ := ordered "p2" List.mem_cons_self
  obtain rfl : 2 = earlier := generatedName_inj.mp second
  have written : (tracked.params.push .null).1 = "p6" := by decide
  exact ⟨tracked, reached, rfl, rfl, number, less, entries, name.symm.trans written, added⟩

end SqlMapper.Params
