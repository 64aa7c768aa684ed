import Mathlib.Algebra.GroupWithZero.Nat
import SqlMapper.Proofs.Batch.Merge
import SqlMapper.Proofs.Sameness

/-!
# Shared names in a batch

Two parameters with one name in the batch are merged when they have the same value and
refused otherwise. What is merged stays at its first place, so the parameters of a batch
are the entries of its statements without those whose name occurred before.
-/

namespace SqlMapper

namespace Batch

open Params

/-- Some statement binds `value` to a name that is `final` in the batch. -/
def Binds (statements : List Query) (final : String) (value : Value) : Prop :=
  ∃ (index : Nat) (statement : Query) (name : String), statements[index]? = some statement ∧
    (name, value) ∈ statement.params.entries ∧ final = finalName (suffix index) name

/-- Two entries of a batch get one name and have different values. -/
def Conflicting (statements : List Query) : Prop :=
  ∃ final value other, Binds statements final value ∧ Binds statements final other ∧
    value.same other = false

/-- The entries without those whose name occurs earlier. -/
def firstOccurrences (entries : List (String × Value)) : List (String × Value) :=
  entries.eraseDupsBy fun later earlier => later.1 == earlier.1

theorem firstOccurrences_cons (entry : String × Value) (rest : List (String × Value)) :
    firstOccurrences (entry :: rest) =
      entry :: firstOccurrences (rest.filter fun later => later.1 != entry.1) := by
  have differs : ∀ later ∈ rest,
      decide ((later.1 == entry.1) = false) = (later.1 != entry.1) := fun later _ => by
    rw [bne, Bool.decide_eq_false]
  rw [firstOccurrences, List.eraseDupsBy_cons, List.filter_congr differs, firstOccurrences]

/-- Entries of one name have one value. -/
def Consistent (entries : List (String × Value)) : Prop :=
  ∀ left ∈ entries, ∀ right ∈ entries, left.1 = right.1 → left.2.same right.2 = true

theorem Consistent.subset {some all : List (String × Value)} (consistent : Consistent all)
    (part : some ⊆ all) : Consistent some :=
  fun left leftMember right rightMember =>
    consistent left (part leftMember) right (part rightMember)

theorem mem_entries_iff {statements : List Query} {final : String} {value : Value} :
    (final, value) ∈ entries statements ↔ Binds statements final value := by
  simp only [entries, numbered, renamedEntries, List.mem_flatMap, List.mem_map, Prod.mk.injEq]
  constructor
  · rintro ⟨_, ⟨⟨statement, index⟩, member, rfl⟩, ⟨name, _⟩, bound, rfl, rfl⟩
    exact ⟨index, statement, name, List.mk_mem_zipIdx_iff_getElem?.mp member, bound, rfl⟩
  · rintro ⟨index, statement, name, here, bound, rfl⟩
    exact ⟨_, ⟨(statement, index), List.mk_mem_zipIdx_iff_getElem?.mpr here, rfl⟩,
      (name, value), bound, rfl, rfl⟩

theorem consistent_entries_iff {statements : List Query} :
    Consistent (entries statements) ↔ ¬ Conflicting statements := by
  constructor
  · rintro consistent ⟨final, value, other, first, second, differ⟩
    have same := consistent _ (mem_entries_iff.mpr first) _ (mem_entries_iff.mpr second) rfl
    exact Bool.false_ne_true (differ.symm.trans same)
  · rintro free ⟨name, value⟩ member ⟨_, other⟩ otherMember rfl
    rw [← Bool.not_eq_false]
    exact fun differ => free
      ⟨name, value, other, mem_entries_iff.mp member, mem_entries_iff.mp otherMember, differ⟩

/-- A new name is added; a known one is left as it is when its value is the same, and
refused otherwise. -/
theorem bind_cases (params : Params) (name : String) (value : Value) :
    (params.get? name = none ∧ bind params name value = .ok (params.insert name value)) ∨
    (∃ existing, params.get? name = some existing ∧ existing.same value = true ∧
      bind params name value = .ok params) ∨
    ∃ existing error, params.get? name = some existing ∧ existing.same value = false ∧
      bind params name value = .error error ∧ error.kind = .invalidStatement := by
  cases found : params.get? name with
  | none => exact .inl ⟨rfl, by rw [bind, found]⟩
  | some existing =>
      cases same : existing.same value with
      | true => exact .inr (.inl ⟨existing, rfl, same, by simp [bind, found, same]⟩)
      | false =>
          have refused : bind params name value = (Fault.invalidStatement ("parameter `" ++ name ++
              "` is bound to both " ++ existing.display ++ " and " ++ value.display)).fail := by
            simp [bind, found, same]
          exact .inr (.inr ⟨existing, _, rfl, same, refused, rfl⟩)

/-- Whatever was found under a name is found there after another parameter. -/
theorem get?_of_bind_eq_ok {params next : Params} {name : String} {value : Value}
    (bound : bind params name value = .ok next) {known : String} {existing : Value}
    (found : params.get? known = some existing) : next.get? known = some existing := by
  obtain ⟨fresh, added⟩ | ⟨_, -, -, kept⟩ | ⟨_, _, -, -, refused, -⟩ :=
    bind_cases params name value
  · cases added.symm.trans bound
    have other : known ≠ name := by
      rintro rfl
      cases fresh.symm.trans found
    exact (NameTable.get?_insert_of_ne value params.entries other).trans found
  · cases kept.symm.trans bound
    exact found
  · cases refused.symm.trans bound

/-- What was just bound is found under its name. -/
theorem exists_same_of_bind_eq_ok {params next : Params} {name : String} {value : Value}
    (proper : value.same value = true) (bound : bind params name value = .ok next) :
    ∃ found, next.get? name = some found ∧ found.same value = true := by
  obtain ⟨-, added⟩ | ⟨existing, found, same, kept⟩ | ⟨_, _, -, -, refused, -⟩ :=
    bind_cases params name value
  · cases added.symm.trans bound
    exact ⟨value, NameTable.get?_insert_self name value params.entries, proper⟩
  · cases kept.symm.trans bound
    exact ⟨existing, found, same⟩
  · cases refused.symm.trans bound

theorem kind_of_bind_eq_error {params : Params} {name : String} {value : Value} {error : Error}
    (failed : bind params name value = .error error) : error.kind = .invalidStatement := by
  obtain ⟨-, added⟩ | ⟨_, -, -, kept⟩ | ⟨_, other, -, -, refused, kind⟩ :=
    bind_cases params name value
  · cases added.symm.trans failed
  · cases kept.symm.trans failed
  · cases refused.symm.trans failed
    exact kind

theorem contains_snoc (params : Params) (entry : String × Value) (name : String) :
    Params.contains ⟨params.entries ++ [entry], params.offset⟩ name =
      (params.contains name || name == entry.1) := by
  rw [Bool.eq_iff_iff, Bool.or_eq_true, beq_iff_eq]
  simp [Params.contains, NameTable.contains_iff_mem, NameTable.names]

section Merging

variable {entries : List (String × Value)} {params final : Params}

theorem get?_of_foldlM_eq_ok
    (merged : entries.foldlM (fun params entry => bind params entry.1 entry.2) params =
      .ok final)
    {known : String} {existing : Value} (found : params.get? known = some existing) :
    final.get? known = some existing := by
  apply @Result.foldlM_keeps _ _ (fun params : Params => params.get? known = some existing)
      _ _ _ _ found _ merged
  intro state kept entry _ next bound
  exact get?_of_bind_eq_ok bound kept

/-- A run of parameters serves each of them. -/
theorem exists_same_of_foldlM_eq_ok (proper : ∀ entry ∈ entries, entry.2.same entry.2 = true)
    (merged : entries.foldlM (fun params entry => bind params entry.1 entry.2) params =
      .ok final) :
    ∀ entry ∈ entries, ∃ found, final.get? entry.1 = some found ∧
      found.same entry.2 = true := by
  induction entries generalizing params with
  | nil => exact List.forall_mem_nil _
  | cons entry rest inductionHypothesis =>
      obtain ⟨properFirst, properRest⟩ := List.forall_mem_cons.mp proper
      rw [List.foldlM_cons, Result.bind_eq_ok] at merged
      obtain ⟨next, bound, merged⟩ := merged
      refine List.forall_mem_cons.mpr ⟨?_, inductionHypothesis properRest merged⟩
      obtain ⟨found, lookup, same⟩ := exists_same_of_bind_eq_ok properFirst bound
      exact ⟨found, get?_of_foldlM_eq_ok merged lookup, same⟩

/-- What one run has merged has no conflicts. -/
theorem consistent_of_foldlM_eq_ok (proper : ∀ entry ∈ entries, entry.2.same entry.2 = true)
    (merged : entries.foldlM (fun params entry => bind params entry.1 entry.2) params =
      .ok final) : Consistent entries := by
  intro left leftMember right rightMember sameName
  have served := exists_same_of_foldlM_eq_ok proper merged
  obtain ⟨found, lookup, sameLeft⟩ := served left leftMember
  obtain ⟨other, otherLookup, sameRight⟩ := served right rightMember
  rw [sameName, otherLookup, Option.some.injEq] at lookup
  subst lookup
  rw [Value.same_comm] at sameLeft
  exact Value.same_trans sameLeft sameRight

/-- A run without conflicts succeeds and adds the first occurrence of each new name. -/
theorem foldlM_bind_of_consistent (consistent : Consistent (params.entries ++ entries)) :
    entries.foldlM (fun params entry => bind params entry.1 entry.2) params =
      .ok ⟨params.entries ++
        firstOccurrences (entries.filter fun entry => !params.contains entry.1),
        params.offset⟩ := by
  induction entries generalizing params with
  | nil =>
      rw [List.filter_nil, firstOccurrences, List.eraseDupsBy_nil, List.append_nil]
      rfl
  | cons entry rest inductionHypothesis =>
      rw [List.foldlM_cons]
      obtain ⟨fresh, added⟩ | ⟨existing, found, -, kept⟩ | ⟨existing, _, found, differ, -⟩ :=
        bind_cases params entry.1 entry.2
      · have inserted : params.insert entry.1 entry.2 =
            ⟨params.entries ++ [entry], params.offset⟩ :=
          congrArg (Params.mk · params.offset) (NameTable.insert_of_get?_eq_none entry.2 fresh)
        have later := @inductionHypothesis ⟨params.entries ++ [entry], params.offset⟩
          (by rwa [List.append_assoc])
        have new : params.contains entry.1 = false := Option.isSome_eq_false_iff.mpr
          (Option.isNone_iff_eq_none.mpr fresh)
        have unknown : (rest.filter fun later => !params.contains later.1).filter
              (fun later => later.1 != entry.1) =
            rest.filter fun later =>
              !Params.contains ⟨params.entries ++ [entry], params.offset⟩ later.1 := by
          rw [List.filter_filter]
          apply List.filter_congr
          intro later _
          rw [bne, ← Bool.not_or, Bool.or_comm, contains_snoc]
        rw [added, inserted, List.filter_cons_of_pos (by simp [new]), firstOccurrences_cons,
          unknown]
        simpa using later
      · have known : params.contains entry.1 = true := by
          rw [Params.contains, NameTable.contains, ← Params.get?, found]
          rfl
        rw [kept, List.filter_cons_of_neg (by simp [known])]
        apply inductionHypothesis
        exact consistent.subset ((List.sublist_cons_self entry rest).append_left _).subset
      · have same := consistent (entry.1, existing)
          (List.mem_append_left _ (NameTable.mem_of_get?_eq_some found)) entry (by simp) rfl
        exact absurd same (by simp [differ])

end Merging

theorem length_entries (statements : List Query) :
    (entries statements).length =
      (statements.map fun statement => statement.params.size).sum := by
  have sizes : (fun statement : Query => statement.params.size) ∘ Prod.fst =
      fun entry : Query × Nat => entry.1.params.entries.length := rfl
  rw [← List.zipIdx_map_fst 0 statements, List.map_map, sizes, List.zipIdx_map_fst]
  simp [entries, numbered, renamedEntries, List.length_flatMap, Function.comp_def]

/-- A batch fails, as an invalid statement, exactly when two of its parameters get one
name and have different values. Otherwise its parameters are those of its statements in
the order in which their names first occur, and under each name every statement finds its
own value. Two generated names never become one, so a batch with generated names only
has all parameters of its statements. -/
theorem batch_merges_parameters (dialect : Dialect) {statements : List Query}
    (given : statements ≠ [])
    (proper : ∀ statement ∈ statements, ∀ entry ∈ statement.params.entries,
      entry.2.same entry.2 = true) :
    (Conflicting statements → ∃ error, compile dialect statements = .error error ∧
      error.kind = .invalidStatement) ∧
    (¬ Conflicting statements → ∃ query, compile dialect statements = .ok query ∧
      query.params.entries = firstOccurrences (entries statements) ∧
      ∀ final value, Binds statements final value →
        ∃ found, query.params.get? final = some found ∧ found.same value = true) ∧
    (∀ (index other : Nat) (name otherName : String), isGenerated name = true →
      isGenerated otherName = true → (index, name) ≠ (other, otherName) →
      finalName (suffix index) name ≠ finalName (suffix other) otherName) ∧
    ((∀ statement ∈ statements, statement.params.names.Nodup ∧
        ∀ name ∈ statement.params.names, isGenerated name = true) →
      ∃ query, compile dialect statements = .ok query ∧
        query.params.size = (statements.map fun statement => statement.params.size).sum) := by
  have properEntries : ∀ entry ∈ entries statements, entry.2.same entry.2 = true := by
    rintro ⟨final, value⟩ member
    obtain ⟨index, statement, name, here, bound, -⟩ := mem_entries_iff.mp member
    exact proper statement (List.mem_of_getElem? here) (name, value) bound
  have merging := compile_eq_foldlM dialect given
  refine ⟨fun conflicting => ?_, fun free => ?_, ?_, fun generated => ?_⟩
  · cases merged : (entries statements).foldlM
        (fun params entry => bind params entry.1 entry.2) .empty with
    | ok params =>
        have consistent := consistent_of_foldlM_eq_ok properEntries merged
        exact absurd conflicting (consistent_entries_iff.mp consistent)
    | error error =>
        obtain ⟨params, entry, -, refused⟩ := Result.exists_of_foldlM_eq_error merged
        exact ⟨error, by rw [merging, merged]; rfl, kind_of_bind_eq_error refused⟩
  · have merged : (entries statements).foldlM
        (fun params entry => bind params entry.1 entry.2) .empty =
        .ok ⟨firstOccurrences (entries statements), 0⟩ := by
      have consistent : Consistent (Params.empty.entries ++ entries statements) :=
        consistent_entries_iff.mpr free
      simpa [Params.empty, Params.contains, NameTable.contains, NameTable.get?] using
        foldlM_bind_of_consistent consistent
    refine ⟨_, by rw [merging, merged]; rfl, rfl, fun final value bound => ?_⟩
    exact exists_same_of_foldlM_eq_ok properEntries merged (final, value)
      (mem_entries_iff.mpr bound)
  · intro index other name otherName generated otherGenerated differ same
    obtain ⟨rfl, rfl⟩ := (finalName_inj generated otherGenerated).mp same
    exact differ rfl
  · refine ⟨_, compile_eq_ok given (nodup_names_entries generated), ?_⟩
    exact length_entries statements

end Batch

namespace Ticket

/-- Two statements that share a name of the caller. -/
def statements : List Query :=
  [⟨"update \"Ticket\" set \"seat\" = @p0 where \"show\" = @show",
      ⟨[("p0", .i32 12), ("show", .string "Tosca")], 1⟩⟩,
    ⟨"delete from \"Ticket\" where \"show\" = @show and \"id\" = @p0",
      ⟨[("show", .string "Tosca"), ("p0", .i64 7)], 1⟩⟩]

theorem statements_merge_parameters : ∃ query, Batch.compile .sqlite statements = .ok query ∧
    query.params.entries =
      [("p0a", .i32 12), ("show", .string "Tosca"), ("p0b", .i64 7)] := by
  have suffixes : Batch.suffix 0 = ['a'] ∧ Batch.suffix 1 = ['b'] :=
    ⟨Batch.suffix_of_lt (by decide), Batch.suffix_of_lt (by decide)⟩
  have entries : Batch.entries statements =
      [("p0a", .i32 12), ("show", .string "Tosca"), ("show", .string "Tosca"),
        ("p0b", .i64 7)] := by
    simp only [Batch.entries, Batch.numbered, statements, List.zipIdx_cons, List.zipIdx_nil,
      List.map_cons, List.map_nil, suffixes]
    rfl
  have free : ¬ Batch.Conflicting statements := by
    rw [← Batch.consistent_entries_iff, entries]
    unfold Batch.Consistent
    decide
  have proper : ∀ statement ∈ statements, ∀ entry ∈ statement.params.entries,
      entry.2.same entry.2 = true := by decide
  have given : statements ≠ [] := List.cons_ne_nil _ _
  obtain ⟨query, compiled, merged, -⟩ :=
    (Batch.batch_merges_parameters .sqlite given proper).2.1 free
  exact ⟨query, compiled, by rw [merged, entries]; rfl⟩

end Ticket

end SqlMapper
