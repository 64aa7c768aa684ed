import Mathlib.Data.List.Nodup
import SqlMapper.Proofs.Batch.Suffix
import SqlMapper.Proofs.Result

/-!
# Parameters of a batch

The parameters of a batch are those of its statements in order, each under its name in
the batch. As long as these names are distinct, nothing is left out and nothing is
replaced; and generated names are distinct, since each carries its statement's suffix.
-/

namespace SqlMapper

namespace Batch

open Params

/-- The parameters of a statement under their names in the batch. -/
def renamedEntries (statement : Query) (suffix : List Char) : List (String × Value) :=
  statement.params.entries.map fun entry => (finalName suffix entry.1, entry.2)

/-- The parameters of all statements under their names in the batch. -/
def entries (statements : List Query) : List (String × Value) :=
  (numbered statements).flatMap fun numbered => renamedEntries numbered.1 numbered.2

/-- Binding entries whose names are new puts them behind what was bound before. -/
theorem foldlM_bind_of_fresh {entries : List (String × Value)} {params : Params}
    (fresh : (NameTable.names (params.entries ++ entries)).Nodup) :
    entries.foldlM (fun params entry => bind params entry.1 entry.2) params =
      .ok ⟨params.entries ++ entries, params.offset⟩ := by
  induction entries generalizing params with
  | nil => rw [List.append_nil]; rfl
  | cons entry rest inductionHypothesis =>
      have absent : params.get? entry.1 = none := by
        rw [Params.get?, NameTable.get?_eq_none_iff]
        intro known
        rw [NameTable.names, List.map_append, List.map_cons] at fresh
        exact (List.nodup_append.mp fresh).2.2 _ known _ List.mem_cons_self rfl
      have bound : bind params entry.1 entry.2 =
          .ok ⟨params.entries ++ [entry], params.offset⟩ := by
        rw [bind, absent]
        simp only [Params.insert]
        rw [NameTable.insert_of_get?_eq_none entry.2 absent]
      rw [List.append_cons] at fresh
      have later := @inductionHypothesis ⟨params.entries ++ [entry], params.offset⟩ fresh
      rw [List.foldlM_cons, bound]
      simpa using later

/-- Merging goes through the entries of all statements one after another. -/
theorem foldlM_bindAll (numbered : List (Query × List Char)) (params : Params) :
    numbered.foldlM (fun params numbered => bindAll numbered.2 params numbered.1) params =
      (numbered.flatMap fun numbered => renamedEntries numbered.1 numbered.2).foldlM
        (fun params entry => bind params entry.1 entry.2) params := by
  induction numbered generalizing params with
  | nil => rfl
  | cons numbered rest inductionHypothesis =>
      have first : bindAll numbered.2 params numbered.1 =
          (renamedEntries numbered.1 numbered.2).foldlM
            (fun params entry => bind params entry.1 entry.2) params := by
        rw [renamedEntries, List.foldlM_map]
        rfl
      rw [List.foldlM_cons, List.flatMap_cons, List.foldlM_append, ← first]
      exact bind_congr inductionHypothesis

/-- Statements whose names are all generated share no name in the batch. -/
theorem nodup_names_entries {statements : List Query}
    (generated : ∀ statement ∈ statements, statement.params.names.Nodup ∧
      ∀ name ∈ statement.params.names, isGenerated name = true) :
    (NameTable.names (entries statements)).Nodup := by
  have names : NameTable.names (entries statements) =
      statements.zipIdx.flatMap fun entry =>
        entry.1.params.names.map (finalName (suffix entry.2)) := by
    simp [NameTable.names, entries, numbered, renamedEntries, Params.names, List.map_flatMap,
      List.flatMap_map, Function.comp_def]
  rw [names, List.nodup_flatMap]
  constructor
  · rintro ⟨statement, index⟩ member
    obtain ⟨unique, own⟩ := generated statement (List.fst_mem_of_mem_zipIdx member)
    apply List.Nodup.map_on _ unique
    intro name named other otherNamed same
    exact ((finalName_inj (own name named) (own other otherNamed)).mp same).2
  · have indices : (statements.zipIdx.map Prod.snd).Nodup := by
      rw [List.zipIdx_map_snd]
      exact List.nodup_range'
    rw [List.Nodup, List.pairwise_map] at indices
    refine List.Pairwise.imp_of_mem (fun {left right} leftMember rightMember differ => ?_) indices
    intro name named otherNamed
    obtain ⟨own, ownNamed, rfl⟩ := List.mem_map.mp named
    obtain ⟨other, otherMember, same⟩ := List.mem_map.mp otherNamed
    have leftGenerated := (generated left.1 (List.fst_mem_of_mem_zipIdx leftMember)).2 own ownNamed
    have rightGenerated :=
      (generated right.1 (List.fst_mem_of_mem_zipIdx rightMember)).2 other otherMember
    exact differ ((finalName_inj rightGenerated leftGenerated).mp same).1.symm

/-- The parameters of a batch are merged in one run over all entries. -/
theorem compile_eq_foldlM (dialect : Dialect) {statements : List Query}
    (given : statements ≠ []) :
    compile dialect statements =
      ((entries statements).foldlM (fun params entry => bind params entry.1 entry.2) .empty).map
        fun params => ⟨Text.join dialect.separator
          ((numbered statements).map fun numbered => rename dialect numbered.1 numbered.2),
          params⟩ := by
  have nonempty : statements.isEmpty = false := by
    rw [Bool.eq_false_iff]
    exact mt List.isEmpty_iff.mp given
  have merged := foldlM_bindAll (numbered statements) .empty
  simp only [compile, nonempty, merged]
  rfl

/-- A batch without repeated names binds the parameters of all statements. -/
theorem compile_eq_ok {dialect : Dialect} {statements : List Query} (given : statements ≠ [])
    (unique : (NameTable.names (entries statements)).Nodup) :
    compile dialect statements =
      .ok ⟨Text.join dialect.separator
        ((numbered statements).map fun numbered => rename dialect numbered.1 numbered.2),
        ⟨entries statements, 0⟩⟩ := by
  have merged : (entries statements).foldlM
      (fun params entry => bind params entry.1 entry.2) Params.empty =
      .ok ⟨entries statements, 0⟩ :=
    foldlM_bind_of_fresh unique
  rw [compile_eq_foldlM dialect given, merged]
  rfl

/-- What a statement binds is found in the batch under the new name. -/
theorem get?_entries {statements : List Query}
    (unique : (NameTable.names (entries statements)).Nodup) {index : Nat} {statement : Query}
    (here : statements[index]? = some statement) {name : String} {value : Value}
    (bound : statement.params.get? name = some value) :
    Params.get? ⟨entries statements, 0⟩ (finalName (suffix index) name) = some value := by
  apply NameTable.get?_eq_some_of_mem unique
  have suffixed : (statement, suffix index) ∈ numbered statements :=
    List.mem_map.mpr ⟨_, List.mk_mem_zipIdx_iff_getElem?.mpr here, rfl⟩
  have own : (name, value) ∈ statement.params.entries := NameTable.mem_of_get?_eq_some bound
  exact List.mem_flatMap.mpr ⟨_, suffixed, List.mem_map.mpr ⟨(name, value), own, rfl⟩⟩

end Batch

end SqlMapper
