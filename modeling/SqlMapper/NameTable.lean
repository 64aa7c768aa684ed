/-!
# Tables keyed by names

A name table is a list of named entries in the order in which the names were
first given. Giving a name again replaces its entry without moving it, so a
table built by `insert` names every entry once.
-/

namespace SqlMapper.NameTable

variable {α : Type}

/-- The entry of a name, if it has one. -/
def get? (name : String) : List (String × α) → Option α
  | [] => none
  | (key, value) :: rest => if key = name then some value else get? name rest

/-- Whether a name has an entry. -/
def contains (name : String) (table : List (String × α)) : Bool :=
  (get? name table).isSome

/-- Give `name` the entry `value`: in place when the name is known, at the end
when it is new. -/
def insert (name : String) (value : α) : List (String × α) → List (String × α)
  | [] => [(name, value)]
  | (key, old) :: rest =>
    if key = name then (key, value) :: rest else (key, old) :: insert name value rest

/-- The names in order. -/
def names (table : List (String × α)) : List String :=
  table.map Prod.fst

/-- The table that results from giving the entries one after another. -/
def ofEntries (entries : List (String × α)) : List (String × α) :=
  entries.foldl (fun table entry => insert entry.1 entry.2 table) []

@[simp] theorem get?_insert_self (name : String) (value : α) (table : List (String × α)) :
    get? name (insert name value table) = some value := by
  induction table with
  | nil => simp [insert, get?]
  | cons entry rest inductionHypothesis =>
    by_cases known : entry.1 = name
    · simp [insert, get?, known]
    · simp [insert, get?, known, inductionHypothesis]

@[simp] theorem get?_insert_of_ne {name other : String} (value : α)
    (table : List (String × α)) (distinct : other ≠ name) :
    get? other (insert name value table) = get? other table := by
  induction table with
  | nil => simp [insert, get?, distinct.symm]
  | cons entry rest inductionHypothesis =>
    by_cases known : entry.1 = name
    · simp [insert, get?, known, distinct.symm]
    · simp [insert, get?, known, inductionHypothesis]

theorem get?_eq_none_iff {name : String} {table : List (String × α)} :
    get? name table = none ↔ name ∉ names table := by
  induction table with
  | nil => simp [get?, names]
  | cons entry rest inductionHypothesis =>
    by_cases known : entry.1 = name
    · simp [get?, names, known]
    · simp [get?, names, known, Ne.symm known, inductionHypothesis]

theorem contains_iff_mem {name : String} {table : List (String × α)} :
    contains name table = true ↔ name ∈ names table := by
  rw [← Decidable.not_iff_not, ← get?_eq_none_iff]
  simp [contains]

/-- What is found under a name is an entry of that name. -/
theorem mem_of_get?_eq_some {name : String} {value : α} {table : List (String × α)}
    (found : get? name table = some value) : (name, value) ∈ table := by
  induction table with
  | nil => cases found
  | cons entry rest inductionHypothesis =>
    by_cases known : entry.1 = name
    · simp only [get?, known, if_true, Option.some.injEq] at found
      simp [← found, ← known]
    · simp only [get?, known, if_false] at found
      exact List.mem_cons_of_mem _ (inductionHypothesis found)

/-- Among distinct names, what an entry binds is what is found. -/
theorem get?_eq_some_of_mem {name : String} {value : α} {table : List (String × α)}
    (unique : (names table).Nodup) (member : (name, value) ∈ table) :
    get? name table = some value := by
  induction table with
  | nil => cases member
  | cons entry rest inductionHypothesis =>
      obtain ⟨fresh, unique⟩ := List.nodup_cons.mp unique
      rcases List.mem_cons.mp member with rfl | member
      · simp [get?]
      · have other : entry.1 ≠ name := by
          rintro rfl
          exact fresh (List.mem_map.mpr ⟨_, member, rfl⟩)
        rw [get?, if_neg other, inductionHypothesis unique member]

/-- A name that is new goes to the end. -/
theorem insert_of_get?_eq_none {name : String} {table : List (String × α)} (value : α)
    (fresh : get? name table = none) : insert name value table = table ++ [(name, value)] := by
  induction table with
  | nil => rfl
  | cons entry rest inductionHypothesis =>
    by_cases known : entry.1 = name
    · simp [get?, known] at fresh
    · simp [get?, known] at fresh
      simp [insert, known, inductionHypothesis fresh]

/-- Giving a name that is known leaves the names and their order as they are. -/
theorem names_insert_of_mem {name : String} {table : List (String × α)} (value : α)
    (known : name ∈ names table) : names (insert name value table) = names table := by
  induction table with
  | nil => simp [names] at known
  | cons entry rest inductionHypothesis =>
    by_cases first : entry.1 = name
    · simp [insert, names, first]
    · simp [names, Ne.symm first] at known
      have := inductionHypothesis (by simpa [names] using known)
      simp [insert, first]
      simpa [names] using this

/-- Giving a name that is known changes its entry in place and no other. -/
theorem exists_insert_of_mem {name : String} {table : List (String × α)} (value : α)
    (unique : (names table).Nodup) (known : name ∈ names table) :
    ∃ before old after, table = before ++ (name, old) :: after ∧
      insert name value table = before ++ (name, value) :: after ∧
      name ∉ names (before ++ after) := by
  induction table with
  | nil => simp [names] at known
  | cons entry rest inductionHypothesis =>
    obtain ⟨key, old⟩ := entry
    obtain ⟨fresh, unique⟩ := List.nodup_cons.mp unique
    by_cases first : key = name
    · subst first
      exact ⟨[], old, rest, rfl, by simp [insert], fresh⟩
    · have later : name ∈ names rest := (List.mem_cons.mp known).resolve_left (Ne.symm first)
      obtain ⟨before, value', after, split, inserted, absent⟩ := inductionHypothesis unique later
      refine ⟨(key, old) :: before, value', after, by rw [split, List.cons_append], ?_, ?_⟩
      · rw [insert, if_neg first, inserted, List.cons_append]
      · exact fun member => absent ((List.mem_cons.mp member).resolve_left (Ne.symm first))

/-- Every name stays unique. -/
theorem nodup_names_insert {name : String} {table : List (String × α)} (value : α)
    (unique : (names table).Nodup) : (names (insert name value table)).Nodup := by
  by_cases known : name ∈ names table
  · rwa [names_insert_of_mem value known]
  · rw [insert_of_get?_eq_none value (get?_eq_none_iff.mpr known)]
    simp only [names, List.map_append, List.map_cons, List.map_nil]
    rw [List.nodup_append]
    refine ⟨unique, by simp, ?_⟩
    intro left leftMem right rightMem same
    simp at rightMem
    exact known (by simpa [names, ← rightMem, ← same] using leftMem)

end SqlMapper.NameTable
