/-!
# Tables of named entries

A table lists entries in the order in which their names were first declared.  Tables are merged
in two ways: by rank, where the first source of a name wins, and by overlay, where the last one
does while the name keeps its place.  The lemmas say what each operation does to look-ups and to
the list of names.
-/
namespace MolangAssist

/-- Named entries in declaration order. -/
abbrev Table (α : Type) := List (String × α)

namespace Table

variable {α : Type}

/-- The entry under a name; the first one counts. -/
def get? (table : Table α) (name : String) : Option α := List.lookup name table

/-- The names in declaration order. -/
def names (table : Table α) : List String := table.map Prod.fst

/-- No name is declared twice. -/
def Distinct (table : Table α) : Prop := table.names.Nodup

/-- Sets the entry under a name, in place if the name is declared and at the end if not. -/
def put : Table α → String → α → Table α
  | [], name, entry => [(name, entry)]
  | (n, e) :: rest, name, entry =>
    if n = name then (n, entry) :: rest else (n, e) :: put rest name entry

/-- Declares the entries one after the other; a later one replaces an earlier one in place. -/
def overlay (entries : List (String × α)) : Table α :=
  entries.foldl (fun table entry => put table entry.1 entry.2) []

/-- Keeps the first entry under each name. -/
def keepFirst : List (String × α) → Table α
  | [] => []
  | entry :: rest => entry :: (keepFirst rest).filter (·.1 != entry.1)

/-- Merges tables ranked from the most to the least specific: the first one that has a name
provides its entry. -/
def mergeRanked (sources : List (Table α)) : Table α := keepFirst sources.flatten

/-! ## Look-ups -/

@[simp] theorem get?_nil (name : String) : get? ([] : Table α) name = none := rfl

theorem get?_cons (entry : String × α) (rest : Table α) (name : String) :
    get? (entry :: rest) name = if name = entry.1 then some entry.2 else get? rest name := by
  obtain ⟨n, e⟩ := entry
  by_cases h : name = n
  · simp [get?, h]
  · have hb : (name == n) = false := by simpa using h
    simp [get?, List.lookup_cons, h, hb]

theorem get?_eq_none_iff {table : Table α} {name : String} :
    get? table name = none ↔ name ∉ names table := by
  induction table with
  | nil => simp [names]
  | cons entry rest ih =>
    rw [get?_cons]
    by_cases h : name = entry.1
    · simp [names, h]
    · simpa [names, h] using ih

theorem get?_isSome_iff {table : Table α} {name : String} :
    (get? table name).isSome = true ↔ name ∈ names table := by
  rw [← Option.ne_none_iff_isSome, Ne, get?_eq_none_iff, Decidable.not_not]

theorem get?_append (first second : Table α) (name : String) :
    get? (first ++ second) name = (get? first name).or (get? second name) := by
  induction first with
  | nil => simp
  | cons entry rest ih =>
    rw [List.cons_append, get?_cons, get?_cons]
    by_cases h : name = entry.1
    · simp [h]
    · simp [h, ih]

theorem get?_put (table : Table α) (name other : String) (entry : α) :
    get? (put table name entry) other = if other = name then some entry else get? table other := by
  induction table with
  | nil => simp [put, get?_cons]
  | cons head rest ih =>
    obtain ⟨n, e⟩ := head
    by_cases hn : n = name
    · subst hn
      by_cases ho : other = n <;> simp [put, get?_cons, ho]
    · by_cases ho : other = n
      · simp [put, get?_cons, hn, ho]
      · simp [put, get?_cons, hn, ho, ih]

theorem get?_filter_ne {table : Table α} {name other : String} (h : other ≠ name) :
    get? (table.filter (·.1 != name)) other = get? table other := by
  induction table with
  | nil => rfl
  | cons entry rest ih =>
    by_cases he : entry.1 = name
    · simp [he, ih, get?_cons, h]
    · simp [he, ih, get?_cons]

theorem get?_keepFirst (entries : List (String × α)) (name : String) :
    get? (keepFirst entries) name = get? entries name := by
  induction entries with
  | nil => rfl
  | cons entry rest ih =>
    rw [keepFirst, get?_cons, get?_cons]
    by_cases h : name = entry.1
    · simp [h]
    · simp [h, get?_filter_ne h, ih]

/-- A merged table takes a name from the first source that has it. -/
theorem get?_mergeRanked (sources : List (Table α)) (name : String) :
    get? (mergeRanked sources) name = sources.findSome? (get? · name) := by
  rw [mergeRanked, get?_keepFirst]
  induction sources with
  | nil => rfl
  | cons source rest ih =>
    rw [List.flatten_cons, get?_append, ih, List.findSome?_cons]
    cases get? source name <;> rfl

/-! ## Names -/

theorem mem_names_put {table : Table α} {name other : String} {entry : α} :
    other ∈ names (put table name entry) ↔ other = name ∨ other ∈ names table := by
  rw [← get?_isSome_iff, ← get?_isSome_iff, get?_put]
  by_cases h : other = name <;> simp [h]

theorem Distinct.put {table : Table α} (h : Distinct table) (name : String) (entry : α) :
    Distinct (Table.put table name entry) := by
  induction table with
  | nil => simp [Table.put, Distinct, names]
  | cons head rest ih =>
    obtain ⟨n, e⟩ := head
    have hn : n ∉ names rest ∧ Distinct rest := by
      simpa [Distinct, names] using h
    by_cases hname : n = name
    · simpa [Table.put, hname, Distinct, names] using h
    · rw [Table.put, if_neg hname]
      have hmem : n ∉ names (Table.put rest name entry) := by
        rw [mem_names_put]
        exact fun hor => hor.elim hname hn.1
      exact List.nodup_cons.2 ⟨hmem, ih hn.2⟩

theorem distinct_overlay (entries : List (String × α)) : Distinct (overlay entries) := by
  have step : ∀ (entries : List (String × α)) (table : Table α), Distinct table →
      Distinct (entries.foldl (fun table entry => Table.put table entry.1 entry.2) table) := by
    intro entries
    induction entries with
    | nil => exact fun _ h => h
    | cons entry rest ih => exact fun table h => ih _ (h.put entry.1 entry.2)
  exact step entries [] List.nodup_nil

theorem distinct_keepFirst (entries : List (String × α)) : Distinct (keepFirst entries) := by
  induction entries with
  | nil => exact List.nodup_nil
  | cons entry rest ih =>
    refine List.nodup_cons.2 ⟨?_, ?_⟩
    · simp
    · exact List.Sublist.nodup (List.Sublist.map _ List.filter_sublist) ih

end Table

end MolangAssist
