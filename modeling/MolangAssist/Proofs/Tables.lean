import MolangAssist.Table

/-!
# Entries of tables

In a table without repeated names, the entries are exactly the results of look-ups. Merging by
rank always gives such a table.
-/
namespace MolangAssist.Table

variable {α : Type}

theorem mem_of_get? {table : Table α} {name : String} {entry : α}
    (hget : get? table name = some entry) : (name, entry) ∈ table := by
  induction table with
  | nil => cases hget
  | cons head rest ih =>
    rw [get?_cons] at hget
    split at hget
    · next hname =>
      cases hget
      simp [hname]
    · exact List.mem_cons_of_mem head (ih hget)

theorem mem_names_of_mem {table : Table α} {name : String} {entry : α}
    (hmem : (name, entry) ∈ table) : name ∈ names table := List.mem_map_of_mem hmem

theorem Distinct.get?_of_mem {table : Table α} {name : String} {entry : α}
    (hdistinct : Distinct table) (hmem : (name, entry) ∈ table) :
    get? table name = some entry := by
  induction table with
  | nil => cases hmem
  | cons head rest ih =>
    obtain ⟨hfresh, hrest⟩ := List.nodup_cons.mp hdistinct
    rw [get?_cons]
    rcases List.mem_cons.mp hmem with rfl | hmem
    · simp
    · have hother : name ≠ head.1 := by
        rintro rfl
        exact hfresh (mem_names_of_mem hmem)
      rw [if_neg hother]
      exact ih hrest hmem

theorem distinct_mergeRanked (sources : List (Table α)) : Distinct (mergeRanked sources) :=
  distinct_keepFirst sources.flatten

theorem get?_mergeRanked_append (first second : List (Table α)) (name : String) :
    get? (mergeRanked (first ++ second)) name =
      (get? (mergeRanked first) name).or (get? (mergeRanked second) name) := by
  simp only [get?_mergeRanked, List.findSome?_append]

theorem get?_mergeRanked_singleton (table : Table α) (name : String) :
    get? (mergeRanked [table]) name = get? table name := by
  rw [get?_mergeRanked, List.findSome?_singleton]

theorem get?_mergeRanked_pair (first second : Table α) (name : String) :
    get? (mergeRanked [first, second]) name = (get? first name).or (get? second name) := by
  rw [← List.singleton_append, get?_mergeRanked_append, get?_mergeRanked_singleton,
    get?_mergeRanked_singleton]

/-! ## Larger tables -/

/-- Every look-up that finds an entry finds the same one in the larger table. -/
def ExtendedBy (table larger : Table α) : Prop :=
  ∀ name entry, get? table name = some entry → get? larger name = some entry

theorem ExtendedBy.refl (table : Table α) : ExtendedBy table table := fun _ _ hget => hget

theorem ExtendedBy.get?_eq {table larger : Table α} (hlarger : ExtendedBy table larger)
    {name : String} (hname : name ∈ names table) : get? larger name = get? table name := by
  obtain ⟨entry, hentry⟩ := Option.isSome_iff_exists.mp (get?_isSome_iff.mpr hname)
  rw [hentry, hlarger name entry hentry]

/-- The lowest ranks may grow: a name that is found already is found where it was. -/
theorem ExtendedBy.mergeRanked_append {low low' : List (Table α)}
    (hlow : ExtendedBy (mergeRanked low) (mergeRanked low')) (high : List (Table α)) :
    ExtendedBy (mergeRanked (high ++ low)) (mergeRanked (high ++ low')) := by
  intro name entry hget
  rw [get?_mergeRanked_append] at hget ⊢
  cases hhigh : get? (mergeRanked high) name with
  | some found => rwa [hhigh] at hget
  | none =>
    rw [hhigh, Option.none_or] at hget
    exact hlow name entry hget

theorem ExtendedBy.mergeRanked_singleton {table larger : Table α}
    (hlarger : ExtendedBy table larger) :
    ExtendedBy (mergeRanked [table]) (mergeRanked [larger]) := by
  intro name entry hget
  rw [get?_mergeRanked_singleton] at hget ⊢
  exact hlarger name entry hget

/-! ## Reading tables entry by entry -/

theorem get?_map {β : Type} (f : α → β) (table : Table α) (name : String) :
    get? (table.map fun entry => (entry.1, f entry.2)) name = (get? table name).map f := by
  induction table with
  | nil => rfl
  | cons head rest ih =>
    rw [List.map_cons, get?_cons, get?_cons, ih]
    split <;> rfl

/-- Without repeated names, leaving an entry out never uncovers another one. -/
theorem Distinct.get?_filterMap {β : Type} {table : Table α} (hdistinct : Distinct table)
    (f : String → α → Option β) (name : String) :
    get? (table.filterMap fun entry => (f entry.1 entry.2).map (Prod.mk entry.1)) name =
      (get? table name).bind (f name) := by
  induction table with
  | nil => rfl
  | cons head rest ih =>
    obtain ⟨hfresh, hrest⟩ := List.nodup_cons.mp hdistinct
    have hih := ih hrest
    rw [get?_cons]
    by_cases hname : name = head.1
    · subst hname
      have hnone : get? rest head.1 = none := get?_eq_none_iff.mpr hfresh
      rw [hnone, Option.bind_none] at hih
      cases hhead : f head.1 head.2 <;> simp [hhead, get?_cons, hih]
    · cases hhead : f head.1 head.2 <;> simp [hname, hhead, get?_cons, hih]

theorem names_filterMap {β : Type} (f : α → Option β) (table : Table α) :
    names (table.filterMap fun entry => (f entry.2).map (Prod.mk entry.1)) =
      names (table.filter fun entry => (f entry.2).isSome) := by
  induction table with
  | nil => rfl
  | cons head rest ih =>
    cases hhead : f head.2 with
    | none =>
      rw [List.filterMap_cons_none (by rw [hhead]; rfl), List.filter_cons_of_neg (by simp [hhead])]
      exact ih
    | some entry =>
      rw [List.filterMap_cons_some (by rw [hhead]; rfl), List.filter_cons_of_pos (by simp [hhead])]
      exact congrArg (head.1 :: ·) ih

theorem names_filterMap_sublist {β : Type} (f : α → Option β) (table : Table α) :
    (names (table.filterMap fun entry => (f entry.2).map (Prod.mk entry.1))).Sublist
      (names table) := by
  rw [names_filterMap]
  exact List.filter_sublist.map Prod.fst

/-! ## Tables of good entries -/

/-- No name stands twice in the table, and all entries satisfy `p`. -/
structure Proper (p : α → Prop) (table : Table α) : Prop where
  distinct : Distinct table
  entries : ∀ entry ∈ table, p entry.2

theorem Proper.nil (p : α → Prop) : Proper p [] := ⟨List.nodup_nil, by simp⟩

theorem Proper.single {p : α → Prop} (name : String) {entry : α} (hentry : p entry) :
    Proper p [(name, entry)] := ⟨by simp [Distinct, names], by simpa using hentry⟩

/-- Reading the entries one by one, and leaving out some, keeps a table proper. -/
theorem Proper.filterMap {β : Type} {p : α → Prop} {q : β → Prop} {table : Table α}
    (htable : Proper p table) (f : α → Option β)
    (hf : ∀ a b, p a → f a = some b → q b) :
    Proper q (table.filterMap fun entry => (f entry.2).map (Prod.mk entry.1)) := by
  refine ⟨(names_filterMap_sublist f table).nodup htable.distinct, ?_⟩
  intro entry hentry
  obtain ⟨source, hsource, hread⟩ := List.mem_filterMap.mp hentry
  obtain ⟨b, hb, rfl⟩ := Option.map_eq_some_iff.mp hread
  exact hf source.2 b (htable.entries source hsource) hb

end MolangAssist.Table
