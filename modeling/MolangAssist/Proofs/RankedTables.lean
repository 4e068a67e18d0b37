import Mathlib.Data.List.Induction
import MolangAssist.Proofs.Tables

/-!
# Merging by rank

A merged table has the first entry under each name, and its names stand in the order in which the
sources first mention them. Merging is flat: it does not matter in which groups sources are merged,
and a source that comes again adds nothing.
-/
namespace MolangAssist.Table

variable {α : Type}

instance (table : Table α) : Decidable (Distinct table) :=
  inferInstanceAs (Decidable (names table).Nodup)

theorem keepFirst_sublist (entries : List (String × α)) :
    (keepFirst entries).Sublist entries := by
  induction entries with
  | nil => exact List.Sublist.slnil
  | cons entry rest ih => exact (List.filter_sublist.trans ih).cons_cons entry

theorem mem_names_keepFirst {entries : List (String × α)} {name : String} :
    name ∈ names (keepFirst entries) ↔ name ∈ names entries := by
  rw [← get?_isSome_iff, get?_keepFirst, get?_isSome_iff]

theorem mem_of_mem_mergeRanked {sources : List (Table α)} {entry : String × α}
    (hentry : entry ∈ mergeRanked sources) : ∃ source ∈ sources, entry ∈ source :=
  List.mem_flatten.mp ((keepFirst_sublist sources.flatten).subset hentry)

theorem mem_of_mem_put {table : Table α} {name : String} {entry : α} {found : String × α}
    (hfound : found ∈ put table name entry) : found = (name, entry) ∨ found ∈ table := by
  induction table with
  | nil => exact .inl (List.mem_singleton.mp hfound)
  | cons head rest ih =>
    rw [put] at hfound
    split at hfound
    · next hname =>
      rcases List.mem_cons.mp hfound with hnew | hold
      · exact .inl (hname ▸ hnew)
      · exact .inr (List.mem_cons_of_mem _ hold)
    · rcases List.mem_cons.mp hfound with hhead | hrest
      · exact .inr (hhead ▸ List.mem_cons_self)
      · exact (ih hrest).imp_right (List.mem_cons_of_mem _)

theorem mem_of_mem_overlay {entries : List (String × α)} {found : String × α}
    (hfound : found ∈ overlay entries) : found ∈ entries := by
  induction entries using List.reverseRecOn with
  | nil => cases hfound
  | append_singleton entries entry ih =>
    rw [overlay, List.foldl_append] at hfound
    rcases mem_of_mem_put hfound with hnew | hold
    · exact List.mem_append_right _ (List.mem_singleton.mpr hnew)
    · exact List.mem_append_left _ (ih hold)

/-! ## Order of names -/

/-- The names that are kept stand in the order of their first places. -/
theorem names_keepFirst_pairwise (entries : List (String × α)) :
    (names (keepFirst entries)).Pairwise fun a b =>
      (names entries).idxOf a < (names entries).idxOf b := by
  induction entries with
  | nil => exact List.Pairwise.nil
  | cons entry rest ih =>
    have hnames : names (entry :: rest) = entry.1 :: names rest := rfl
    have hbehind : ∀ name ∈ names ((keepFirst rest).filter (·.1 != entry.1)),
        (entry.1 :: names rest).idxOf name = (names rest).idxOf name + 1 := by
      intro name hname
      obtain ⟨other, hother, rfl⟩ := List.mem_map.mp hname
      have hne : other.1 ≠ entry.1 := by simpa using (List.mem_filter.mp hother).2
      have hbeq : (entry.1 == other.1) = false := by simpa using hne.symm
      rw [List.idxOf_cons, hbeq, cond_false]
    have hkept : (names ((keepFirst rest).filter (·.1 != entry.1))).Sublist
        (names (keepFirst rest)) := List.filter_sublist.map Prod.fst
    rw [hnames]
    refine List.pairwise_cons.mpr ⟨?_, ?_⟩
    · intro name hname
      rw [List.idxOf_cons_self, hbehind name hname]
      omega
    · refine (ih.sublist hkept).imp_of_mem ?_
      intro a b ha hb hlt
      rw [hbehind a ha, hbehind b hb]
      omega

/-! ## Merging in groups -/

theorem keepFirst_append (first second : List (String × α)) :
    keepFirst (first ++ second) =
      keepFirst first ++ (keepFirst second).filter fun entry => entry.1 ∉ names first := by
  induction first with
  | nil =>
    have hall : ∀ entry ∈ keepFirst second, decide (entry.1 ∉ names ([] : Table α)) = true := by
      simp [names]
    rw [List.nil_append, keepFirst, List.nil_append, List.filter_eq_self.mpr hall]
  | cons entry rest ih =>
    have hnames : names (entry :: rest) = entry.1 :: names rest := rfl
    rw [List.cons_append, keepFirst, keepFirst, ih, List.filter_append, List.filter_filter, hnames,
      List.cons_append]
    congr 2
    apply List.filter_congr
    intro other _
    by_cases hother : other.1 = entry.1 <;> simp [hother]

theorem keepFirst_of_distinct {table : Table α} (hdistinct : Distinct table) :
    keepFirst table = table := by
  induction table with
  | nil => rfl
  | cons entry rest ih =>
    obtain ⟨hfresh, hrest⟩ := List.nodup_cons.mp hdistinct
    rw [keepFirst, ih hrest, List.filter_eq_self.mpr]
    intro other hother
    rw [bne_iff_ne]
    rintro hsame
    exact hfresh (hsame ▸ mem_names_of_mem hother)

theorem keepFirst_append_keepFirst (first second : List (String × α)) :
    keepFirst (first ++ keepFirst second) = keepFirst (first ++ second) := by
  rw [keepFirst_append, keepFirst_append, keepFirst_of_distinct (distinct_keepFirst second)]

theorem keepFirst_keepFirst_append (first second : List (String × α)) :
    keepFirst (keepFirst first ++ second) = keepFirst (first ++ second) := by
  rw [keepFirst_append, keepFirst_append, keepFirst_of_distinct (distinct_keepFirst first)]
  simp only [mem_names_keepFirst]

theorem mergeRanked_pair (first second : Table α) :
    mergeRanked [first, second] = keepFirst (first ++ second) := by
  rw [mergeRanked, List.flatten_cons, List.flatten_singleton]

/-- Groups of sources may be merged first. -/
theorem mergeRanked_append (first second : List (Table α)) :
    mergeRanked (first ++ second) = mergeRanked [mergeRanked first, mergeRanked second] := by
  rw [mergeRanked_pair, mergeRanked, mergeRanked, mergeRanked, keepFirst_keepFirst_append,
    keepFirst_append_keepFirst, List.flatten_append]

/-- A source that comes again adds nothing. -/
theorem mergeRanked_again {before : List (Table α)} {source : Table α} (hsource : source ∈ before)
    (after : List (Table α)) :
    mergeRanked (before ++ source :: after) = mergeRanked (before ++ after) := by
  have hknown : ∀ name ∈ names source, name ∈ names before.flatten := by
    intro name hname
    obtain ⟨entry, hentry, rfl⟩ := List.mem_map.mp hname
    exact List.mem_map_of_mem (List.mem_flatten.mpr ⟨source, hsource, hentry⟩)
  have hnone : ((keepFirst source).filter fun entry => entry.1 ∉ names before.flatten) = [] := by
    rw [List.filter_eq_nil_iff]
    intro entry hentry
    have hname := hknown _ (mem_names_keepFirst.mp (mem_names_of_mem hentry))
    simpa using hname
  rw [mergeRanked, mergeRanked, List.flatten_append, List.flatten_append, List.flatten_cons,
    keepFirst_append, keepFirst_append, keepFirst_append, List.filter_append, hnone,
    List.nil_append, List.filter_filter]
  congr 1
  apply List.filter_congr
  intro entry _
  by_cases hname : entry.1 ∈ names source
  · simp [hname, hknown _ hname]
  · simp [hname]

end MolangAssist.Table
