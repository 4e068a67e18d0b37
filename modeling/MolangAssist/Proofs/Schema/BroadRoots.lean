import Mathlib.Data.List.Nodup
import MolangAssist.Proofs.RankedTables
import MolangAssist.Proofs.Schema.Walk

/-!
# Roots without a runtime

Without a runtime the query variables of all runtimes count together. An overlaid table takes the
order of its names from their first declarations and its entries from their last ones. So the root
of a chain is what it is in the last runtime that declares it, and the rest of the chain follows.
-/
namespace MolangAssist.Table

variable {α : Type}

/-! ## Overlaid tables -/

theorem overlay_snoc (entries : List (String × α)) (entry : String × α) :
    overlay (entries ++ [entry]) = put (overlay entries) entry.1 entry.2 := by
  rw [overlay, List.foldl_append]
  rfl

/-- The last entry under a name counts. -/
theorem get?_overlay (entries : List (String × α)) (name : String) :
    get? (overlay entries) name = get? entries.reverse name := by
  induction entries using List.reverseRecOn with
  | nil => rfl
  | append_singleton entries entry ih =>
    rw [overlay_snoc, get?_put, ih, List.reverse_append, List.reverse_singleton,
      List.singleton_append, get?_cons]

theorem names_put (table : Table α) (name : String) (entry : α) :
    names (put table name entry) =
      if name ∈ names table then names table else names table ++ [name] := by
  induction table with
  | nil => rfl
  | cons head rest ih =>
    obtain ⟨other, old⟩ := head
    have hnames : names ((other, old) :: rest) = other :: names rest := rfl
    by_cases hother : other = name
    · simp [put, hother, names]
    · have hput : names (put ((other, old) :: rest) name entry) =
          other :: names (put rest name entry) := by
        rw [put, if_neg hother]
        rfl
      rw [hput, ih, hnames]
      by_cases hname : name ∈ names rest
      · simp [hname]
      · simp [hname, Ne.symm hother]

/-- A later entry under a name changes nothing about the order of names. -/
theorem names_overlay (entries : List (String × α)) :
    names (overlay entries) = names (keepFirst entries) := by
  induction entries using List.reverseRecOn with
  | nil => rfl
  | append_singleton entries entry ih =>
    rw [overlay_snoc, names_put, ih, keepFirst_append]
    simp only [mem_names_keepFirst]
    by_cases hname : entry.1 ∈ names entries
    · simp [hname, keepFirst]
    · have hkept : ((keepFirst [entry]).filter fun other => other.1 ∉ names entries) = [entry] := by
        simp [keepFirst, hname]
      rw [if_neg hname, hkept, names, names, List.map_append, List.map_singleton]

theorem Distinct.get?_reverse {table : Table α} (hdistinct : Distinct table) (name : String) :
    get? table.reverse name = get? table name := by
  have hnames : names table.reverse = (names table).reverse := List.map_reverse
  have hreverse : Distinct table.reverse := by
    rw [Distinct, hnames, List.nodup_reverse]
    exact hdistinct
  cases hget : get? table name with
  | none =>
    rw [get?_eq_none_iff] at hget ⊢
    rwa [hnames, List.mem_reverse]
  | some entry => exact hreverse.get?_of_mem (List.mem_reverse.mpr (mem_of_get? hget))

/-- Of tables without repeated names, the last one that has a name provides its entry. -/
theorem get?_overlay_flatten {tables : List (Table α)}
    (htables : ∀ table ∈ tables, Distinct table) (name : String) :
    get? (overlay tables.flatten) name = tables.reverse.findSome? (get? · name) := by
  induction tables using List.reverseRecOn with
  | nil => rfl
  | append_singleton tables table ih =>
    have hlast : Distinct table := htables table (by simp)
    have hinit : ∀ other ∈ tables, Distinct other :=
      fun other hother => htables other (List.mem_append_left _ hother)
    rw [get?_overlay, List.flatten_append, List.flatten_singleton, List.reverse_append,
      get?_append, hlast.get?_reverse, ← get?_overlay, ih hinit, List.reverse_append,
      List.reverse_singleton, List.singleton_append, List.findSome?_cons]
    cases get? table name <;> rfl

end MolangAssist.Table

namespace MolangAssist.Schema

open Text

namespace Document

variable {doc : Document}

/-! ## Roots of all runtimes -/

/-- The last runtime that declares a query variable with the given name. -/
def LastDeclaring (doc : Document) (name id : String) (runtime : Runtime) : Prop :=
  ∃ before after, doc.runtimes = before ++ (id, runtime) :: after ∧
    name ∈ Table.names runtime.query ∧ ∀ later ∈ after, name ∉ Table.names later.2.query

theorem LastDeclaring.mem {name id : String} {runtime : Runtime}
    (hlast : doc.LastDeclaring name id runtime) : (id, runtime) ∈ doc.runtimes := by
  obtain ⟨before, after, hsplit, _⟩ := hlast
  simp [hsplit]

theorem runtimeQuery_of_mem (hdistinct : Table.Distinct doc.runtimes) {id : String}
    {runtime : Runtime} (hmem : (id, runtime) ∈ doc.runtimes) :
    doc.runtimeQuery id = runtime.query := by
  rw [runtimeQuery, hdistinct.get?_of_mem hmem]

theorem queryVariables_of_absent {context : Option String} (habsent : present? context = none)
    (hdistinct : Table.Distinct doc.runtimes) :
    doc.queryVariables context =
      Table.overlay (doc.runtimes.map fun runtime => runtime.2.query).flatten := by
  have hqueries : (doc.runtimes.map fun runtime => doc.runtimeQuery runtime.1) =
      doc.runtimes.map fun runtime => runtime.2.query :=
    List.map_congr_left fun _ hmem => runtimeQuery_of_mem hdistinct hmem
  rw [queryVariables, habsent]
  simp only [List.flatMap_def, hqueries]

theorem queryVariables_of_unknown {id : String} (hid : id ∉ doc.runtimeNames) (hne : id ≠ "") :
    doc.queryVariables (some id) = [] := by
  have hpresent : present? (some id) = some id := by simp [present?, hne]
  rw [queryVariables, hpresent]
  simp only [runtimeQuery, Table.get?_eq_none_iff.mpr hid]

section Proper

variable (hruntimes : Table.Proper (fun runtime => Table.Distinct runtime.query) doc.runtimes)

include hruntimes

theorem get?_broad_eq_some_iff {context : Option String} (habsent : present? context = none)
    {name : String} {entry : Member} :
    Table.get? (doc.queryVariables context) name = some entry ↔
      ∃ id runtime, doc.LastDeclaring name id runtime ∧
        Table.get? runtime.query name = some entry := by
  have htables : ∀ table ∈ doc.runtimes.map fun runtime => runtime.2.query,
      Table.Distinct table := by
    simp only [List.mem_map, forall_exists_index, and_imp, forall_apply_eq_imp_iff₂]
    exact hruntimes.entries
  rw [queryVariables_of_absent habsent hruntimes.distinct, Table.get?_overlay_flatten htables,
    ← List.map_reverse, List.findSome?_map, List.findSome?_eq_some_iff]
  -- Read from its end, the list of runtimes has the last declaring one first.
  constructor
  · rintro ⟨after, ⟨id, runtime⟩, before, hsplit, hentry, hafter⟩
    have hruntimes' : doc.runtimes = before.reverse ++ (id, runtime) :: after.reverse := by
      rw [← List.reverse_reverse doc.runtimes, hsplit]
      simp
    refine ⟨id, runtime, ⟨before.reverse, after.reverse, hruntimes', ?_, ?_⟩, hentry⟩
    · exact Table.mem_names_of_mem (Table.mem_of_get? hentry)
    · intro later hlater
      exact Table.get?_eq_none_iff.mp (hafter later (List.mem_reverse.mp hlater))
  · rintro ⟨id, runtime, ⟨before, after, hsplit, _, hafter⟩, hentry⟩
    refine ⟨after.reverse, (id, runtime), before.reverse, by simp [hsplit], hentry, ?_⟩
    intro later hlater
    exact Table.get?_eq_none_iff.mpr (hafter later (List.mem_reverse.mp hlater))

theorem get?_broad_of_last {context : Option String} (habsent : present? context = none)
    {name id : String} {runtime : Runtime} (hlast : doc.LastDeclaring name id runtime) :
    Table.get? (doc.queryVariables context) name = Table.get? runtime.query name := by
  have hdeclared : name ∈ Table.names runtime.query := by
    obtain ⟨_, _, _, hdeclared, _⟩ := hlast
    exact hdeclared
  obtain ⟨entry, hentry⟩ := Option.isSome_iff_exists.mp (Table.get?_isSome_iff.mpr hdeclared)
  rw [hentry]
  exact (get?_broad_eq_some_iff hruntimes habsent).mpr ⟨id, runtime, hlast, hentry⟩

theorem get?_queryVariables_of_undeclared {name : String}
    (hnone : ∀ runtime ∈ doc.runtimes, name ∉ Table.names runtime.2.query)
    (context : Option String) : Table.get? (doc.queryVariables context) name = none := by
  cases hpresent : present? context with
  | none =>
    rw [Option.eq_none_iff_forall_ne_some]
    intro entry hentry
    obtain ⟨id, runtime, hlast, hfound⟩ := (get?_broad_eq_some_iff hruntimes hpresent).mp hentry
    exact hnone _ hlast.mem (Table.mem_names_of_mem (Table.mem_of_get? hfound))
  | some id =>
    rw [queryVariables, hpresent]
    simp only [runtimeQuery]
    cases hruntime : Table.get? doc.runtimes id with
    | none => rfl
    | some runtime =>
      exact Table.get?_eq_none_iff.mpr (hnone _ (Table.mem_of_get? hruntime))

end Proper

/-- The runtime counts for nothing but the root of a chain. -/
theorem resolve?_congr_root {context other : Option String} {root : String}
    (hroot : Table.get? (doc.queryVariables context) root =
      Table.get? (doc.queryVariables other) root) (names : List String) :
    doc.resolve? context (root :: names) = doc.resolve? other (root :: names) := by
  rw [resolve?, resolve?, root?, root?, hroot]

/-- Without a runtime, a variable stands where it was first declared, with the entry of the last
runtime that declares it. So a chain is resolved as in that runtime, and as in any runtime if none
declares its root. No id stands twice among the runtimes and no name twice in one of them, as in
every document that is well-formed. -/
theorem broad_roots_last_declared (doc : Document)
    (hruntimes : Table.Proper (fun runtime => Table.Distinct runtime.query) doc.runtimes) :
    (∀ context, context = none ∨ context = some "" →
      let broad := doc.queryVariables context
      let declared := doc.runtimes.flatMap fun runtime => Table.names runtime.2.query
      Table.Distinct broad ∧
      (∀ name, name ∈ Table.names broad ↔ name ∈ declared) ∧
      (Table.names broad).Pairwise (fun a b => declared.idxOf a < declared.idxOf b) ∧
      ∀ name entry, Table.get? broad name = some entry ↔
        ∃ id runtime, doc.LastDeclaring name id runtime ∧
          Table.get? runtime.query name = some entry) ∧
    (∀ id, id ∉ doc.runtimeNames → id ≠ "" → doc.queryVariables (some id) = []) ∧
    (∀ name id runtime, doc.LastDeclaring name id runtime → ∀ names,
      doc.resolve? none (name :: names) = doc.resolve? (some id) (name :: names)) ∧
    ∀ name, (∀ runtime ∈ doc.runtimes, name ∉ Table.names runtime.2.query) →
      ∀ context names,
        doc.resolve? none (name :: names) = doc.resolve? context (name :: names) := by
  refine ⟨?_, fun id => queryVariables_of_unknown, ?_, ?_⟩
  · intro context hcontext broad declared
    have habsent : present? context = none := by rcases hcontext with rfl | rfl <;> rfl
    have hdeclared :
        declared = Table.names (doc.runtimes.map fun runtime => runtime.2.query).flatten := by
      simp only [declared, Table.names, List.map_flatten, List.map_map, List.flatMap_def]
      rfl
    have hnames : Table.names broad = Table.names
        (Table.keepFirst (doc.runtimes.map fun runtime => runtime.2.query).flatten) := by
      rw [← Table.names_overlay, ← queryVariables_of_absent habsent hruntimes.distinct]
    rw [Table.Distinct, hnames, hdeclared]
    exact ⟨Table.distinct_keepFirst _, fun _ => Table.mem_names_keepFirst,
      Table.names_keepFirst_pairwise _,
      fun _ _ => get?_broad_eq_some_iff hruntimes habsent⟩
  · intro name id runtime hlast names
    by_cases hid : id = ""
    · -- An empty id is as good as none.
      subst hid
      exact resolve?_congr_root rfl names
    · apply resolve?_congr_root
      have hpresent : present? (some id) = some id := by simp [present?, hid]
      have hquery : doc.queryVariables (some id) = runtime.query := by
        rw [queryVariables, hpresent]
        exact runtimeQuery_of_mem hruntimes.distinct hlast.mem
      rw [hquery]
      exact get?_broad_of_last hruntimes rfl hlast
  · intro name hnone context names
    apply resolve?_congr_root
    rw [get?_queryVariables_of_undeclared hruntimes hnone none,
      get?_queryVariables_of_undeclared hruntimes hnone context]

/-- Three runtimes, of which two declare a player and two a score. -/
def threeRuntimes : Document where
  structs := [("party", { members := [("size", .value {} (some "Number"))] })]
  runtimes := [
    ("event:SENT", { query := [("player", .value {} none), ("score", .value {} none)] }),
    ("event:WON", { query :=
      [("winner", .value {} none), ("player", .struct {} (some "party") none)] }),
    ("event:LOST", { query := [("score", .value {} (some "Number"))] })]

theorem broad_roots_last_declared_threeRuntimes :
    Table.names (threeRuntimes.queryVariables none) = ["player", "score", "winner"] ∧
      Table.get? (threeRuntimes.queryVariables (some "")) "score" =
        some (.value {} (some "Number")) ∧
      threeRuntimes.queryVariables (some "event:GONE") = [] ∧
      threeRuntimes.resolve? none ["player", "size"] =
        threeRuntimes.resolve? (some "event:WON") ["player", "size"] ∧
      (threeRuntimes.resolve? none ["player", "size"]).isSome = true ∧
      (threeRuntimes.resolve? (some "event:SENT") ["player", "size"]).isSome = false ∧
      threeRuntimes.resolve? none ["party", "size"] =
        threeRuntimes.resolve? (some "event:LOST") ["party", "size"] := by
  have hruntimes : Table.Proper (fun runtime => Table.Distinct runtime.query)
      threeRuntimes.runtimes := ⟨by decide, by decide⟩
  have hplayer : threeRuntimes.LastDeclaring "player" "event:WON"
      { query := [("winner", .value {} none), ("player", .struct {} (some "party") none)] } :=
    ⟨[_], [_], rfl, by decide, by decide⟩
  have hscore : threeRuntimes.LastDeclaring "score" "event:LOST"
      { query := [("score", .value {} (some "Number"))] } :=
    ⟨[_, _], [], rfl, by decide, by decide⟩
  obtain ⟨hbroad, hunknown, hlast, hnone⟩ := broad_roots_last_declared threeRuntimes hruntimes
  refine ⟨rfl, ?_, hunknown _ (by decide) (by decide), hlast _ _ _ hplayer _, rfl, rfl,
    hnone _ (by decide) _ _⟩
  exact ((hbroad (some "") (.inr rfl)).2.2.2 _ _).mpr ⟨_, _, hscore, rfl⟩

end Document

end MolangAssist.Schema
