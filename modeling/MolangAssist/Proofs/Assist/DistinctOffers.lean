import Mathlib.Data.List.Nodup
import MolangAssist.Proofs.Assist.ChainLine
import MolangAssist.Proofs.Assist.DeclaredFunctions
import MolangAssist.Proofs.Assist.OfferedRuntimes
import MolangAssist.Proofs.Assist.UsedNames
import MolangAssist.Proofs.RankedTables
import MolangAssist.Proofs.Schema.Walk
import MolangAssist.Proofs.Schema.WellFormed

/-!
# Offers under distinct names

Whatever completion offers in one place comes from one table, one scan or one fixed list, and none
of these holds a name twice. Only behind the bare word for queries two tables are put one behind
the other: there a name is offered twice if and only if both have it.
-/
namespace MolangAssist

open Text

/-! ## Tables of a well-formed schema -/

namespace Schema.Document

variable {doc : Document} (hdoc : doc.WellFormed)

include hdoc

theorem distinct_runtimeQuery (id : String) : Table.Distinct (doc.runtimeQuery id) := by
  rw [runtimeQuery]
  split
  · next runtime hruntime =>
    exact (hdoc.runtimes.entries _ (Table.mem_of_get? hruntime)).distinct
  · exact List.nodup_nil

theorem distinct_queryVariables (context : Option String) :
    Table.Distinct (doc.queryVariables context) := by
  rw [queryVariables]
  split
  · exact distinct_runtimeQuery hdoc _
  · exact Table.distinct_overlay _

theorem distinct_mathFunctions : Table.Distinct doc.mathFunctions := by
  rw [mathFunctions]
  split
  · next group hgroup => exact (hdoc.structs.entries _ (Table.mem_of_get? hgroup)).distinct
  · exact List.nodup_nil

theorem distinct_generalFunctions : Table.Distinct doc.generalFunctions := by
  rw [generalFunctions]
  split
  · next group hgroup => exact (hdoc.functionSets.entries _ (Table.mem_of_get? hgroup)).distinct
  · exact List.nodup_nil

end Schema.Document

namespace Assist

open Schema Script

/-! ## Lists of items -/

/-- No label stands twice among some items. -/
def DistinctLabels (items : List Item) : Prop := (items.map Item.label).Nodup

instance : DecidablePred DistinctLabels := fun items =>
  inferInstanceAs (Decidable (items.map Item.label).Nodup)

theorem distinctLabels_bareItems : DistinctLabels bareItems := by decide

theorem distinctLabels_memberItems {members : Members} (hmembers : Table.Distinct members)
    (rank : String) : DistinctLabels (memberItems members rank) := by
  rw [DistinctLabels, memberItems_labels]
  exact hmembers

theorem nodup_map_ofList {names : List (List Char)} (hnames : names.Nodup) :
    (names.map String.ofList).Nodup :=
  hnames.map fun _ _ hsame => String.ofList_injective hsame

theorem distinctLabels_usedItems (text : List Char) (space : Space) (kind : ItemKind)
    (detail : String) : DistinctLabels (usedItems text space kind detail) := by
  rw [DistinctLabels, labels_usedItems]
  exact nodup_map_ofList (nodup_firstOccurrences _)

theorem distinctLabels_declaredItems (text : List Char) : DistinctLabels (declaredItems text) := by
  rw [DistinctLabels, labels_declaredItems]
  exact nodup_map_ofList (nodup_firstOccurrences _)

theorem distinctLabels_queryItems (doc : Document) {names : List String}
    (hnames : names ≠ []) (runtime : Option String) :
    DistinctLabels (queryItems doc names runtime) := by
  obtain ⟨root, rest, rfl⟩ := List.exists_cons_of_ne_nil hnames
  rw [queryItems]
  · cases hresolved : doc.resolve? runtime (root :: rest) with
    | none => exact List.nodup_nil
    | some resolution =>
      exact distinctLabels_memberItems (Document.distinct_resolve? hresolved) "0"
  · simp

section WellFormed

variable {doc : Document} (hdoc : doc.WellFormed)

include hdoc

theorem distinctLabels_runtimeItems : DistinctLabels (runtimeItems doc) := by
  rw [DistinctLabels, labels_runtimeItems]
  exact hdoc.runtimes.distinct

theorem distinctLabels_contextItems (runtime : Option String) :
    DistinctLabels (contextItems doc runtime) := by
  rw [contextItems]
  split
  · next id _ =>
    rw [DistinctLabels, List.map_map]
    exact Document.distinct_runtimeQuery hdoc id
  · exact List.nodup_nil

/-- Behind the bare word for queries, the query variables come first and the general functions
behind them. -/
theorem distinctLabels_queryItems_nil_iff (runtime : Option String) :
    DistinctLabels (queryItems doc [] runtime) ↔
      (Table.names (doc.queryVariables runtime)).Disjoint (Table.names doc.generalFunctions) := by
  have hlabels : (queryItems doc [] runtime).map Item.label =
      Table.names (doc.queryVariables runtime) ++ Table.names doc.generalFunctions := by
    rw [queryItems, List.map_append, memberItems_labels, List.map_map]
    rfl
  have hvariables := Document.distinct_queryVariables hdoc runtime
  have hgeneral := Document.distinct_generalFunctions hdoc
  rw [DistinctLabels, hlabels, List.nodup_append']
  constructor
  · rintro ⟨_, _, hdisjoint⟩
    exact hdisjoint
  · intro hdisjoint
    exact ⟨hvariables, hgeneral, hdisjoint⟩

theorem distinctLabels_chainItems {chain : Chain} (hchain : chain ≠ ⟨.query, []⟩)
    (text : List Char) (runtime : Option String) :
    DistinctLabels (chainItems doc text chain runtime) := by
  obtain ⟨space, names⟩ := chain
  cases space with
  | query =>
    have hnames : names.map String.ofList ≠ [] := by
      intro hnone
      rw [List.map_eq_nil_iff.mp hnone] at hchain
      exact hchain rfl
    exact distinctLabels_queryItems doc hnames runtime
  | math =>
    simp only [chainItems]
    split
    · exact distinctLabels_memberItems (Document.distinct_mathFunctions hdoc) "0"
    · exact List.nodup_nil
  | temp => exact distinctLabels_usedItems text .temp .variable "Temp"
  | «variable» => exact distinctLabels_usedItems text .variable .field "Variable"
  | function => exact distinctLabels_declaredItems text
  | context => exact distinctLabels_contextItems hdoc runtime

end WellFormed

/-! ## Offers at a position -/

/-- The cursor stands right behind the bare word for queries and its dot. -/
def AtQueryRoot (text : List Char) (line column : Int) : Prop :=
  typesAnnotation (upTo column (lineAt text line)) = false ∧
    chainBefore? (upTo column (lineAt text line)) = some ⟨.query, []⟩

/-- No name is offered twice at a position, with one exception: behind the bare word for queries a
query variable and a general function may have the same name, and then both are offered. -/
theorem distinctLabels_complete_iff {doc : Document} (hdoc : doc.WellFormed) (text : List Char)
    (line column : Int) (runtime : Option String) :
    DistinctLabels (complete (some doc) text line column runtime) ↔
      (AtQueryRoot text line column → ∀ name ∈ Table.names (doc.queryVariables runtime),
        name ∉ Table.names doc.generalFunctions) := by
  by_cases hmode : typesAnnotation (upTo column (lineAt text line)) = true
  · have hroot : ¬AtQueryRoot text line column := by
      rintro ⟨hnone, _⟩
      rw [hmode] at hnone
      cases hnone
    simp only [complete, hmode, if_true, hroot, distinctLabels_runtimeItems hdoc, false_imp_iff]
  · rw [Bool.not_eq_true] at hmode
    cases hchain : chainBefore? (upTo column (lineAt text line)) with
    | none =>
      simp [complete, hmode, hchain, AtQueryRoot, distinctLabels_bareItems]
    | some chain =>
      have hoffers : complete (some doc) text line column runtime =
          chainItems doc text chain runtime := by
        simp only [complete, hmode, hchain, Bool.false_eq_true, if_false]
      rw [hoffers]
      by_cases hroot : chain = ⟨.query, []⟩
      · have hat : AtQueryRoot text line column := ⟨hmode, by rw [hchain, hroot]⟩
        rw [hroot, forall_prop_of_true hat]
        exact distinctLabels_queryItems_nil_iff hdoc runtime
      · have hnot : ¬AtQueryRoot text line column := by
          rintro ⟨_, hother⟩
          rw [hchain] at hother
          exact hroot (Option.some.inj hother)
        exact iff_of_true (distinctLabels_chainItems hdoc hroot text runtime) fun hat =>
          absurd hat hnot

/-- One of the runtimes has a query variable that is named like a general function. -/
def chattingRuntimes : Document where
  functionSets := [("generalFunctions", { members := [("print", .value {} none)] })]
  runtimes := [("npc", { query := [("level", .value {} (some "Number"))] }),
    ("event:CHAT", { query := [("print", .value {} none)] })]

theorem wellFormed_chattingRuntimes : chattingRuntimes.WellFormed := by
  have hvalue : ∀ tag : Option String, tag ≠ some "Struct" → (Member.value {} tag).WellFormed :=
    fun _ htag => .value htag
  refine ⟨.nil _, ⟨by decide, ?_⟩, ⟨by decide, ?_⟩, .nil _⟩
  · simp only [chattingRuntimes, List.mem_singleton, forall_eq]
    exact ⟨by decide, by simp [hvalue]⟩
  · simp only [chattingRuntimes, List.mem_cons, List.not_mem_nil, or_false, forall_eq_or_imp,
      forall_eq]
    exact ⟨⟨by decide, by simp [hvalue]⟩, ⟨by decide, by simp [hvalue]⟩⟩

/-- The cursor stands behind the bare word for queries, in the runtime where no name is shared. -/
theorem distinctLabels_complete_iff_npc :
    chattingRuntimes.WellFormed ∧
      DistinctLabels (complete (some chattingRuntimes) "t.x = q.".toList 0 8 (some "npc")) := by
  refine ⟨wellFormed_chattingRuntimes, ?_⟩
  rw [distinctLabels_complete_iff wellFormed_chattingRuntimes]
  intro _
  decide

theorem print_offered_twice :
    chattingRuntimes.WellFormed ∧
      ¬DistinctLabels (complete (some chattingRuntimes) "q.".toList 0 2 (some "event:CHAT")) :=
  ⟨wellFormed_chattingRuntimes, by decide +kernel⟩

end Assist

end MolangAssist
