import MolangAssist.Assist.Completion
import MolangAssist.Assist.Definition
import MolangAssist.Proofs.Script.DeclaredNames

/-!
# Offered and declared functions

Behind the word for functions, completion offers the names that the script declares, and a call
leads to the declarations of its name in the script. What is offered is declared. What is declared
is offered, unless every declaration of it is swallowed by an earlier one that was left open.
-/
namespace MolangAssist.Assist

open Schema Script Text

theorem declarationTargets_ne_nil_iff {text name : List Char} {uri : String} :
    declarationTargets text uri name ≠ [] ↔ ∃ offset, offset ∈ declarationOffsets text name := by
  rw [declarationTargets, ne_eq, List.map_eq_nil_iff, List.eq_nil_iff_forall_not_mem]
  exact not_forall_not

theorem labels_declaredItems (text : List Char) :
    (declaredItems text).map Item.label = (declaredNames text).map String.ofList := by
  rw [declaredItems, List.map_map]
  rfl

section FunctionChain

variable {text : List Char} {line column : Int} {chain : Chain}
  (hmode : typesAnnotation (upTo column (lineAt text line)) = false)
  (hchain : chainBefore? (upTo column (lineAt text line)) = some chain)
  (hspace : chain.space = .function)

include hmode hchain hspace

/-- Behind the word for functions, the names that the script declares are offered. -/
theorem labels_complete_function (doc : Document) (runtime : Option String) :
    (complete (some doc) text line column runtime).map Item.label =
      (declaredNames text).map String.ofList := by
  simp only [complete, hmode, hchain, chainItems, hspace, Bool.false_eq_true, if_false,
    labels_declaredItems]

/-- A function is offered exactly if the script declares it at a place that no other declaration
swallows. So it is enough that no offer ends in the opening of a declaration. -/
theorem offered_iff_declared (doc : Document) (runtime : Option String) {name : List Char}
    (hname : isName name = true) (uri : String) :
    let labels := (complete (some doc) text line column runtime).map Item.label
    let offered := String.ofList name ∈ labels
    let declared := declarationTargets text uri name ≠ []
    (offered → declared) ∧
    ((offered ↔ declared) ↔
      (declared → ∃ offset ∈ declarationOffsets text name, ¬Swallowed text offset)) ∧
    ((∀ label ∈ labels, ∀ opening, IsOpening opening → ¬opening <:+ label.toList) →
      (offered ↔ declared)) := by
  intro labels offered declared
  have hlabels : labels = (declaredNames text).map String.ofList :=
    labels_complete_function hmode hchain hspace doc runtime
  have hoffered : offered ↔ ∃ offset ∈ declarationOffsets text name, ¬Swallowed text offset := by
    rw [← mem_declaredNames_iff hname]
    change String.ofList name ∈ labels ↔ _
    rw [hlabels]
    exact List.mem_map_of_injective fun _ _ => String.ofList_injective
  have hdeclared : declared ↔ ∃ offset, offset ∈ declarationOffsets text name :=
    declarationTargets_ne_nil_iff
  have hsound : offered → declared := by
    rw [hoffered, hdeclared]
    rintro ⟨offset, hoffset, _⟩
    exact ⟨offset, hoffset⟩
  refine ⟨hsound, ?_, ?_⟩
  · rw [← hoffered]
    exact ⟨Iff.mpr, fun hcomplete => ⟨hsound, hcomplete⟩⟩
  · intro hclosed
    refine ⟨hsound, ?_⟩
    rw [hoffered, hdeclared]
    rintro ⟨offset, hoffset⟩
    refine ⟨offset, hoffset, ?_⟩
    intro hswallowed
    obtain ⟨listed, hlisted, opening, hopening, hsuffix⟩ :=
      exists_listed_of_swallowed hname hoffset hswallowed
    have hlabel : String.ofList listed ∈ labels := by
      rw [hlabels]
      exact List.mem_map_of_mem hlisted
    exact hclosed _ hlabel opening hopening (by simpa using hsuffix)

end FunctionChain

/-- A declaration is left open on the first line. The function behind it is declared again. -/
def reopenedText : List Char := "fn('heal\nfn('reward', 1);\nfn('reward', 2);\nf.".toList

/-- One of two declarations is swallowed, and the function is offered for the other. -/
theorem offered_iff_declared_reopened :
    "reward" ∈ (complete (some {}) reopenedText 3 2 none).map Item.label ∧
      declarationTargets reopenedText "u:" "reward".toList = [⟨"u:", 1, 0⟩, ⟨"u:", 2, 0⟩] := by
  have htargets : declarationTargets reopenedText "u:" "reward".toList =
      [⟨"u:", 1, 0⟩, ⟨"u:", 2, 0⟩] := by decide +kernel
  have hfree : ∃ offset ∈ declarationOffsets reopenedText "reward".toList,
      ¬Swallowed reopenedText offset := ⟨26, by decide +kernel, by decide +kernel⟩
  have hmode : typesAnnotation (upTo 2 (lineAt reopenedText 3)) = false := by decide +kernel
  have hchain : chainBefore? (upTo 2 (lineAt reopenedText 3)) = some ⟨.function, []⟩ := by
    decide +kernel
  have hname : isName "reward".toList = true := by decide +kernel
  obtain ⟨_, hexact, _⟩ := offered_iff_declared hmode hchain rfl {} none hname "u:"
  have hoffered := (hexact.mpr fun _ => hfree).mpr (by rw [htargets]; simp)
  exact ⟨by simpa using hoffered, htargets⟩

/-- A declaration is left open on the first line, and the one behind it is the only one. -/
def unfinishedText : List Char := "fn('heal\nfn('reward', () -> 1);\nf.".toList

theorem declared_not_offered_unfinished :
    (complete (some {}) unfinishedText 2 2 none).map Item.label = ["heal\nfn("] ∧
      declarationTargets unfinishedText "u:" "reward".toList = [⟨"u:", 1, 0⟩] := by
  decide +kernel

end MolangAssist.Assist
