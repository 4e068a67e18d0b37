import MolangAssist.Assist.Completion
import MolangAssist.Proofs.Script.RuntimeSources
import MolangAssist.Proofs.Script.WrittenChain

/-!
# Completion behind a chain on a line

A chain that stands at the start of a line is never taken for an annotation, whatever space it
belongs to, and what is offered behind its last dot is what may follow it.
-/
namespace MolangAssist

open Assist Schema Script Text

/-- Members are offered under their names. -/
theorem Assist.memberItems_labels (members : Members) (rank : String) :
    (memberItems members rank).map Item.label = members.map Prod.fst := by
  rw [memberItems, List.map_map]
  rfl

theorem Script.typesAnnotation_of_not_mem {line : List Char} (hline : '/' ∉ line) :
    typesAnnotation line = false := by
  have hrefused : ∀ before tail, tail <:+ line → openAnnotation before tail = none := by
    intro before tail htail
    have hslashes : after? ['/', '/'] tail = none := by
      rw [after?_eq_none_iff]
      rintro rest rfl
      exact hline (htail.subset (by simp))
    simp [hslashes, openAnnotation, annotationOpening?]
  unfold typesAnnotation
  rw [firstHit?, scan, scanFrom_of_refused hrefused]
  rfl

/-- A chain as it is typed, up to the dot behind which the next name goes. -/
def Script.typedChain (word : List Char) (names : List (List Char)) : List Char :=
  dotted (word :: names) ++ ['.']

section TypedChain

variable {word : List Char} {names : List (List Char)} {space : Space}
  (hword : Space.ofWord? word = some space) (hnames : ∀ name ∈ names, isName name = true)

include hword hnames

theorem Script.not_mem_typedChain {c : Char} (hc : isChainChar c = false) :
    c ∉ typedChain word names := by
  intro hmem
  have hchain : isChainChar c = true := by
    rcases List.mem_append.mp hmem with hmem | hmem
    · exact isChainChar_dotted (isWordChar_of_pieces hword hnames) c hmem
    · rw [List.mem_singleton.mp hmem]
      rfl
  rw [hc] at hchain
  cases hchain

theorem Assist.complete_typedChain (doc : Document) (runtime : Option String)
    {above below : List Char} (habove : ∀ c ∈ above.getLast?, c = '\n') :
    complete (some doc) (above ++ typedChain word names ++ below) (above.count '\n' : Nat)
        ((typedChain word names).length : Nat) runtime =
      chainItems doc (above ++ typedChain word names ++ below) ⟨space, names⟩ runtime := by
  have hfeed : '\n' ∉ typedChain word names := not_mem_typedChain hword hnames rfl
  have hslash : '/' ∉ typedChain word names := not_mem_typedChain hword hnames rfl
  have hcount : above.count '\n' = (above ++ typedChain word names).count '\n' := by
    rw [List.count_append, List.count_eq_zero.mpr hfeed, Nat.add_zero]
  have hlead : lastPiece '\n' (above ++ typedChain word names) = typedChain word names := by
    rw [lastPiece_append _ hfeed, lastPiece_of_getLast? habove, List.nil_append]
  have hbefore : upTo ((typedChain word names).length : Nat)
      (lineAt (above ++ typedChain word names ++ below) (above.count '\n' : Nat)) =
        typedChain word names := by
    rw [hcount, lineAt_append, hlead, upTo, if_pos (Int.natCast_nonneg _), Int.toNat_natCast,
      List.take_left]
  have hchain : chainBefore? (typedChain word names) = some ⟨space, names⟩ := by
    rw [typedChain, ← List.nil_append (dotted _)]
    exact chainBefore?_dotted (by simp) hword hnames
  simp only [complete, hbefore, typesAnnotation_of_not_mem hslash, hchain]
  rfl

end TypedChain

end MolangAssist
