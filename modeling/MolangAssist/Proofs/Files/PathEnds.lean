import Mathlib.Data.List.Infix
import MolangAssist.Proofs.Files.Paths

/-!
# How paths end

Written with slashes, a path can end in the text of another one although its parts do not: the
first part is compared by its characters, and a longer name may end alike. All further parts are
compared as a whole.
-/
namespace MolangAssist.Files

open Text

/-- A place ends in some parts, or in parts of which the first has a longer name. -/
def EndsAlike : (relative place : List String) → Prop
  | [], _ => True
  | name :: rest, place => ∃ first ∈ place, first :: rest <:+ place ∧ name.toList <:+ first.toList

instance : (relative place : List String) → Decidable (EndsAlike relative place)
  | [], _ => inferInstanceAs (Decidable True)
  | name :: rest, place => inferInstanceAs
      (Decidable (∃ first ∈ place, first :: rest <:+ place ∧ name.toList <:+ first.toList))

theorem endsAlike_of_suffix {relative place : List String} (hends : relative <:+ place) :
    EndsAlike relative place := by
  cases relative with
  | nil => trivial
  | cons name rest =>
    exact ⟨name, hends.subset List.mem_cons_self, hends, List.suffix_refl _⟩

theorem EndsAlike.getLast? {name : String} {rest place : List String}
    (halike : EndsAlike (name :: rest) place) (hrest : rest ≠ []) :
    place.getLast? = (name :: rest).getLast? := by
  obtain ⟨first, _, ⟨lead, hplace⟩, _⟩ := halike
  rw [← hplace, List.append_cons, List.getLast?_append_of_ne_nil _ hrest,
    ← List.singleton_append, List.getLast?_append_of_ne_nil _ hrest]

theorem append_intercalate (lead : List Char) (name : List Char) (rest : List (List Char)) :
    ['/'].intercalate ((lead ++ name) :: rest) = lead ++ ['/'].intercalate (name :: rest) := by
  cases rest with
  | nil => simp
  | cons next rest => simp [List.intercalate_cons_cons]

theorem suffix_intercalate_append (lead : List (List Char)) (piece : List Char)
    (rest : List (List Char)) :
    ['/'].intercalate (piece :: rest) <:+ ['/'].intercalate (lead ++ piece :: rest) := by
  by_cases hlead : lead = []
  · rw [hlead, List.nil_append]
  · rw [intercalate_append_cons '/' hlead]
    exact (List.suffix_cons _ _).trans (List.suffix_append _ _)

theorem partsOf_append_cons (first second : List Char) :
    partsOf (first ++ '/' :: second) = partsOf first ++ partsOf ('/' :: second) := by
  have hsecond : splitAt '/' ('/' :: second) = [] :: splitAt '/' second := by
    rw [splitAt, if_pos rfl]
  rw [partsOf, partsOf, partsOf, splitAt_append_cons, hsecond]
  simp

namespace Path

variable {path : Path} {name : String} {rest : List String}

theorem toList_toString_here (name : String) (rest : List String) :
    (⟨.here, name :: rest⟩ : Path).toString.toList =
      ['/'].intercalate (name.toList :: rest.map String.toList) := by
  simp [toString, Anchor.text]

theorem isPart_longer {last : List Char} (hlast : '/' ∉ last)
    (hname : name ≠ "" ∧ name ≠ "." ∧ '/' ∉ name.toList) :
    String.ofList (last ++ name.toList) ≠ "" ∧ String.ofList (last ++ name.toList) ≠ "." ∧
      '/' ∉ (String.ofList (last ++ name.toList)).toList := by
  obtain ⟨hempty, hhere, hslash⟩ := hname
  have hchars : name.toList ≠ [] := String.toList_eq_nil_iff.not.mpr hempty
  refine ⟨?_, ?_, ?_⟩
  · intro hblank
    exact hchars (List.append_eq_nil_iff.mp (String.ofList_eq_empty_iff.mp hblank)).2
  · intro hdot
    have hlonger : last ++ name.toList = ['.'] := by
      simpa using congrArg String.toList hdot
    rcases List.append_eq_singleton_iff.mp hlonger with ⟨_, hsame⟩ | ⟨_, hnone⟩
    · exact hhere (String.toList_inj.mp hsame)
    · exact hchars hnone
  · rw [String.toList_ofList, List.mem_append, not_or]
    exact ⟨hlast, hslash⟩

variable (habsolute : path.isAbsolute = true)

include habsolute

/-- Before the text of a name at the end of an absolute path stands a slash. -/
theorem slash_mem_before (hrelative : Proper ⟨.here, name :: rest⟩) {before : List Char}
    (htext : before ++ ['/'].intercalate (name.toList :: rest.map String.toList) =
      path.toString.toList) : '/' ∈ before := by
  obtain ⟨hempty, _, hslash⟩ := hrelative name List.mem_cons_self
  have hhead := head?_toString habsolute
  rw [← htext] at hhead
  cases before with
  | nil =>
    have hchars : name.toList ≠ [] := String.toList_eq_nil_iff.not.mpr hempty
    rw [List.nil_append, ← List.append_nil name.toList, append_intercalate,
      List.head?_append_of_ne_nil _ hchars] at hhead
    exact absurd (List.mem_of_head? hhead) hslash
  | cons c cs =>
    rw [List.cons_append, List.head?_cons, Option.some.injEq] at hhead
    rw [hhead]
    exact List.mem_cons_self

theorem endsAlike_of_suffix_toString (hproper : path.Proper)
    (hrelative : Proper ⟨.here, name :: rest⟩)
    (hends : (⟨.here, name :: rest⟩ : Path).toString.toList <:+ path.toString.toList) :
    EndsAlike (name :: rest) path.parts := by
  rw [toList_toString_here] at hends
  obtain ⟨before, htext⟩ := hends
  -- Behind the last slash before the text, the first name is completed.
  obtain ⟨front, hfront⟩ := exists_eq_append_lastPiece
    (slash_mem_before habsolute hrelative htext)
  have hlast := not_mem_lastPiece '/' before
  generalize lastPiece '/' before = last at hfront hlast
  have hcompleted : Proper ⟨.root, String.ofList (last ++ name.toList) :: rest⟩ := by
    intro part hpart
    rcases List.mem_cons.mp hpart with rfl | hpart
    · exact isPart_longer hlast (hrelative name List.mem_cons_self)
    · exact hrelative part (List.mem_cons_of_mem _ hpart)
  have hparts : path.parts = partsOf front ++ String.ofList (last ++ name.toList) :: rest := by
    have hread := partsOf_toString rfl hcompleted
    rw [toList_toString rfl] at hread
    rw [← partsOf_toString habsolute hproper, ← htext, hfront, List.append_assoc,
      List.cons_append, partsOf_append_cons, ← append_intercalate]
    congr 1
    simpa [Anchor.text] using hread
  rw [hparts]
  exact ⟨_, by simp, List.suffix_append _ _, last, by simp⟩

theorem suffix_toString_of_endsAlike (halike : EndsAlike (name :: rest) path.parts) :
    (⟨.here, name :: rest⟩ : Path).toString.toList <:+ path.toString.toList := by
  obtain ⟨first, _, ⟨lead, hparts⟩, last, hfirst⟩ := halike
  have hname : ['/'].intercalate (name.toList :: rest.map String.toList) <:+
      ['/'].intercalate (first.toList :: rest.map String.toList) := by
    rw [← hfirst, append_intercalate]
    exact List.suffix_append _ _
  have hlead := suffix_intercalate_append (lead.map String.toList) first.toList
    (rest.map String.toList)
  rw [toList_toString_here, toList_toString habsolute, ← hparts, List.map_append, List.map_cons]
  exact (hname.trans hlead).trans (List.suffix_append _ _)

/-- The text of a path ends in that of a relative one exactly if its parts end alike. -/
theorem suffix_toString_iff (hproper : path.Proper)
    (hrelative : Proper ⟨.here, name :: rest⟩) :
    (⟨.here, name :: rest⟩ : Path).toString.toList <:+ path.toString.toList ↔
      EndsAlike (name :: rest) path.parts :=
  ⟨endsAlike_of_suffix_toString habsolute hproper hrelative,
    suffix_toString_of_endsAlike habsolute⟩

end Path

end MolangAssist.Files
