import MolangAssist.Proofs.Script.WrittenChain
import MolangAssist.Proofs.Text.Hits
import MolangAssist.Proofs.Text.Readers
import MolangAssist.Script.Declarations

/-!
# Calls and declarations in a line

Two calls on a line never touch, because a call ends in a character of a word and none starts
right behind such a character. So a column touches at most one call.
-/
namespace MolangAssist.Script

open Text

/-! ## What is read -/

/-- A use is a word, a dot and the longest name behind it, with no word going on before. -/
theorem use_eq_some {forms : List (List Char)} {before : Option Char} {s name rest : List Char}
    (hread : use forms before s = some (name, rest)) :
    ∃ form ∈ forms, s = (form ++ ['.'] ++ name) ++ rest ∧ isName name = true ∧
      (∀ c ∈ rest.head?, isWordChar c = false) ∧ before.any isWordChar = false := by
  rw [use] at hread
  by_cases hbefore : before.any isWordChar = true
  · rw [if_pos hbefore] at hread
    cases hread
  · rw [if_neg hbefore] at hread
    obtain ⟨form, hform, hfound⟩ := List.exists_of_findSome?_eq_some hread
    obtain ⟨behind, hbehind, hname⟩ := Option.bind_eq_some_iff.mp hfound
    obtain ⟨hsplit, hvalid, hrest⟩ := name?_eq_some_iff.mp hname
    refine ⟨form, hform, ?_, hvalid, hrest, by simpa using hbefore⟩
    rw [after?_eq_some_iff.mp hbehind, hsplit, List.append_assoc (form ++ ['.'])]

theorem use_consumes (forms : List (List Char)) : (use forms).Consumes := by
  intro before s name rest hread
  obtain ⟨form, _, hsplit, _⟩ := use_eq_some hread
  exact ⟨_, by simp, hsplit⟩

/-- What is read as a use ends in a character of a word, behind which no use starts. -/
theorem use_parted (forms : List (List Char)) : (use forms).Parted := by
  intro before used rest name _ hread s
  obtain ⟨form, _, hsplit, hname, _⟩ := use_eq_some hread
  have hused : used = form ++ ['.'] ++ name := List.append_cancel_right hsplit
  obtain ⟨c, hlast⟩ : ∃ c, name.getLast? = some c := by
    cases name with
    | nil => cases hname
    | cons first rest => exact ⟨_, List.getLast?_eq_some_getLast (List.cons_ne_nil _ _)⟩
  have hword : isWordChar c = true := isWordChar_of_isName hname c (List.mem_of_getLast? hlast)
  have hend : used.getLast? = some c := by
    rw [hused, List.getLast?_append, hlast]
    rfl
  rw [hend, use, if_pos (by simpa using hword)]

theorem exists_skipBlanks (s : List Char) : ∃ blanks, s = blanks ++ skipBlanks s :=
  ⟨s.takeWhile isBlank, (List.takeWhile_append_dropWhile).symm⟩

theorem declarationOf_consumes (name : List Char) : (declarationOf name).Consumes := by
  intro before s value rest hread
  simp only [declarationOf, declarationOpening?, Option.bind_eq_bind, Option.bind_eq_some_iff,
    after?_eq_some_iff] at hread
  obtain ⟨opened, ⟨first, rfl, second, hsecond, hthird⟩, fourth, hfourth, hlast⟩ := hread
  obtain ⟨blanks, hblanks⟩ := exists_skipBlanks first
  obtain ⟨blanks', hblanks'⟩ := exists_skipBlanks second
  cases hlast
  refine ⟨['f', 'n'] ++ blanks ++ ['('] ++ blanks' ++ ['\''] ++ (name ++ ['\'']), by simp, ?_⟩
  rw [hblanks, hsecond, hblanks', hthird, hfourth]
  simp

/-! ## The call at a column -/

theorem find?_of_parted {α : Type} {hits : List (Hit α)}
    (hparted : hits.Pairwise fun first second => first.stop < second.start) {hit : Hit α}
    (hhit : hit ∈ hits) {column : Int} (hfrom : hit.start ≤ column) (hto : column ≤ hit.stop) :
    hits.find? (fun hit => (hit.start : Int) ≤ column && column ≤ hit.stop) = some hit := by
  induction hits with
  | nil => cases hhit
  | cons first rest ih =>
    obtain ⟨hfirst, hrest⟩ := List.pairwise_cons.mp hparted
    rcases List.mem_cons.mp hhit with rfl | hhit
    · rw [List.find?_cons_of_pos]
      simp [hfrom, hto]
    · have hbefore := hfirst hit hhit
      rw [List.find?_cons_of_neg]
      · exact ih hrest hhit
      · simp only [Bool.and_eq_true, decide_eq_true_eq]
        omega

/-- On every column that a call touches, it is the call that is found. -/
theorem callAt?_of_hit {line : List Char} {hit : Hit (List Char)}
    (hhit : hit ∈ scan (use (formsOf Space.function.short)) line) {column : Int}
    (hfrom : hit.start ≤ column) (hto : column ≤ hit.stop) :
    callAt? line column = some hit.value := by
  have hparted : (scan (use (formsOf Space.function.short)) line).Pairwise _ :=
    scanFrom_parted (use_consumes _) (use_parted _) 0 none line
  rw [callAt?, find?_of_parted hparted hhit hfrom hto, Option.map_some]

end MolangAssist.Script
