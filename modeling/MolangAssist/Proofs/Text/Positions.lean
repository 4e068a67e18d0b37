import Mathlib.Data.List.TakeWhile
import MolangAssist.Text.Lines

/-!
# Places in a text

A place of a text cuts it in two. The line of the place is the number of line feeds before it,
and its column the distance from the last of them. `lineAt` and `offsetAt` are computed here for
every place of every text.
-/
namespace MolangAssist.Text

/-! ## Pieces -/

theorem splitAt_eq_splitOn (separator : Char) (s : List Char) :
    splitAt separator s = s.splitOn separator := by
  induction s with
  | nil => rfl
  | cons c cs ih =>
    rw [splitAt, List.splitOn_cons_eq_if_modifyHead, ih]
    by_cases hc : c = separator
    · simp [hc]
    · cases hpieces : cs.splitOn separator with
      | nil => exact absurd hpieces (List.splitOn_ne_nil separator cs)
      | cons piece pieces => simp [hc]

theorem splitAt_append_cons (separator : Char) (first second : List Char) :
    splitAt separator (first ++ separator :: second) =
      splitAt separator first ++ splitAt separator second := by
  simp only [splitAt_eq_splitOn, List.splitOn_append_cons_self]

theorem splitAt_of_not_mem {separator : Char} {s : List Char} (hs : separator ∉ s) :
    splitAt separator s = [s] := by
  have hpieces : ∀ piece ∈ [s], separator ∉ piece := by simpa using hs
  have hsplit := List.splitOn_intercalate separator hpieces (List.cons_ne_nil s [])
  rw [splitAt_eq_splitOn]
  simpa using hsplit

theorem length_splitOn (separator : Char) (s : List Char) :
    (s.splitOn separator).length = s.count separator + 1 := by
  induction s with
  | nil => rfl
  | cons c cs ih =>
    rw [List.splitOn_cons_eq_if_modifyHead]
    by_cases hc : c = separator
    · simp [hc, ih]
    · simp [hc, ih]

theorem extent_splitOn (separator : Char) (s : List Char) :
    extent (s.splitOn separator) = s.length + 1 := by
  induction s with
  | nil => rfl
  | cons c cs ih =>
    rw [List.splitOn_cons_eq_if_modifyHead]
    by_cases hc : c = separator
    · simp [hc, extent, ih]
      omega
    · cases hpieces : cs.splitOn separator with
      | nil => exact absurd hpieces (List.splitOn_ne_nil separator cs)
      | cons piece pieces =>
        rw [hpieces] at ih
        simp [hc, extent] at ih ⊢
        omega

theorem splitOn_getElem?_zero (separator : Char) (s : List Char) :
    (s.splitOn separator)[0]? = some (s.takeWhile (· != separator)) := by
  induction s with
  | nil => rfl
  | cons c cs ih =>
    rw [List.splitOn_cons_eq_if_modifyHead]
    by_cases hc : c = separator
    · simp [hc]
    · cases hpieces : cs.splitOn separator with
      | nil => exact absurd hpieces (List.splitOn_ne_nil separator cs)
      | cons piece pieces =>
        rw [hpieces] at ih
        simpa [hc] using ih

theorem not_mem_of_mem_splitAt {separator : Char} {s piece : List Char}
    (hpiece : piece ∈ splitAt separator s) : separator ∉ piece := by
  induction s generalizing piece with
  | nil =>
    rw [splitAt, List.mem_singleton] at hpiece
    simp [hpiece]
  | cons c cs ih =>
    rw [splitAt] at hpiece
    by_cases hc : c = separator
    · rw [if_pos hc, List.mem_cons] at hpiece
      rcases hpiece with rfl | hpiece
      · simp
      · exact ih hpiece
    · rw [if_neg hc] at hpiece
      cases hpieces : splitAt separator cs with
      | nil => exact absurd hpieces (splitAt_ne_nil separator cs)
      | cons first pieces =>
        have hfirst : separator ∉ first := ih (by rw [hpieces]; exact List.mem_cons_self)
        simp only [hpieces, List.mem_cons] at hpiece ih
        rcases hpiece with rfl | hpiece
        · simp [Ne.symm hc, hfirst]
        · exact ih (.inr hpiece)

theorem mem_intercalate_iff {c separator : Char} (hseparator : c ≠ separator)
    (pieces : List (List Char)) :
    c ∈ [separator].intercalate pieces ↔ ∃ piece ∈ pieces, c ∈ piece := by
  induction pieces with
  | nil => simp
  | cons piece rest ih =>
    cases rest with
    | nil => simp
    | cons next rest =>
      rw [List.intercalate_cons_cons, List.mem_append, List.mem_append, ih, List.mem_singleton,
        or_iff_left hseparator]
      simp

theorem mem_iff_mem_splitAt {c separator : Char} (hseparator : c ≠ separator) (s : List Char) :
    c ∈ s ↔ ∃ piece ∈ splitAt separator s, c ∈ piece := by
  rw [splitAt_eq_splitOn, ← mem_intercalate_iff hseparator, List.intercalate_splitOn]

theorem intercalate_append_cons (separator : Char) {lead : List (List Char)} (hlead : lead ≠ [])
    (piece : List Char) (rest : List (List Char)) :
    [separator].intercalate (lead ++ piece :: rest) =
      [separator].intercalate lead ++ separator :: [separator].intercalate (piece :: rest) := by
  induction lead with
  | nil => exact absurd rfl hlead
  | cons first lead ih =>
    cases lead with
    | nil => simp [List.intercalate_cons_cons]
    | cons next lead =>
      have htail := ih (List.cons_ne_nil next lead)
      simp only [List.cons_append, List.intercalate_cons_cons] at htail ⊢
      rw [htail]
      simp

theorem lastPiece_append {separator : Char} (first : List Char) {second : List Char}
    (hsecond : separator ∉ second) :
    lastPiece separator (first ++ second) = lastPiece separator first ++ second := by
  rw [lastPiece, List.reverse_append, List.takeWhile_append_of_pos, List.reverse_append,
    List.reverse_reverse, lastPiece]
  intro c hc
  simp only [bne_iff_ne]
  rintro rfl
  exact hsecond (List.mem_reverse.mp hc)

theorem lastPiece_of_not_mem {separator : Char} {s : List Char} (hs : separator ∉ s) :
    lastPiece separator s = s := lastPiece_append [] hs

theorem lastPiece_separator_append {separator : Char} (first : List Char) {second : List Char}
    (hsecond : separator ∉ second) :
    lastPiece separator (first ++ separator :: second) = second := by
  rw [List.append_cons, lastPiece_append _ hsecond]
  simp [lastPiece]

theorem lastPiece_of_getLast? {separator : Char} {s : List Char}
    (hs : ∀ c ∈ s.getLast?, c = separator) : lastPiece separator s = [] := by
  rw [lastPiece, List.reverse_eq_nil_iff, List.takeWhile_eq_nil_iff]
  intro hpos hfirst
  have hlast : s.reverse[0] ∈ s.getLast? := by
    rw [← List.head?_reverse, List.head?_eq_getElem?, List.getElem?_eq_getElem hpos]
    rfl
  simp [hs _ hlast] at hfirst

theorem not_mem_lastPiece (separator : Char) (s : List Char) :
    separator ∉ lastPiece separator s := by
  intro hmem
  have hpassed := List.mem_takeWhile_imp (List.mem_reverse.mp hmem)
  simp at hpassed

theorem exists_eq_append_lastPiece {separator : Char} {s : List Char} (hs : separator ∈ s) :
    ∃ first, s = first ++ separator :: lastPiece separator s := by
  obtain ⟨second, first, hsplit, hsecond⟩ :=
    List.eq_append_cons_of_mem (List.mem_reverse.mpr hs)
  have heq : s = first.reverse ++ separator :: second.reverse := by
    rw [← List.reverse_reverse s, hsplit]
    simp
  have hlast : lastPiece separator s = second.reverse := by
    rw [heq]
    exact lastPiece_separator_append _ (by simpa using hsecond)
  exact ⟨first.reverse, by rw [hlast]; exact heq⟩

/-- What is added to a text without a separator goes to its last piece. -/
theorem exists_splitAt_append {separator : Char} (s : List Char) {added : List Char}
    (hadded : separator ∉ added) :
    ∃ init, splitAt separator s = init ++ [lastPiece separator s] ∧
      splitAt separator (s ++ added) = init ++ [lastPiece separator s ++ added] := by
  have hlonger : separator ∉ lastPiece separator s ++ added := by
    rw [List.mem_append, not_or]
    exact ⟨not_mem_lastPiece separator s, hadded⟩
  have hlast := splitAt_of_not_mem (not_mem_lastPiece separator s)
  by_cases hs : separator ∈ s
  · obtain ⟨first, hsplit⟩ := exists_eq_append_lastPiece hs
    generalize lastPiece separator s = last at hsplit hlast hlonger ⊢
    refine ⟨splitAt separator first, ?_, ?_⟩
    · rw [hsplit, splitAt_append_cons, hlast]
    · rw [hsplit, List.append_assoc, List.cons_append, splitAt_append_cons,
        splitAt_of_not_mem hlonger]
  · rw [lastPiece_of_not_mem hs] at hlast hlonger ⊢
    exact ⟨[], hlast, splitAt_of_not_mem hlonger⟩

/-! ## Lines -/

/-- The whole lines above a place: as many as there are line feeds before it. Behind them the
line of the place begins. -/
theorem exists_lines_above (before : List Char) :
    ∃ above : List (List Char), above.length = before.count '\n' ∧
      extent above + (lastPiece '\n' before).length = before.length ∧
      ∀ rest, lines (before ++ rest) = above ++ lines (lastPiece '\n' before ++ rest) := by
  by_cases hfeed : '\n' ∈ before
  · obtain ⟨first, hbefore⟩ := exists_eq_append_lastPiece hfeed
    have hcount := List.count_eq_zero.mpr (not_mem_lastPiece '\n' before)
    generalize lastPiece '\n' before = lead at hbefore hcount ⊢
    subst hbefore
    refine ⟨lines first, ?_, ?_, ?_⟩
    · simp [lines, splitAt_eq_splitOn, length_splitOn, hcount]
    · rw [lines, splitAt_eq_splitOn, extent_splitOn, List.length_append, List.length_cons]
      omega
    · intro rest
      simp [lines, splitAt_eq_splitOn, List.splitOn_append_cons_self]
  · refine ⟨[], ?_, ?_, ?_⟩
    · rw [List.count_eq_zero.mpr hfeed, List.length_nil]
    · simp [extent, lastPiece_of_not_mem hfeed]
    · simp [lastPiece_of_not_mem hfeed]

theorem takeWhile_lastPiece_append (separator : Char) (before rest : List Char) :
    (lastPiece separator before ++ rest).takeWhile (· != separator) =
      lastPiece separator before ++ rest.takeWhile (· != separator) := by
  apply List.takeWhile_append_of_pos
  intro c hc
  simp only [bne_iff_ne]
  rintro rfl
  exact not_mem_lastPiece _ before hc

/-- The line of a place: what stands before it since the last line feed, and what follows up to
the next one. -/
theorem lines_getElem?_append (before rest : List Char) :
    (lines (before ++ rest))[before.count '\n']? =
      some (lastPiece '\n' before ++ rest.takeWhile (· != '\n')) := by
  obtain ⟨above, hlength, _, hlines⟩ := exists_lines_above before
  rw [hlines, ← hlength, List.getElem?_append_right (Nat.le_refl _), Nat.sub_self, lines,
    splitAt_eq_splitOn, splitOn_getElem?_zero, takeWhile_lastPiece_append]

theorem lineAt_append (before rest : List Char) :
    lineAt (before ++ rest) (before.count '\n' : Nat) =
      lastPiece '\n' before ++ rest.takeWhile (· != '\n') := by
  rw [lineAt, if_pos (Int.natCast_nonneg _), Int.toNat_natCast, lines_getElem?_append,
    Option.getD_some]

/-- The offset of a position on a line of the text. -/
theorem offsetAt_of_line {text line : List Char} {number : Nat}
    (hline : (lines text)[number]? = some line) (column : Int) :
    offsetAt text number column =
      .ok (extent ((lines text).take number) + clamp column line.length) := by
  have hnumber : number < (lines text).length := (List.getElem?_eq_some_iff.mp hline).1
  have hlast : ¬((lines text).length : Int) ≤ number := by omega
  have hindex : ¬(number : Int) < 0 := by omega
  have hmachine : ¬(number : Int) < minMachineInt := by
    simp only [minMachineInt, Int64.toInt_minValue]
    omega
  simp only [offsetAt, if_neg hlast, if_pos (Int.natCast_nonneg number), if_neg hmachine,
    if_neg hindex, Int.toNat_natCast, hline, upTo, Option.getD_some]

/-- The offset of a place that lies up to `k` characters further on the same line. -/
theorem offsetAt_append (before rest : List Char) {k : Nat}
    (hk : k ≤ (rest.takeWhile (· != '\n')).length) :
    offsetAt (before ++ rest) (before.count '\n' : Nat)
      ((lastPiece '\n' before).length + k : Nat) = .ok (before.length + k) := by
  obtain ⟨above, hlength, hextent, hlines⟩ := exists_lines_above before
  have habove : (lines (before ++ rest)).take (before.count '\n') = above := by
    rw [hlines, ← hlength, List.take_left]
  have hcolumn : clamp ((lastPiece '\n' before).length + k : Nat)
      (lastPiece '\n' before ++ rest.takeWhile (· != '\n')).length =
        (lastPiece '\n' before).length + k := by
    rw [clamp, Int.toNat_natCast, List.length_append]
    omega
  rw [offsetAt_of_line (lines_getElem?_append before rest), habove, hcolumn]
  congr 1
  omega

/-- The position of a place: as many lines as there are line feeds before it, and the distance
from the last of them. -/
theorem positionAt_append (before rest : List Char) :
    positionAt (before ++ rest) (before.length : Nat) =
      (before.count '\n', ((lastPiece '\n' before).length : Int)) := by
  have hlast := (List.takeWhile_sublist (l := before.reverse) (· != '\n')).length_le
  rw [List.length_reverse] at hlast
  simp only [positionAt, upTo, if_pos (Int.natCast_nonneg _), Int.toNat_natCast, List.take_left,
    lastPiece, List.length_reverse, Prod.mk.injEq, true_and]
  omega

/-- The position of an offset leads back to it. -/
theorem exists_column_of_offset {text : List Char} {offset : Nat} (hoffset : offset ≤ text.length) :
    ∃ column : Nat, (positionAt text offset).2 = column ∧
      offsetAt text (positionAt text offset).1 column = .ok offset := by
  have hlength : (text.take offset).length = offset := List.length_take_of_le hoffset
  have hposition := positionAt_append (text.take offset) (text.drop offset)
  have hback := offsetAt_append (text.take offset) (text.drop offset) (Nat.zero_le _)
  rw [List.take_append_drop, hlength] at hposition hback
  rw [hposition]
  exact ⟨_, rfl, hback⟩

end MolangAssist.Text
