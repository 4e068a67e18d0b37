import MolangAssist.Proofs.Text.Positions

/-!
# Offsets and positions

A line of a text stands between what is above and what is below it. Its first character has as
offset the length of what is above, so an offset and its position determine each other, and going
on in a line or to a later one never leads back.
-/
namespace MolangAssist.Text

/-! ## Lines in a text -/

/-- A line of a text, with what stands above and below it. The line feeds around it belong to
those. -/
structure LineOf (text : List Char) (number : Nat) (above line below : List Char) : Prop where
  text_eq : text = above ++ (line ++ below)
  number_eq : above.count '\n' = number
  above_ends : ∀ c ∈ above.getLast?, c = '\n'
  below_starts : ∀ c ∈ below.head?, c = '\n'
  no_feed : '\n' ∉ line

theorem count_intercalate {separator : Char} {pieces : List (List Char)} (hpieces : pieces ≠ [])
    (hfree : ∀ piece ∈ pieces, separator ∉ piece) :
    ([separator].intercalate pieces).count separator + 1 = pieces.length := by
  rw [← length_splitOn, List.splitOn_intercalate separator hfree hpieces]

/-- A separator stands behind each piece but the last. -/
theorem exists_intercalate_cons (separator : Char) (piece : List Char) (rest : List (List Char)) :
    ∃ below, [separator].intercalate (piece :: rest) = piece ++ below ∧
      ∀ c ∈ below.head?, c = separator := by
  cases rest with
  | nil => exact ⟨[], by simp⟩
  | cons next rest =>
    refine ⟨separator :: [separator].intercalate (next :: rest), ?_, ?_⟩
    · simp [List.intercalate_cons_cons]
    · rintro c ⟨⟩
      rfl

theorem exists_lineOf {text line : List Char} {number : Nat}
    (hline : (lines text)[number]? = some line) :
    ∃ above below, LineOf text number above line below := by
  obtain ⟨hnumber, hget⟩ := List.getElem?_eq_some_iff.mp hline
  have hfree : ∀ piece ∈ lines text, '\n' ∉ piece := fun _ => not_mem_of_mem_splitAt
  have hsplit :
      lines text = (lines text).take number ++ line :: (lines text).drop (number + 1) := by
    rw [← hget, List.getElem_cons_drop, List.take_append_drop]
  have hlength : ((lines text).take number).length = number := List.length_take_of_le hnumber.le
  have htext : ['\n'].intercalate (lines text) = text := intercalate_splitAt '\n' text
  generalize (lines text).take number = init at hsplit hlength
  generalize (lines text).drop (number + 1) = rest at hsplit
  rw [hsplit] at htext hfree
  obtain ⟨below, htail, hstarts⟩ := exists_intercalate_cons '\n' line rest
  have hfeed : '\n' ∉ line := hfree line (by simp)
  by_cases hinit : init = []
  · subst hinit
    refine ⟨[], below, ?_, hlength, by simp, hstarts, hfeed⟩
    rw [← htext, List.nil_append, htail, List.nil_append]
  · refine ⟨['\n'].intercalate init ++ ['\n'], below, ?_, ?_, ?_, hstarts, hfeed⟩
    · rw [← htext, intercalate_append_cons '\n' hinit, htail, List.append_assoc,
        List.singleton_append]
    · have hcount := count_intercalate hinit fun piece hpiece =>
        hfree piece (List.mem_append_left _ hpiece)
      rw [List.count_append, List.count_singleton_self, hcount, hlength]
    · rw [List.getLast?_concat]
      rintro c ⟨⟩
      rfl

namespace LineOf

variable {text above line below : List Char} {number : Nat}

theorem lines_getElem? (hline : LineOf text number above line below) :
    (lines text)[number]? = some line := by
  have hfeed : ∀ c ∈ line, (c != '\n') = true := by
    intro c hc
    rw [bne_iff_ne]
    rintro rfl
    exact hline.no_feed hc
  have hbelow : below.takeWhile (· != '\n') = [] := by
    cases below with
    | nil => rfl
    | cons c rest => simp [hline.below_starts c rfl]
  rw [hline.text_eq, ← hline.number_eq, lines_getElem?_append,
    lastPiece_of_getLast? hline.above_ends, List.takeWhile_append_of_pos hfeed, hbelow]
  simp

/-- The offset of a column of the line. -/
theorem offsetAt_column (hline : LineOf text number above line below) (column : Int) :
    offsetAt text number column = .ok (above.length + clamp column line.length) := by
  have hstart := offsetAt_append above (line ++ below) (Nat.zero_le _)
  rw [lastPiece_of_getLast? hline.above_ends, ← hline.text_eq, hline.number_eq,
    offsetAt_of_line hline.lines_getElem?] at hstart
  have habove : extent ((lines text).take number) = above.length := by
    simpa [clamp] using Except.ok.inj hstart
  rw [offsetAt_of_line hline.lines_getElem?, habove]

theorem positionAt_column (hline : LineOf text number above line below) {k : Nat}
    (hk : k ≤ line.length) :
    positionAt text (above.length + k : Nat) = (number, (k : Int)) := by
  have htaken : '\n' ∉ line.take k := fun hfeed => hline.no_feed (List.mem_of_mem_take hfeed)
  have hcut : text = (above ++ line.take k) ++ (line.drop k ++ below) := by
    rw [List.append_assoc, ← List.append_assoc (line.take k), List.take_append_drop]
    exact hline.text_eq
  have hlength : above.length + k = (above ++ line.take k).length := by
    rw [List.length_append, List.length_take_of_le hk]
  rw [hlength, hcut, positionAt_append, lastPiece_append _ htaken,
    lastPiece_of_getLast? hline.above_ends, List.count_append, hline.number_eq,
    List.count_eq_zero.mpr htaken, List.nil_append, List.length_take_of_le hk, Nat.add_zero]

/-- The line is what stands between the offsets of its ends. -/
theorem slice (hline : LineOf text number above line below) :
    (text.take (above.length + line.length)).drop above.length = line := by
  rw [hline.text_eq, ← List.append_assoc, ← List.length_append, List.take_left, List.drop_left]

end LineOf

/-! ## Offsets of later positions -/

theorem offsetAt_of_behind {text : List Char} {number : Nat}
    (hline : (lines text)[number]? = none) (column : Int) :
    offsetAt text number column = .ok text.length := by
  have hbehind : ((lines text).length : Int) ≤ number := by
    have hlength := List.getElem?_eq_none_iff.mp hline
    omega
  rw [offsetAt, if_pos hbehind]

theorem extent_append (above below : List (List Char)) :
    extent (above ++ below) = extent above + extent below := by
  induction above with
  | nil => simp [extent]
  | cons line above ih =>
    rw [List.cons_append, extent, extent, ih]
    omega

theorem extent_lines (text : List Char) : extent (lines text) = text.length + 1 := by
  rw [lines, splitAt_eq_splitOn, extent_splitOn]

theorem extent_le_of_prefix {first all : List (List Char)} (hfirst : first <+: all) :
    extent first ≤ extent all := by
  obtain ⟨rest, rfl⟩ := hfirst
  rw [extent_append]
  omega

theorem clamp_le (place : Int) (size : Nat) : clamp place size ≤ size := Nat.min_le_right _ _

theorem clamp_mono {place later : Int} (hlater : place ≤ later) (size : Nat) :
    clamp place size ≤ clamp later size := by
  simp only [clamp]
  omega

/-- No column leads behind the line feed at the end of its line. -/
theorem extent_take_add_clamp_lt {all : List (List Char)} {number : Nat} {line : List Char}
    (hline : all[number]? = some line) (column : Int) :
    extent (all.take number) + clamp column line.length < extent (all.take (number + 1)) := by
  have hcolumn := clamp_le column line.length
  rw [List.take_add_one, hline, extent_append]
  simp only [Option.toList_some, extent]
  omega

theorem exists_offsetAt (text : List Char) (number : Nat) (column : Int) :
    ∃ offset ≤ text.length, offsetAt text number column = .ok offset := by
  cases hline : (lines text)[number]? with
  | none => exact ⟨text.length, Nat.le_refl _, offsetAt_of_behind hline column⟩
  | some line =>
    have hinside := extent_take_add_clamp_lt hline column
    have hall := extent_le_of_prefix (List.take_prefix (number + 1) (lines text))
    rw [extent_lines] at hall
    exact ⟨_, by omega, offsetAt_of_line hline column⟩

theorem offsetAt_mono (text : List Char) {number later : Nat} {column column' : Int}
    (hlater : number < later ∨ number = later ∧ column ≤ column') :
    ∃ offset offset', offsetAt text number column = .ok offset ∧
      offsetAt text later column' = .ok offset' ∧ offset ≤ offset' := by
  obtain ⟨offset, hbound, hoffset⟩ := exists_offsetAt text number column
  cases hline' : (lines text)[later]? with
  | none => exact ⟨offset, text.length, hoffset, offsetAt_of_behind hline' column', hbound⟩
  | some line' =>
    refine ⟨offset, _, hoffset, offsetAt_of_line hline' column', ?_⟩
    rcases hlater with hlater | ⟨rfl, hcolumn⟩
    · have hshorter : number < (lines text).length :=
        hlater.trans (List.getElem?_eq_some_iff.mp hline').1
      have hline := List.getElem?_eq_getElem hshorter
      have hinside := extent_take_add_clamp_lt hline column
      have hnext : number + 1 ≤ later := hlater
      have hlines := extent_le_of_prefix (List.take_prefix_take_left (l := lines text) hnext)
      rw [offsetAt_of_line hline column] at hoffset
      cases hoffset
      omega
    · rw [offsetAt_of_line hline' column] at hoffset
      cases hoffset
      exact Nat.add_le_add_left (clamp_mono hcolumn _) _

/-- A later offset has a later position. -/
theorem positionAt_lt {text : List Char} {offset later : Nat} (hlater : offset < later)
    (hbound : later ≤ text.length) :
    (positionAt text offset).1 < (positionAt text later).1 ∨
      (positionAt text offset).1 = (positionAt text later).1 ∧
        (positionAt text offset).2 < (positionAt text later).2 := by
  by_contra hnot
  obtain ⟨column, hcolumn, hback⟩ := exists_column_of_offset (hlater.le.trans hbound)
  obtain ⟨column', hcolumn', hback'⟩ := exists_column_of_offset hbound
  rw [hcolumn, hcolumn'] at hnot
  -- Otherwise the position of the later offset would come first, and lead to a smaller offset.
  have hbefore : (positionAt text later).1 < (positionAt text offset).1 ∨
      (positionAt text later).1 = (positionAt text offset).1 ∧ (column' : Int) ≤ column := by
    omega
  obtain ⟨first, second, hfirst, hsecond, hle⟩ := offsetAt_mono text hbefore
  rw [hback'] at hfirst
  rw [hback] at hsecond
  cases hfirst
  cases hsecond
  omega

/-- An offset and its position determine each other. Every position has an offset in the text, and a
later position has no smaller one. A line is what stands between the offsets of its ends. -/
theorem offsets_positions_inverse (text : List Char) :
    (∀ offset : Nat, offset ≤ text.length →
      offsetAt text (positionAt text offset).1 (positionAt text offset).2 = .ok offset) ∧
    (∀ (number : Nat) (line : List Char), (lines text)[number]? = some line →
      ∀ column : Nat, column ≤ line.length → ∃ offset, offsetAt text number column = .ok offset ∧
        positionAt text offset = (number, (column : Int))) ∧
    (∀ (number : Nat) (column : Int),
      ∃ offset ≤ text.length, offsetAt text number column = .ok offset) ∧
    (∀ (number later : Nat) (column column' : Int),
      number < later ∨ number = later ∧ column ≤ column' →
      ∃ offset offset', offsetAt text number column = .ok offset ∧
        offsetAt text later column' = .ok offset' ∧ offset ≤ offset') ∧
    ∀ number : Nat, ∃ start stop, offsetAt text number 0 = .ok start ∧
      offsetAt text number (lineAt text number).length = .ok stop ∧
        (text.take stop).drop start = lineAt text number := by
  refine ⟨?_, ?_, exists_offsetAt text, fun _ _ _ _ => offsetAt_mono text, ?_⟩
  · intro offset hoffset
    obtain ⟨column, hcolumn, hback⟩ := exists_column_of_offset hoffset
    rw [hcolumn]
    exact hback
  · intro number line hline column hcolumn
    obtain ⟨above, below, hplace⟩ := exists_lineOf hline
    have hclamp : clamp column line.length = column := by
      rw [clamp, Int.toNat_natCast, Nat.min_eq_left hcolumn]
    refine ⟨_, hplace.offsetAt_column column, ?_⟩
    rw [hclamp]
    exact hplace.positionAt_column hcolumn
  · intro number
    cases hline : (lines text)[number]? with
    | none =>
      have hempty : lineAt text number = [] := by simp [lineAt, hline]
      refine ⟨_, _, offsetAt_of_behind hline _, offsetAt_of_behind hline _, ?_⟩
      rw [hempty, List.take_length, List.drop_length]
    | some line =>
      obtain ⟨above, below, hplace⟩ := exists_lineOf hline
      have hhere : lineAt text number = line := by simp [lineAt, hline]
      refine ⟨_, _, hplace.offsetAt_column _, hplace.offsetAt_column _, ?_⟩
      rw [hhere]
      simpa [clamp] using hplace.slice

/-- The third line of a text with an empty line before it and one behind it. -/
theorem offsets_positions_inverse_emptyLines :
    let text := "ab\n\ncd\n".toList
    offsetAt text (positionAt text 7).1 (positionAt text 7).2 = .ok 7 ∧
      (∃ offset, offsetAt text 2 2 = .ok offset ∧ positionAt text offset = (2, 2)) ∧
      (∃ offset offset', offsetAt text 0 99 = .ok offset ∧ offsetAt text 1 (-5) = .ok offset' ∧
        offset ≤ offset') ∧
      ∃ start stop, offsetAt text 2 0 = .ok start ∧ offsetAt text 2 2 = .ok stop ∧
        (text.take stop).drop start = "cd".toList := by
  intro text
  obtain ⟨hback, hthere, _, hmono, hslice⟩ := offsets_positions_inverse text
  exact ⟨hback 7 (by decide), hthere 2 "cd".toList (by decide) 2 (by decide),
    hmono 0 1 99 (-5) (.inl (by decide)), hslice 2⟩

end MolangAssist.Text
