import MolangAssist.Proofs.Text.Positions
import MolangAssist.Script.Chain

/-!
# Written chains

A chain is written as the word for its space and its names, with dots between them. The three
recognisers read such a text back: the one before the cursor, the one around the cursor and the
one for a whole text.
-/
namespace MolangAssist.Script

open Text

/-- Pieces with a dot between every two of them. -/
def dotted (pieces : List (List Char)) : List Char := ['.'].intercalate pieces

theorem dotted_snoc {pieces : List (List Char)} (hpieces : pieces ≠ []) (last : List Char) :
    dotted (pieces ++ [last]) = dotted pieces ++ '.' :: last := by
  induction pieces with
  | nil => exact absurd rfl hpieces
  | cons piece rest ih =>
    cases rest with
    | nil => simp [dotted, List.intercalate_cons_cons]
    | cons next rest =>
      have htail := ih (List.cons_ne_nil next rest)
      simp only [dotted, List.cons_append, List.intercalate_cons_cons] at htail ⊢
      rw [htail]
      simp

theorem splitAt_dotted {pieces : List (List Char)} (hpieces : pieces ≠ [])
    (hdots : ∀ piece ∈ pieces, '.' ∉ piece) : splitAt '.' (dotted pieces) = pieces := by
  rw [splitAt_eq_splitOn, dotted, List.splitOn_intercalate '.' hdots hpieces]

theorem isChainChar_dotted {pieces : List (List Char)}
    (hpieces : ∀ piece ∈ pieces, ∀ c ∈ piece, isWordChar c = true) :
    ∀ c ∈ dotted pieces, isChainChar c = true := by
  induction pieces with
  | nil => simp [dotted]
  | cons piece rest ih =>
    have hpiece : ∀ c ∈ piece, isChainChar c = true := by
      intro c hc
      simp [isChainChar, hpieces piece (by simp) c hc]
    have hrest := ih fun other hother => hpieces other (List.mem_cons_of_mem _ hother)
    cases rest with
    | nil => simpa [dotted] using hpiece
    | cons next rest =>
      intro c hc
      simp only [dotted, List.intercalate_cons_cons, List.mem_append, List.mem_singleton] at hc
      rcases hc with (hc | rfl) | hc
      · exact hpiece c hc
      · rfl
      · exact hrest c hc

/-! ## Characters of names and words -/

theorem not_dot_mem_of_word {s : List Char} (hs : ∀ c ∈ s, isWordChar c = true) : '.' ∉ s := by
  intro hdot
  have hword := hs '.' hdot
  revert hword
  decide

theorem isWordChar_of_isName {name : List Char} (hname : isName name = true) :
    ∀ c ∈ name, isWordChar c = true := by
  cases name with
  | nil => simp
  | cons first rest =>
    simp only [isName, Bool.and_eq_true, List.all_eq_true] at hname
    intro c hc
    rcases List.mem_cons.mp hc with rfl | hc
    · exact isWordChar_of_isNameStart hname.1
    · exact hname.2 c hc

theorem isWordChar_of_ofWord? {word : List Char} {space : Space}
    (hword : Space.ofWord? word = some space) : ∀ c ∈ word, isWordChar c = true := by
  have hform : space.short = word ∨ space.long? = some word := by
    have hfound := List.find?_some hword
    simpa using hfound
  rw [← List.all_eq_true]
  rcases hform with rfl | hlong
  · cases space <;> decide
  · cases space <;> simp only [Space.long?, Option.some.injEq, reduceCtorEq] at hlong <;>
      subst hlong <;> decide

theorem isWordChar_of_pieces {word : List Char} {names : List (List Char)} {space : Space}
    (hword : Space.ofWord? word = some space) (hnames : ∀ name ∈ names, isName name = true) :
    ∀ piece ∈ word :: names, ∀ c ∈ piece, isWordChar c = true := by
  intro piece hpiece
  rcases List.mem_cons.mp hpiece with rfl | hname
  · exact isWordChar_of_ofWord? hword
  · exact isWordChar_of_isName (hnames piece hname)

/-! ## Runs of characters -/

theorem takeWhile_run {p : Char → Bool} {run rest : List Char} (hrun : ∀ c ∈ run, p c = true)
    (hrest : ∀ c ∈ rest.head?, p c = false) : (run ++ rest).takeWhile p = run := by
  rw [List.takeWhile_append_of_pos hrun]
  cases rest with
  | nil => simp
  | cons c rest => simp [hrest c (by simp)]

theorem takeWhile_run_back {p : Char → Bool} {before run : List Char}
    (hbefore : ∀ c ∈ before.getLast?, p c = false) (hrun : ∀ c ∈ run, p c = true) :
    (before ++ run).reverse.takeWhile p = run.reverse := by
  rw [List.reverse_append]
  apply takeWhile_run
  · intro c hc
    exact hrun c (List.mem_reverse.mp hc)
  · rwa [List.head?_reverse]

theorem dropFinalNewline_of_getLast? {s : List Char} (hs : s.getLast? ≠ some '\n') :
    dropFinalNewline s = s := if_neg hs

/-! ## Recognisers -/

theorem firstChain?_word {word : List Char} {names : List (List Char)} {space : Space}
    (hword : Space.ofWord? word = some space) (hnames : ∀ name ∈ names, isName name = true) :
    firstChain? (word :: names) = some ⟨space, names⟩ := by
  have hall : names.all isName = true := List.all_eq_true.mpr hnames
  simp [firstChain?, hword, hall]

theorem chainBefore?_dotted {before word : List Char} {names : List (List Char)} {space : Space}
    (hbefore : ∀ c ∈ before.getLast?, isChainChar c = false)
    (hword : Space.ofWord? word = some space) (hnames : ∀ name ∈ names, isName name = true) :
    chainBefore? (before ++ dotted (word :: names) ++ ['.']) = some ⟨space, names⟩ := by
  have hpieces : ∀ piece ∈ word :: names ++ [[]], ∀ c ∈ piece, isWordChar c = true := by
    intro piece hpiece
    rcases List.mem_append.mp hpiece with hpiece | hempty
    · exact isWordChar_of_pieces hword hnames piece hpiece
    · simp [List.mem_singleton.mp hempty]
  -- The dot before the cursor opens a last piece that is still empty.
  have hwritten : before ++ dotted (word :: names) ++ ['.'] =
      before ++ dotted (word :: names ++ [[]]) := by
    rw [dotted_snoc (List.cons_ne_nil word names), List.append_assoc]
  have hend : (before ++ dotted (word :: names) ++ ['.']).getLast? ≠ some '\n' := by simp
  have hrun : dottedEnd (before ++ dotted (word :: names) ++ ['.']) =
      dotted (word :: names ++ [[]]) := by
    rw [hwritten, dottedEnd, takeWhile_run_back hbefore (isChainChar_dotted hpieces),
      List.reverse_reverse]
  have hsplit : splitAt '.' (dotted (word :: names ++ [[]])) = word :: names ++ [[]] :=
    splitAt_dotted (by simp) fun piece hpiece => not_dot_mem_of_word (hpieces piece hpiece)
  rw [chainBefore?, dropFinalNewline_of_getLast? hend, hrun, hsplit]
  simp only [List.getLast?_concat, List.dropLast_concat, if_true]
  exact firstChain?_word hword hnames

/-- The chain around a place is the run of chain characters before it and the rest of the word
that the place touches. -/
theorem chainAround?_run {before run tail after : List Char}
    (hbefore : ∀ c ∈ before.getLast?, isChainChar c = false)
    (hrun : ∀ c ∈ run, isChainChar c = true) (htail : ∀ c ∈ tail, isWordChar c = true)
    (hafter : ∀ c ∈ after.head?, isWordChar c = false) :
    chainAround? (before ++ run ++ (tail ++ after)) (before.length + run.length : Nat) =
      if (run ++ tail).contains '.' then some (run ++ tail) else none := by
  have hplace : clamp (before.length + run.length : Nat)
      (before ++ run ++ (tail ++ after)).length = before.length + run.length := by
    rw [clamp, Int.toNat_natCast]
    simp only [List.length_append]
    omega
  have hback : runBefore isChainChar (before ++ run ++ (tail ++ after))
      (before.length + run.length) = run.length := by
    rw [runBefore, ← List.length_append, List.take_left, takeWhile_run_back hbefore hrun,
      List.length_reverse]
  have hforward : ((before ++ run ++ (tail ++ after)).drop
      (before.length + run.length)).takeWhile isWordChar = tail := by
    rw [← List.length_append, List.drop_left, takeWhile_run htail hafter]
  have hcut : ((before ++ run ++ (tail ++ after)).drop before.length).take
      (run.length + tail.length) = run ++ tail := by
    rw [List.append_assoc, List.drop_left, ← List.append_assoc, ← List.length_append,
      List.take_left]
  simp only [chainAround?, hplace, hback, hforward, Nat.add_sub_cancel, hcut]

theorem splitChain?_dotted {word : List Char} {names : List (List Char)} {space : Space}
    (hword : Space.ofWord? word = some space) (hnames : ∀ name ∈ names, isName name = true)
    (hnonempty : names ≠ []) : splitChain? (dotted (word :: names)) = some ⟨space, names⟩ := by
  have hpieces := isWordChar_of_pieces hword hnames
  have hend : (dotted (word :: names)).getLast? ≠ some '\n' := by
    intro hfeed
    have hchain := isChainChar_dotted hpieces '\n' (List.mem_of_getLast? hfeed)
    revert hchain
    decide
  have hsplit : splitAt '.' (dotted (word :: names)) = word :: names :=
    splitAt_dotted (by simp) fun piece hpiece => not_dot_mem_of_word (hpieces piece hpiece)
  obtain ⟨name, rest, rfl⟩ := List.exists_cons_of_ne_nil hnonempty
  have hall : (name :: rest).all isName = true := List.all_eq_true.mpr hnames
  rw [splitChain?, dropFinalNewline_of_getLast? hend, hsplit]
  simp [hall, hword]

end MolangAssist.Script
