import Mathlib.Data.List.Infix
import Mathlib.Data.List.TakeWhile
import MolangAssist.Text.Scan

/-!
# What readers accept

Each reader takes a text apart into what it read and what is left. The lemmas say which texts it
accepts, in terms of how they are put together.
-/
namespace MolangAssist.Text

/-! ## Occurrences of a word -/

theorem after?_eq_none_iff {word text : List Char} :
    after? word text = none ↔ ∀ rest, text ≠ word ++ rest := by
  simp only [Option.eq_none_iff_forall_ne_some, ne_eq, after?_eq_some_iff]

/-- The text behind a word is cut off at its first occurrence. -/
theorem afterFirst?_eq_some_iff {word text rest : List Char} :
    afterFirst? word text = some rest ↔
      ∃ lead, text = lead ++ (word ++ rest) ∧
        ∀ earlier later, text = earlier ++ (word ++ later) → lead.length ≤ earlier.length := by
  induction text with
  | nil =>
    rw [afterFirst?, after?_eq_some_iff]
    constructor
    · intro hword
      exact ⟨[], hword, by simp⟩
    · rintro ⟨lead, hsplit, _⟩
      simp_all
  | cons c cs ih =>
    rw [afterFirst?]
    cases hafter : after? word (c :: cs) with
    | some rest' =>
      have hsplit' := after?_eq_some_iff.mp hafter
      simp only [Option.some.injEq]
      constructor
      · rintro rfl
        exact ⟨[], hsplit', by simp⟩
      · rintro ⟨lead, hsplit, hfirst⟩
        have hlead : lead = [] := by
          have := hfirst [] rest' hsplit'
          exact List.length_eq_zero_iff.mp (by simpa using this)
        rw [hsplit', hlead, List.nil_append] at hsplit
        exact List.append_cancel_left hsplit
    | none =>
      have hmiss := after?_eq_none_iff.mp hafter
      simp only [ih]
      constructor
      · rintro ⟨lead, rfl, hfirst⟩
        refine ⟨c :: lead, rfl, ?_⟩
        intro earlier later hsplit
        cases earlier with
        | nil => exact absurd hsplit (hmiss later)
        | cons d earlier =>
          simp only [List.cons_append, List.cons.injEq] at hsplit
          simpa using hfirst earlier later hsplit.2
      · rintro ⟨lead, hsplit, hfirst⟩
        cases lead with
        | nil => exact absurd hsplit (hmiss rest)
        | cons d lead =>
          simp only [List.cons_append, List.cons.injEq] at hsplit
          obtain ⟨rfl, rfl⟩ := hsplit
          refine ⟨lead, rfl, ?_⟩
          intro earlier later hsplit
          simpa using hfirst (c :: earlier) later (by rw [hsplit, List.cons_append])

theorem isSome_after?_iff {word text : List Char} :
    (after? word text).isSome = true ↔ word <+: text := by
  rw [Option.isSome_iff_exists]
  simp only [after?_eq_some_iff, List.IsPrefix, @eq_comm _ text]

theorem occursIn_iff {word text : List Char} : occursIn word text = true ↔ word <:+: text := by
  rw [occursIn]
  induction text with
  | nil => rw [afterFirst?, isSome_after?_iff, List.prefix_nil, List.infix_nil]
  | cons c cs ih =>
    rw [afterFirst?, List.infix_cons_iff, ← ih, ← isSome_after?_iff]
    cases after? word (c :: cs) <;> simp

/-! ## Runs of characters -/

theorem span_eq_iff {p : Char → Bool} {s run rest : List Char} :
    s.takeWhile p = run ∧ s.dropWhile p = rest ↔
      s = run ++ rest ∧ (∀ c ∈ run, p c = true) ∧ ∀ c ∈ rest.head?, p c = false := by
  constructor
  · rintro ⟨rfl, rfl⟩
    refine ⟨List.takeWhile_append_dropWhile.symm, fun c => List.mem_takeWhile_imp, ?_⟩
    intro c hc
    have hnot := List.head?_dropWhile_not p s
    simp_all
  · rintro ⟨rfl, hrun, hrest⟩
    rw [List.takeWhile_append_of_pos hrun, List.dropWhile_append_of_pos hrun]
    cases rest with
    | nil => simp
    | cons c rest => simp [hrest c rfl]

theorem dropWhile_eq_iff {p : Char → Bool} {s rest : List Char} :
    s.dropWhile p = rest ↔
      ∃ run, s = run ++ rest ∧ (∀ c ∈ run, p c = true) ∧ ∀ c ∈ rest.head?, p c = false := by
  simp only [← span_eq_iff, exists_and_right, exists_eq', true_and]

/-- The piece of a text before a separator that stands in it. -/
theorem takeWhile_ne_iff {separator : Char} {s piece : List Char} :
    s.takeWhile (· != separator) = piece ∧ separator ∈ s ↔
      ∃ rest, s = piece ++ separator :: rest ∧ separator ∉ piece := by
  constructor
  · rintro ⟨hpiece, hmem⟩
    obtain ⟨hsplit, hbefore, hrest⟩ := span_eq_iff.mp ⟨hpiece, rfl⟩
    have hnot : separator ∉ piece := fun hin => by simpa using hbefore separator hin
    cases hdrop : s.dropWhile (· != separator) with
    | nil =>
      rw [hdrop, List.append_nil] at hsplit
      exact absurd (hsplit ▸ hmem) hnot
    | cons c rest =>
      have hc : c = separator := by simpa using hrest c (by rw [hdrop]; rfl)
      exact ⟨rest, by rw [hsplit, hdrop, hc], hnot⟩
  · rintro ⟨rest, rfl, hnot⟩
    refine ⟨?_, by simp⟩
    have hbefore : ∀ c ∈ piece, (c != separator) = true := by
      intro c hc
      simp only [bne_iff_ne]
      rintro rfl
      exact hnot hc
    rw [List.takeWhile_append_of_pos hbefore]
    simp

/-- What stands before the first separator is determined by the text. -/
theorem eq_of_append_separator {separator : Char} {first second rest rest' : List Char}
    (hfirst : separator ∉ first) (hsecond : separator ∉ second)
    (hsame : first ++ separator :: rest = second ++ separator :: rest') : first = second := by
  have hpiece := (takeWhile_ne_iff.mpr ⟨rest, rfl, hfirst⟩).1
  have hpiece' := (takeWhile_ne_iff.mpr ⟨rest', rfl, hsecond⟩).1
  rw [← hpiece, hsame, hpiece']

theorem after?_skipBlanks_eq_some_iff {mark : Char} (hmark : isBlank mark = false)
    {s rest : List Char} :
    after? [mark] (skipBlanks s) = some rest ↔
      ∃ blanks, s = blanks ++ mark :: rest ∧ ∀ c ∈ blanks, isBlank c = true := by
  rw [after?_eq_some_iff, skipBlanks, dropWhile_eq_iff]
  simp [hmark]

theorem quoteBody?_eq_some_iff {s body rest : List Char} :
    quoteBody? s = some (body, rest) ↔ s = body ++ '\'' :: rest ∧ body ≠ [] ∧ '\'' ∉ body := by
  constructor
  · intro hread
    cases htake : s.takeWhile (· != '\'') with
    | nil => simp [quoteBody?, htake] at hread
    | cons c cs =>
      cases hdrop : s.dropWhile (· != '\'') with
      | nil => simp [quoteBody?, htake, hdrop] at hread
      | cons quote rest' =>
        simp only [quoteBody?, htake, hdrop, Option.some.injEq, Prod.mk.injEq] at hread
        obtain ⟨rfl, rfl⟩ := hread
        obtain ⟨hsplit, hbody, hrest⟩ := span_eq_iff.mp ⟨htake, hdrop⟩
        have hquote : quote = '\'' := by simpa using hrest quote rfl
        rw [hquote] at hsplit
        refine ⟨hsplit, List.cons_ne_nil c cs, ?_⟩
        intro hmem
        simpa using hbody _ hmem
  · rintro ⟨hsplit, hbody, hquote⟩
    have hpassed : ∀ c ∈ body, (c != '\'') = true := by
      intro c hc
      simp only [bne_iff_ne]
      rintro rfl
      exact hquote hc
    obtain ⟨htake, hdrop⟩ := span_eq_iff.mpr ⟨hsplit, hpassed, by simp⟩
    obtain ⟨c, cs, rfl⟩ := List.exists_cons_of_ne_nil hbody
    simp only [quoteBody?, htake, hdrop]

/-- A name is read up to the first character that belongs to no word. -/
theorem name?_eq_some_iff {s name rest : List Char} :
    name? s = some (name, rest) ↔
      s = name ++ rest ∧ isName name = true ∧ ∀ c ∈ rest.head?, isWordChar c = false := by
  cases s with
  | nil =>
    constructor
    · rintro ⟨⟩
    · rintro ⟨hsplit, hname, _⟩
      obtain ⟨rfl, _⟩ := List.append_eq_nil_iff.mp hsplit.symm
      cases hname
  | cons c cs =>
    rw [name?]
    constructor
    · intro hread
      by_cases hc : isNameStart c = true
      · rw [if_pos hc] at hread
        cases hread
        obtain ⟨hsplit, hrun, hrest⟩ := span_eq_iff.mp ⟨(rfl : cs.takeWhile isWordChar = _), rfl⟩
        refine ⟨by rw [List.cons_append, ← hsplit], ?_, hrest⟩
        rw [isName, hc, Bool.true_and, List.all_eq_true]
        exact hrun
      · rw [if_neg hc] at hread
        cases hread
    · rintro ⟨hsplit, hname, hrest⟩
      cases name with
      | nil => cases hname
      | cons d name =>
        rw [isName, Bool.and_eq_true, List.all_eq_true] at hname
        obtain ⟨rfl, hcs⟩ := List.cons.inj hsplit
        obtain ⟨htake, hdrop⟩ := span_eq_iff.mpr ⟨hcs, hname.2, hrest⟩
        rw [if_pos hname.1, htake, hdrop]

theorem skipSomeBlanks?_eq_some_iff {s rest : List Char} :
    skipSomeBlanks? s = some rest ↔
      ∃ space, s = space ++ rest ∧ space ≠ [] ∧ (∀ c ∈ space, isBlank c = true) ∧
        ∀ c ∈ rest.head?, isBlank c = false := by
  cases s with
  | nil =>
    simp only [skipSomeBlanks?, reduceCtorEq, List.nil_eq, List.append_eq_nil_iff, false_iff]
    rintro ⟨space, ⟨rfl, _⟩, hspace, _⟩
    exact hspace rfl
  | cons c cs =>
    rw [skipSomeBlanks?]
    split
    · next hc =>
      rw [Option.some.injEq, skipBlanks, dropWhile_eq_iff]
      constructor
      · rintro ⟨run, rfl, hrun, hrest⟩
        exact ⟨c :: run, rfl, List.cons_ne_nil c run, by simpa [hc] using hrun, hrest⟩
      · rintro ⟨space, hsplit, hspace, hblank, hrest⟩
        obtain ⟨d, run, rfl⟩ := List.exists_cons_of_ne_nil hspace
        obtain ⟨rfl, rfl⟩ := List.cons.inj hsplit
        exact ⟨run, rfl, fun c hc => hblank c (List.mem_cons_of_mem _ hc), hrest⟩
    · next hc =>
      simp only [reduceCtorEq, false_iff]
      rintro ⟨space, hsplit, hspace, hblank, _⟩
      obtain ⟨d, run, rfl⟩ := List.exists_cons_of_ne_nil hspace
      obtain ⟨rfl, _⟩ := List.cons.inj hsplit
      exact hc (hblank c List.mem_cons_self)

end MolangAssist.Text
