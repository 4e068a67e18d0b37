import MolangAssist.Assist.Hover
import MolangAssist.Proofs.Script.ChainStarts
import MolangAssist.Proofs.Text.LineOffsets
import MolangAssist.Schema.Bundled

/-!
# Hover on a word

A chain is looked for around an offset of the whole text, a keyword around a column of its line, and
the way back passes dots while the way forward does not. Still all columns of a word, both ends
included, show the same: the chain up to the end of that word, or the word itself.
-/
namespace MolangAssist.Assist

open Schema Script Text

/-- A word on a line of a text, between what stands before and behind it on the line. It goes as far
as it can to both sides. -/
structure WordOn (text : List Char) (number : Nat) (left word right : List Char) : Prop where
  line_eq : (lines text)[number]? = some (left ++ word ++ right)
  word_ne_nil : word ≠ []
  word_valid : ∀ c ∈ word, isWordChar c = true
  left_apart : ∀ c ∈ left.getLast?, isWordChar c = false
  right_apart : ∀ c ∈ right.head?, isWordChar c = false

/-- The longest dotted text around a word, cut at both ends of the word. -/
structure RunAround (text apart lead word tail after : List Char) : Prop where
  text_eq : text = apart ++ (lead ++ word ++ tail) ++ after
  run_valid : ∀ c ∈ lead ++ word ++ tail, isChainChar c = true
  apart_ends : ∀ c ∈ apart.getLast?, isChainChar c = false
  after_starts : ∀ c ∈ after.head?, isChainChar c = false

/-- What is shown for the dotted text around a place, or else for the word there. -/
def shownFor (doc : Document) (runtime : Option String) (around : Option (List Char))
    (word : List Char) : Option String :=
  match around with
  | none => Table.get? keywordDocs (String.ofList word)
  | some dots => (splitChain? dots).bind (chainDoc? doc · runtime)

theorem hover?_eq {text : List Char} {line column : Int} {offset : Nat}
    (hoffset : offsetAt text line column = .ok offset) (doc : Document)
    (runtime : Option String) :
    hover? (some doc) text line column runtime =
      .ok (shownFor doc runtime (chainAround? text offset)
        (wordAt (lineAt text line) column)) := by
  simp only [hover?, hoffset, shownFor]
  cases chainAround? text offset with
  | none => rfl
  | some dots =>
    simp only
    cases splitChain? dots <;> rfl

/-! ## Pieces around a word -/

/-- Between dots, a word is a piece of its own. -/
theorem exists_pieces_around {lead word tail : List Char} (hlead : ∀ c ∈ lead.getLast?, c = '.')
    (hword : '.' ∉ word) (htail : ∀ c ∈ tail.head?, c = '.') :
    ∃ init rest, splitAt '.' (lead ++ word ++ tail) = init ++ word :: rest ∧
      lead ++ word = dotted (init ++ [word]) := by
  have hrest : ∃ rest, splitAt '.' (word ++ tail) = word :: rest := by
    cases tail with
    | nil => exact ⟨[], by rw [List.append_nil, splitAt_of_not_mem hword]⟩
    | cons c tail =>
      cases htail c rfl
      exact ⟨splitAt '.' tail, by rw [splitAt_append_cons, splitAt_of_not_mem hword]; rfl⟩
  obtain ⟨rest, hrest⟩ := hrest
  cases hlast : lead.getLast? with
  | none =>
    rw [List.getLast?_eq_none_iff] at hlast
    subst hlast
    exact ⟨[], rest, hrest, by simp [dotted]⟩
  | some c =>
    cases hlead c hlast
    obtain ⟨first, rfl⟩ := List.getLast?_eq_some_iff.mp hlast
    refine ⟨splitAt '.' first, rest, ?_, ?_⟩
    · rw [List.append_assoc, List.append_assoc, List.singleton_append, splitAt_append_cons, hrest]
    · rw [dotted_snoc (splitAt_ne_nil '.' first), dotted, intercalate_splitAt, List.append_assoc,
        List.singleton_append]

theorem eq_dot_of_isChainChar {c : Char} (hchain : isChainChar c = true)
    (hword : isWordChar c = false) : c = '.' := by
  simpa [isChainChar, hword] using hchain

/-- The dotted text around a word meets it at dots only. -/
theorem exists_runAround {before word behind : List Char} (hword : ∀ c ∈ word, isWordChar c = true)
    (hbefore : ∀ c ∈ before.getLast?, isWordChar c = false)
    (hbehind : ∀ c ∈ behind.head?, isWordChar c = false) :
    ∃ apart lead tail after, RunAround (before ++ (word ++ behind)) apart lead word tail after ∧
      before.length = apart.length + lead.length ∧
      (∀ c ∈ lead.getLast?, c = '.') ∧ ∀ c ∈ tail.head?, c = '.' := by
  obtain ⟨apart, hcut, hapart⟩ := exists_eq_append_dottedEnd before
  have hlead : ∀ c ∈ dottedEnd before, isChainChar c = true := isChainChar_of_mem_dottedEnd
  have hspan := List.takeWhile_append_dropWhile (p := isChainChar) (l := behind)
  have htail : ∀ c ∈ behind.takeWhile isChainChar, isChainChar c = true :=
    fun _ => List.mem_takeWhile_imp
  have hafter := List.head?_dropWhile_not isChainChar behind
  generalize dottedEnd before = lead at hcut hlead
  refine ⟨apart, lead, behind.takeWhile isChainChar, behind.dropWhile isChainChar,
    ⟨?_, ?_, hapart, ?_⟩, ?_, ?_, ?_⟩
  · rw [hcut]
    simp only [List.append_assoc, hspan]
  · intro c hc
    simp only [List.mem_append] at hc
    rcases hc with (hc | hc) | hc
    · exact hlead c hc
    · simp [isChainChar, hword c hc]
    · exact htail c hc
  · intro c hc
    rw [Option.mem_def] at hc
    simpa [hc] using hafter
  · rw [hcut, List.length_append]
  · intro c hc
    refine eq_dot_of_isChainChar (hlead c (List.mem_of_getLast? hc)) (hbefore c ?_)
    rw [hcut, List.getLast?_append, hc]
    rfl
  · intro c hc
    refine eq_dot_of_isChainChar (htail c (List.mem_of_head? hc)) (hbehind c ?_)
    rw [List.head?_takeWhile] at hc
    exact (Option.filter_eq_some_iff.mp hc).1

namespace WordOn

variable {text left word right : List Char} {number : Nat}

theorem wordAt_column (hword : WordOn text number left word right) {k : Nat}
    (hk : k ≤ word.length) :
    wordAt (left ++ word ++ right) (left.length + k : Nat) = word := by
  have htaken : ∀ c ∈ word.take k, isWordChar c = true :=
    fun c hc => hword.word_valid c (List.mem_of_mem_take hc)
  have hplace : clamp (left.length + k : Nat) (left ++ word ++ right).length = left.length + k := by
    rw [clamp, Int.toNat_natCast]
    simp only [List.length_append]
    omega
  have htake : (left ++ word ++ right).take (left.length + k) = left ++ word.take k := by
    rw [List.append_assoc, List.take_length_add_append, List.take_append_of_le_length hk]
  have hback : runBefore isWordChar (left ++ word ++ right) (left.length + k) = k := by
    rw [runBefore, htake, takeWhile_run_back hword.left_apart htaken, List.length_reverse,
      List.length_take_of_le hk]
  simp only [wordAt, hplace, hback, Nat.add_sub_cancel]
  rw [List.append_assoc, List.drop_left, takeWhile_run hword.word_valid hword.right_apart]

/-- The place of the word in the text: no word goes on into it from either side, be it across a line
feed, and its columns have the offsets that follow what stands before it. -/
theorem exists_place (hword : WordOn text number left word right) :
    ∃ before behind, text = before ++ (word ++ behind) ∧
      (∀ c ∈ before.getLast?, isWordChar c = false) ∧
      (∀ c ∈ behind.head?, isWordChar c = false) ∧
      ∀ k ≤ word.length,
        offsetAt text number (left.length + k : Nat) = .ok (before.length + k) := by
  obtain ⟨above, below, hline⟩ := exists_lineOf hword.line_eq
  have hfeed : isWordChar '\n' = false := by decide
  refine ⟨above ++ left, right ++ below, ?_, ?_, ?_, ?_⟩
  · rw [hline.text_eq]
    simp only [List.append_assoc]
  · intro c hc
    rw [List.getLast?_append, Option.mem_def, Option.or_eq_some_iff] at hc
    rcases hc with hleft | ⟨_, habove⟩
    · exact hword.left_apart c hleft
    · rw [hline.above_ends c habove]
      exact hfeed
  · intro c hc
    rw [List.head?_append, Option.mem_def, Option.or_eq_some_iff] at hc
    rcases hc with hright | ⟨_, hbelow⟩
    · exact hword.right_apart c hright
    · rw [hline.below_starts c hbelow]
      exact hfeed
  · intro k hk
    have hclamp :
        clamp (left.length + k : Nat) (left ++ word ++ right).length = left.length + k := by
      rw [clamp, Int.toNat_natCast]
      simp only [List.length_append]
      omega
    rw [hline.offsetAt_column, hclamp, List.length_append, Nat.add_assoc]

end WordOn

/-- At every place of the word, both ends included, the dotted text is read up to its end. -/
theorem RunAround.chainAround?_inside {text apart lead word tail after : List Char}
    (hrun : RunAround text apart lead word tail after) (hword : ∀ c ∈ word, isWordChar c = true)
    (htail : ∀ c ∈ tail.head?, c = '.') {k : Nat} (hk : k ≤ word.length) :
    chainAround? text (apart.length + lead.length + k : Nat) =
      if '.' ∈ lead ++ word then some (lead ++ word) else none := by
  have hback : ∀ c ∈ lead ++ word.take k, isChainChar c = true := by
    intro c hc
    apply hrun.run_valid
    rcases List.mem_append.mp hc with hc | hc
    · simp [hc]
    · simp [List.mem_of_mem_take hc]
  have hforward : ∀ c ∈ word.drop k, isWordChar c = true :=
    fun c hc => hword c (List.mem_of_mem_drop hc)
  have hstop : ∀ c ∈ (tail ++ after).head?, isWordChar c = false := by
    intro c hc
    rw [List.head?_append, Option.mem_def, Option.or_eq_some_iff] at hc
    rcases hc with hdot | ⟨_, hafter⟩
    · rw [htail c hdot]
      rfl
    · have hchain := hrun.after_starts c hafter
      rw [isChainChar, Bool.or_eq_false_iff] at hchain
      exact hchain.1
  have haround := chainAround?_run hrun.apart_ends hback hforward hstop
  have hwhole : lead ++ word.take k ++ word.drop k = lead ++ word := by
    rw [List.append_assoc, List.take_append_drop]
  have htext : text = apart ++ (lead ++ word.take k) ++ (word.drop k ++ (tail ++ after)) := by
    rw [hrun.text_eq, ← hwhole]
    simp only [List.append_assoc]
  have hplace : apart.length + lead.length + k = apart.length + (lead ++ word.take k).length := by
    rw [List.length_append, List.length_take_of_le hk, Nat.add_assoc]
  rw [hplace, htext, haround, hwhole]
  simp only [List.contains_iff_mem]

/-- All columns of a word, both ends included, show the same. The chain that is read there starts
with the dotted text around the word and ends with the word: of the pieces of the dotted text, those
behind the word are left out. -/
theorem hover?_same_on_word {text left word right : List Char} {number : Nat}
    (hword : WordOn text number left word right) :
    (∀ (doc : Document) (runtime : Option String), ∃ shown, ∀ column : Nat,
      left.length ≤ column → column ≤ left.length + word.length →
        hover? (some doc) text number column runtime = .ok shown) ∧
    ∃ apart lead tail after, RunAround text apart lead word tail after ∧
      offsetAt text number left.length = .ok (apart.length + lead.length) ∧
      (∀ column : Nat, left.length ≤ column → column ≤ left.length + word.length →
        ∃ offset, offsetAt text number column = .ok offset ∧
          chainAround? text offset =
            if '.' ∈ lead ++ word then some (lead ++ word) else none) ∧
      ∃ init rest, splitAt '.' (lead ++ word ++ tail) = init ++ word :: rest ∧
        lead ++ word = dotted (init ++ [word]) := by
  obtain ⟨before, behind, rfl, hbefore, hbehind, hoffset⟩ := hword.exists_place
  obtain ⟨apart, lead, tail, after, hrun, hlength, hlead, htail⟩ :=
    exists_runAround hword.word_valid hbefore hbehind
  have hline : lineAt (before ++ (word ++ behind)) number = left ++ word ++ right := by
    simp [lineAt, hword.line_eq]
  have hdots := not_dot_mem_of_word hword.word_valid
  refine ⟨fun doc runtime => ?_, apart, lead, tail, after, hrun, ?_, ?_,
    exists_pieces_around hlead hdots htail⟩
  · refine ⟨shownFor doc runtime
      (if '.' ∈ lead ++ word then some (lead ++ word) else none) word, ?_⟩
    intro column hfrom hto
    obtain ⟨k, rfl⟩ := Nat.exists_eq_add_of_le hfrom
    have hk : k ≤ word.length := by omega
    rw [hover?_eq (hoffset k hk), hlength, hrun.chainAround?_inside hword.word_valid htail hk,
      hline, hword.wordAt_column hk]
  · rw [← hlength]
    exact hoffset 0 (Nat.zero_le _)
  · intro column hfrom hto
    obtain ⟨k, rfl⟩ := Nat.exists_eq_add_of_le hfrom
    have hk : k ≤ word.length := by omega
    refine ⟨_, hoffset k hk, ?_⟩
    rw [hlength]
    exact hrun.chainAround?_inside hword.word_valid htail hk

/-- A name in the middle of a chain, on the second line, shows the same at both ends. -/
theorem hover?_same_on_word_inner :
    let text := "t.a = 1;\nt.b = q.pokemon.species;".toList
    (∃ shown, hover? (some bundled) text 1 8 none = .ok shown ∧
      hover? (some bundled) text 1 15 none = .ok shown) ∧
    ∃ offset, offsetAt text 1 15 = .ok offset ∧
      chainAround? text offset = some "q.pokemon".toList := by
  intro text
  have hchars : "pokemon".toList.all isWordChar = true := by decide
  have hword : WordOn text 1 "t.b = q.".toList "pokemon".toList ".species;".toList := by
    refine ⟨by decide +kernel, by decide, List.all_eq_true.mp hchars, ?_, ?_⟩
    · have hlast : "t.b = q.".toList.getLast? = some '.' := by decide
      rw [hlast]
      rintro c ⟨⟩
      rfl
    · rintro c ⟨⟩
      rfl
  obtain ⟨hsame, _⟩ := hover?_same_on_word hword
  obtain ⟨shown, hshown⟩ := hsame bundled none
  refine ⟨⟨shown, hshown 8 (by decide) (by decide), hshown 15 (by decide) (by decide)⟩, 24, ?_, ?_⟩
  · decide +kernel
  · decide +kernel

end MolangAssist.Assist
