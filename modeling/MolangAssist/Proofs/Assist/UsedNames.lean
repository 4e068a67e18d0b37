import MolangAssist.Assist.Completion
import MolangAssist.Proofs.Script.CallSites
import MolangAssist.Proofs.Script.ChainGrammar

/-!
# Names used behind a word

Behind the words for temporary and for other variables, completion offers the names that the text
uses there. The scan for uses passes over a use only if it starts inside an earlier one, and then a
dot stands before it: a use is made of characters of words and one dot, and no use starts right
behind a character of a word.
-/
namespace MolangAssist

open Text

/-! ## Values of hits -/

namespace Text

variable {α : Type}

/-- Every value of some hits, once, in the order of the hits that first have it. -/
structure ListsValues (values : List α) (hits : List (Hit α)) : Prop where
  nodup : values.Nodup
  mem_iff : ∀ value, value ∈ values ↔ ∃ hit ∈ hits, hit.value = value
  ordered : values.Pairwise fun value other => ∃ hit ∈ hits, hit.value = value ∧
    ∀ later ∈ hits, later.value = other → hit.start < later.start

theorem firstOccurrences_ordered [DecidableEq α] {hits : List (Hit α)}
    (hincrease : (hits.map Hit.start).Pairwise (· < ·)) :
    (firstOccurrences (hits.map Hit.value)).Pairwise fun value other =>
      ∃ hit ∈ hits, hit.value = value ∧
        ∀ later ∈ hits, later.value = other → hit.start < later.start := by
  induction hits with
  | nil => exact List.Pairwise.nil
  | cons first rest ih =>
    rw [List.map_cons, List.pairwise_cons, List.forall_mem_map] at hincrease
    obtain ⟨hfirst, hrest⟩ := hincrease
    rw [List.map_cons, firstOccurrences, List.pairwise_cons]
    constructor
    · intro other hother
      have hne : other ≠ first.value := by simpa using (List.mem_filter.mp hother).2
      refine ⟨first, List.mem_cons_self, rfl, ?_⟩
      rintro later hlater rfl
      rcases List.mem_cons.mp hlater with rfl | hlater
      · exact absurd rfl hne
      · exact hfirst later hlater
    · refine ((ih hrest).filter _).imp_of_mem ?_
      rintro value other _ hother ⟨hit, hhit, hvalue, hbefore⟩
      have hne : other ≠ first.value := by simpa using (List.mem_filter.mp hother).2
      refine ⟨hit, List.mem_cons_of_mem _ hhit, hvalue, ?_⟩
      rintro later hlater rfl
      rcases List.mem_cons.mp hlater with rfl | hlater
      · exact absurd rfl hne
      · exact hbefore later hlater rfl

theorem listsValues_firstOccurrences [DecidableEq α] {hits : List (Hit α)}
    (hincrease : (hits.map Hit.start).Pairwise (· < ·)) :
    ListsValues (firstOccurrences (hits.map Hit.value)) hits where
  nodup := nodup_firstOccurrences _
  mem_iff value := by rw [mem_firstOccurrences, List.mem_map]
  ordered := firstOccurrences_ordered hincrease

end Text

namespace Script

/-! ## Uses in a text -/

/-- A name stands in a text behind a word and a dot. It goes on as long as it can, and no other word
goes on into the word. -/
structure UseIn (text lead word name rest : List Char) : Prop where
  text_eq : text = lead ++ (word ++ ['.'] ++ name ++ rest)
  name_valid : isName name = true
  name_ends : ∀ c ∈ rest.head?, isWordChar c = false
  lead_apart : ∀ c ∈ lead.getLast?, isWordChar c = false

/-- The uses that are found from left to right: each lies behind the one before, and every use of
the text starts in one of them. -/
structure FoundUses (text : List Char) (words : List (List Char)) (hits : List (Hit (List Char))) :
    Prop where
  sound : ∀ hit ∈ hits, ∃ lead, ∃ word ∈ words, ∃ rest, UseIn text lead word hit.value rest ∧
    hit.start = lead.length ∧ hit.stop + rest.length = text.length
  apart : hits.Pairwise fun first second => first.stop ≤ second.start
  covers : ∀ lead, ∀ word ∈ words, ∀ name rest, UseIn text lead word name rest →
    ∃ hit ∈ hits, hit.start ≤ lead.length ∧ lead.length < hit.stop

/-- What is written tells where the word and the name end. -/
theorem eq_of_written_use {word word' name name' rest rest' : List Char} (hword : '.' ∉ word)
    (hword' : '.' ∉ word') (hname : isName name = true) (hname' : isName name' = true)
    (hrest : ∀ c ∈ rest.head?, isWordChar c = false)
    (hrest' : ∀ c ∈ rest'.head?, isWordChar c = false)
    (hsame : word ++ ['.'] ++ name ++ rest = word' ++ ['.'] ++ name' ++ rest') :
    name = name' ∧ rest = rest' := by
  simp only [List.append_assoc, List.singleton_append] at hsame
  have hwords : word = word' := eq_of_append_separator hword hword' hsame
  rw [hwords] at hsame
  have hbehind : name ++ rest = name' ++ rest' := (List.cons.inj (List.append_cancel_left hsame)).2
  have hread := name?_eq_some_iff.mpr ⟨rfl, hname, hrest⟩
  rw [hbehind, name?_eq_some_iff.mpr ⟨rfl, hname', hrest'⟩] at hread
  cases hread
  exact ⟨rfl, rfl⟩

section Words

variable {words : List (List Char)} (hwords : ∀ word ∈ words, ∀ c ∈ word, isWordChar c = true)

include hwords

theorem use_of_written {word : List Char} (hword : word ∈ words) {before : Option Char}
    (hbefore : before.any isWordChar = false) {name rest : List Char} (hname : isName name = true)
    (hrest : ∀ c ∈ rest.head?, isWordChar c = false) :
    use words before (word ++ ['.'] ++ name ++ rest) = some (name, rest) := by
  cases hread : use words before (word ++ ['.'] ++ name ++ rest) with
  | none =>
    rw [use, if_neg (by simp [hbefore]), List.findSome?_eq_none_iff] at hread
    have hmiss := hread word hword
    have hafter : after? (word ++ ['.']) (word ++ ['.'] ++ name ++ rest) = some (name ++ rest) :=
      after?_eq_some_iff.mpr (by simp)
    have hname? : name? (name ++ rest) = some (name, rest) :=
      name?_eq_some_iff.mpr ⟨rfl, hname, hrest⟩
    simp only [hafter, Option.bind_eq_bind, Option.bind_some, hname?, reduceCtorEq] at hmiss
  | some found =>
    obtain ⟨name', rest'⟩ := found
    obtain ⟨word', hword', hsplit, hname', hrest', _⟩ := use_eq_some hread
    have hdot := not_dot_mem_of_word (hwords word hword)
    have hdot' := not_dot_mem_of_word (hwords word' hword')
    obtain ⟨rfl, rfl⟩ := eq_of_written_use hdot hdot' hname hname' hrest hrest' hsplit
    rfl

theorem foundUses_scan (text : List Char) : FoundUses text words (scan (use words) text) where
  sound := by
    intro hit hhit
    obtain ⟨lead, used, rest, hsplit, hread, hstart, hstop⟩ :=
      scanFrom_sound (use_consumes words) 0 none text hit hhit
    rw [Option.or_none] at hread
    obtain ⟨word, hword, hused, hname, hrest, hbefore⟩ := use_eq_some hread
    refine ⟨lead, word, hword, rest, ⟨by rw [hsplit, hused], hname, hrest, ?_⟩, by omega, ?_⟩
    · simpa [Option.any_eq_false] using hbefore
    · rw [hsplit, List.length_append, List.length_append]
      omega
  apart := scanFrom_ordered (use_consumes words) 0 none text
  covers := by
    intro lead word hword name rest huse
    have hbefore : (lead.getLast?.or none).any isWordChar = false := by
      simpa [Option.any_eq_false] using huse.lead_apart
    have hread := use_of_written hwords hword hbefore huse.name_valid huse.name_ends
    obtain ⟨hit, hhit, hfrom, hto, _⟩ :=
      scanFrom_covers (use_consumes words) 0 none text huse.text_eq hread
    rw [Nat.zero_add] at hfrom hto
    exact ⟨hit, hhit, hfrom, hto⟩

/-- A use that starts inside another one stands behind a dot. -/
theorem UseIn.dot_before {text lead word name rest lead' word' name' rest' : List Char}
    (houter : UseIn text lead word name rest) (hword : word ∈ words)
    (hinner : UseIn text lead' word' name' rest') (hfrom : lead.length < lead'.length)
    (hto : lead'.length + rest.length < text.length) : lead'.getLast? = some '.' := by
  obtain ⟨inner, rfl, hsplit⟩ :=
    exists_append_of_length_le (houter.text_eq.symm.trans hinner.text_eq) hfrom.le
  have hprefix : inner <+: word ++ ['.'] ++ name := by
    refine List.prefix_of_prefix_length_le ⟨_, hsplit.symm⟩ (List.prefix_append _ rest) ?_
    have hlength := congrArg List.length houter.text_eq
    simp only [List.length_append] at hto hlength ⊢
    omega
  have hinner_ne : inner ≠ [] := by
    rintro rfl
    simp at hfrom
  obtain ⟨c, hlast⟩ : ∃ c, inner.getLast? = some c :=
    ⟨_, List.getLast?_eq_some_getLast hinner_ne⟩
  have hend : (lead ++ inner).getLast? = some c := by
    rw [List.getLast?_append, hlast]
    rfl
  have hnot : isWordChar c = false := hinner.lead_apart c hend
  have hmem : c ∈ word ++ ['.'] ++ name := hprefix.subset (List.mem_of_getLast? hlast)
  rw [List.mem_append, List.mem_append, List.mem_singleton] at hmem
  rcases hmem with (hmem | rfl) | hmem
  · rw [hwords word hword c hmem] at hnot
    cases hnot
  · exact hend
  · rw [isWordChar_of_isName houter.name_valid c hmem] at hnot
    cases hnot

/-- A use that no dot stands before is found. -/
theorem FoundUses.exists_hit {text : List Char} {hits : List (Hit (List Char))}
    (hfound : FoundUses text words hits) {lead word name rest : List Char} (hword : word ∈ words)
    (huse : UseIn text lead word name rest) (hdot : lead.getLast? ≠ some '.') :
    ∃ hit ∈ hits, hit.value = name := by
  obtain ⟨hit, hhit, hfrom, hto⟩ := hfound.covers lead word hword name rest huse
  obtain ⟨lead', word', hword', rest', houter, hstart, hstop⟩ := hfound.sound hit hhit
  refine ⟨hit, hhit, ?_⟩
  have hlength : lead'.length = lead.length := by
    by_contra hother
    exact hdot (houter.dot_before hwords hword' huse (by omega) (by omega))
  obtain ⟨_, hsame⟩ :=
    List.append_inj (houter.text_eq.symm.trans huse.text_eq) hlength
  exact (eq_of_written_use (not_dot_mem_of_word (hwords word' hword'))
    (not_dot_mem_of_word (hwords word hword)) houter.name_valid huse.name_valid houter.name_ends
    huse.name_ends hsame).1

end Words

/-! ## Words for a space -/

theorem formsOf_short (space : Space) : formsOf space.short = space.words := by
  cases space <;> rfl

theorem Space.isWordChar_words (space : Space) :
    ∀ word ∈ space.words, ∀ c ∈ word, isWordChar c = true :=
  fun _ hword => isWordChar_of_ofWord? (Space.mem_words_iff.mp hword)

theorem listsValues_usedNames (text : List Char) (space : Space) :
    ListsValues (usedNames text space.short) (scan (use space.words) text) := by
  rw [usedNames, formsOf_short]
  exact listsValues_firstOccurrences (scan_starts_increase (use_consumes _) text)

end Script

namespace Assist

open Schema Script

theorem labels_usedItems (text : List Char) (space : Space) (kind : ItemKind) (detail : String) :
    (usedItems text space kind detail).map Item.label =
      (usedNames text space.short).map String.ofList := by
  rw [usedItems, List.map_map]
  rfl

/-- Behind a word for temporary or other variables, the names used there are offered: each once, in
the order in which uses are first found. A name that is offered is used, and every use that no dot
stands before has its name offered, be it behind the short word or the long one. -/
theorem offers_used_names (text : List Char) {space : Space}
    (hspace : space = .temp ∨ space = .variable) :
    (∃ hits, FoundUses text space.words hits ∧ ListsValues (usedNames text space.short) hits) ∧
    (∀ name ∈ usedNames text space.short,
      ∃ lead, ∃ word ∈ space.words, ∃ rest, UseIn text lead word name rest) ∧
    (∀ lead, ∀ word ∈ space.words, ∀ name rest, UseIn text lead word name rest →
      lead.getLast? ≠ some '.' → name ∈ usedNames text space.short) ∧
    ∀ (doc : Document) (line column : Int) (runtime : Option String) (names : List (List Char)),
      typesAnnotation (upTo column (lineAt text line)) = false →
      chainBefore? (upTo column (lineAt text line)) = some ⟨space, names⟩ →
      (complete (some doc) text line column runtime).map Item.label =
        (usedNames text space.short).map String.ofList := by
  have hfound := foundUses_scan space.isWordChar_words text
  have hlists := listsValues_usedNames text space
  refine ⟨⟨_, hfound, hlists⟩, ?_, ?_, ?_⟩
  · intro name hname
    obtain ⟨hit, hhit, rfl⟩ := (hlists.mem_iff name).mp hname
    obtain ⟨lead, word, hword, rest, huse, _⟩ := hfound.sound hit hhit
    exact ⟨lead, word, hword, rest, huse⟩
  · intro lead word hword name rest huse hdot
    exact (hlists.mem_iff name).mpr
      (hfound.exists_hit space.isWordChar_words hword huse hdot)
  · intro doc line column runtime names hmode hchain
    rw [← labels_usedItems text space .variable "Temp"]
    rcases hspace with rfl | rfl <;>
      simp only [complete, hmode, hchain, chainItems, labels_usedItems, Bool.false_eq_true,
        if_false]

/-- A use behind the long word, and one inside another use. -/
def nestedText : List Char := "temp.a = t.t.b;\nt.".toList

/-- The use on the first line is offered. The one that starts inside another use is passed over. -/
theorem offers_used_names_nested :
    UseIn nestedText [] "temp".toList "a".toList " = t.t.b;\nt.".toList ∧
      "a".toList ∈ usedNames nestedText Space.temp.short ∧
      (complete (some {}) nestedText 1 2 none).map Item.label = ["a", "t"] := by
  have huse : UseIn nestedText [] "temp".toList "a".toList " = t.t.b;\nt.".toList :=
    ⟨by decide, by decide, by rintro c ⟨⟩; rfl, by simp⟩
  have hmode : typesAnnotation (upTo 2 (lineAt nestedText 1)) = false := by decide +kernel
  have hchain : chainBefore? (upTo 2 (lineAt nestedText 1)) = some ⟨.temp, []⟩ := by decide +kernel
  have hnames : (usedNames nestedText Space.temp.short).map String.ofList = ["a", "t"] := by
    decide +kernel
  obtain ⟨_, _, huses, hoffers⟩ := offers_used_names nestedText (.inl rfl : Space.temp = .temp ∨ _)
  refine ⟨huse, huses [] "temp".toList (by decide) _ _ huse (by decide), ?_⟩
  rw [hoffers {} 1 2 none [] hmode hchain, hnames]

end Assist

end MolangAssist
