import MolangAssist.Proofs.Script.ChainStarts

/-!
# The grammar of chains

A reading cuts a text into what stands before a chain, the chain and what closes it. The recogniser
before the cursor finds a chain exactly if the text has a reading that ends in a dot, and of all
readings it takes the one with the longest chain. The recogniser for whole texts has no choice: such
a text has one reading at most.
-/
namespace MolangAssist.Script

open Text

/-- The words for a space. -/
def Space.words (space : Space) : List (List Char) := space.short :: space.long?.toList

/-- A text cut into what stands before a chain, the word and the names of the chain, and a line feed
that may follow. -/
@[ext] structure Reading where
  lead : List Char
  word : List Char
  chain : Chain
  feed : Bool

/-- What may stand behind the last character that counts. -/
def lineEnd (feed : Bool) : List Char := if feed then ['\n'] else []

namespace Reading

/-- The chain as it is written. -/
def dots (reading : Reading) : List Char := dotted (reading.word :: reading.chain.names)

/-- The word stands for the space of the chain, and behind it come names. -/
structure Valid (reading : Reading) : Prop where
  word_mem : reading.word ∈ reading.chain.space.words
  names_valid : ∀ name ∈ reading.chain.names, isName name = true

/-- A chain that is typed up to a dot. No word goes on into it. -/
structure Typed (reading : Reading) (text : List Char) : Prop extends Valid reading where
  text_eq : text = reading.lead ++ reading.dots ++ ['.'] ++ lineEnd reading.feed
  lead_apart : ∀ c ∈ reading.lead.getLast?, isWordChar c = false

/-- A chain with at least one name that takes up the whole text. -/
structure Whole (reading : Reading) (text : List Char) : Prop extends Valid reading where
  text_eq : text = reading.dots ++ lineEnd reading.feed
  lead_nil : reading.lead = []
  names_ne_nil : reading.chain.names ≠ []

end Reading

/-! ## Words -/

theorem Space.words_read :
    ∀ space ∈ all, ∀ word ∈ space.words,
      ofWord? word = some space ∧ shortForm word = space.short := by
  decide

example : (Space.all.flatMap Space.words).map String.ofList =
    ["q", "query", "v", "variable", "t", "temp", "f", "function", "c", "context", "math"] := by
  decide

theorem Space.mem_all (space : Space) : space ∈ all := by
  cases space <;> decide

theorem Space.mem_words_iff {space : Space} {word : List Char} :
    word ∈ space.words ↔ ofWord? word = some space := by
  constructor
  · intro hword
    exact (words_read space space.mem_all word hword).1
  · intro hword
    have hfound := List.find?_some hword
    simp only [Bool.or_eq_true, beq_iff_eq] at hfound
    rw [words, List.mem_cons, Option.mem_toList]
    exact hfound.imp Eq.symm id

/-! ## A line feed at the end -/

theorem exists_lineEnd (text : List Char) :
    ∃ feed, text = dropFinalNewline text ++ lineEnd feed := by
  by_cases hfeed : text.getLast? = some '\n'
  · obtain ⟨body, rfl⟩ := List.getLast?_eq_some_iff.mp hfeed
    exact ⟨true, by simp [dropFinalNewline, lineEnd]⟩
  · exact ⟨false, by simp [dropFinalNewline, hfeed, lineEnd]⟩

theorem dropFinalNewline_lineEnd {body : List Char} (hbody : body.getLast? ≠ some '\n')
    (feed : Bool) : dropFinalNewline (body ++ lineEnd feed) = body := by
  cases feed with
  | false => simp [dropFinalNewline, hbody, lineEnd]
  | true => simp [dropFinalNewline, lineEnd]

theorem lineEnd_injective {feed other : Bool} (hsame : lineEnd feed = lineEnd other) :
    feed = other := by
  cases feed <;> cases other <;> simp [lineEnd] at hsame ⊢

/-! ## Valid readings -/

namespace Reading

variable {reading other : Reading} {text : List Char}

theorem Valid.wholeChain?_pieces (hvalid : reading.Valid) :
    wholeChain? (reading.word :: reading.chain.names) = some reading.chain :=
  wholeChain?_eq_some_iff.mpr
    ⟨reading.word, rfl, Space.mem_words_iff.mp hvalid.word_mem, hvalid.names_valid⟩

theorem Valid.isWordChar_pieces (hvalid : reading.Valid) :
    ∀ piece ∈ reading.word :: reading.chain.names, ∀ c ∈ piece, isWordChar c = true :=
  isWordChar_of_pieces (Space.mem_words_iff.mp hvalid.word_mem) hvalid.names_valid

theorem Valid.splitAt_dots (hvalid : reading.Valid) :
    splitAt '.' reading.dots = reading.word :: reading.chain.names :=
  splitAt_dotted (List.cons_ne_nil _ _) fun piece hpiece =>
    not_dot_mem_of_word (hvalid.isWordChar_pieces piece hpiece)

/-- A written chain can be read in one way only. -/
theorem Valid.eq_of_dots (hvalid : reading.Valid) (hother : other.Valid)
    (hdots : reading.dots = other.dots) :
    reading.word = other.word ∧ reading.chain = other.chain := by
  have hpieces : reading.word :: reading.chain.names = other.word :: other.chain.names := by
    rw [← hvalid.splitAt_dots, ← hother.splitAt_dots, hdots]
  have hchain := hvalid.wholeChain?_pieces
  rw [hpieces, hother.wholeChain?_pieces] at hchain
  exact ⟨(List.cons.inj hpieces).1, (Option.some.inj hchain).symm⟩

theorem Valid.getLast?_dots (hvalid : reading.Valid) : reading.dots.getLast? ≠ some '\n' := by
  intro hfeed
  have hchain := isChainChar_dotted hvalid.isWordChar_pieces '\n' (List.mem_of_getLast? hfeed)
  revert hchain
  decide

end Reading

/-! ## Pieces of the dotted text before a cursor -/

/-- The first chain among some pieces is the longest one at their end. -/
theorem firstChain?_longest {pieces : List (List Char)} {chain : Chain}
    (hfirst : firstChain? pieces = some chain) :
    ∃ rest, rest <:+ pieces ∧ wholeChain? rest = some chain ∧
      ∀ other, other <:+ pieces → (wholeChain? other).isSome = true → other <:+ rest := by
  induction pieces with
  | nil => cases hfirst
  | cons word names ih =>
    rw [firstChain?_cons] at hfirst
    cases hwhole : wholeChain? (word :: names) with
    | some found =>
      rw [hwhole, Option.some_or] at hfirst
      exact ⟨word :: names, List.suffix_rfl, hwhole.trans hfirst, fun _ hother _ => hother⟩
    | none =>
      rw [hwhole, Option.none_or] at hfirst
      obtain ⟨rest, hrest, hchain, hlongest⟩ := ih hfirst
      refine ⟨rest, hrest.trans (List.suffix_cons word names), hchain, ?_⟩
      intro other hother hsome
      rcases List.suffix_cons_iff.mp hother with rfl | hother
      · simp [hwhole] at hsome
      · exact hlongest other hother hsome

/-- The last pieces of the dotted text are what stands, with dots between, behind a place where no
word goes on. -/
theorem suffix_splitAt_dottedEnd_iff {text : List Char} {rest : List (List Char)}
    (hrest : rest ≠ []) (hwords : ∀ piece ∈ rest, ∀ c ∈ piece, isWordChar c = true) :
    rest <:+ splitAt '.' (dottedEnd text) ↔
      ∃ lead, text = lead ++ dotted rest ∧ ∀ c ∈ lead.getLast?, isWordChar c = false := by
  have hpieces : splitAt '.' (dotted rest) = rest :=
    splitAt_dotted hrest fun piece hpiece => not_dot_mem_of_word (hwords piece hpiece)
  constructor
  · rintro ⟨init, hinit⟩
    obtain ⟨apart, htext, hapart⟩ := exists_eq_append_dottedEnd text
    have hrun : dotted (init ++ rest) = dottedEnd text := by
      rw [hinit]
      exact intercalate_splitAt '.' (dottedEnd text)
    by_cases hnil : init = []
    · subst hnil
      refine ⟨apart, ?_, ?_⟩
      · rw [List.nil_append] at hrun
        rw [hrun]
        exact htext
      · intro c hc
        have hchain := hapart c hc
        rw [isChainChar, Bool.or_eq_false_iff] at hchain
        exact hchain.1
    · obtain ⟨piece, others, rfl⟩ := List.exists_cons_of_ne_nil hrest
      have hcut := intercalate_append_cons '.' hnil piece others
      refine ⟨apart ++ dotted init ++ ['.'], ?_, ?_⟩
      · rw [dotted, hcut] at hrun
        rw [htext, ← hrun]
        simp [dotted]
      · rw [List.getLast?_concat]
        rintro c ⟨⟩
        rfl
  · rintro ⟨lead, rfl, hlead⟩
    have hchars := isChainChar_dotted hwords
    by_cases hdot : lead.getLast? = some '.'
    · obtain ⟨before, rfl⟩ := List.getLast?_eq_some_iff.mp hdot
      have hrun : ∀ c ∈ '.' :: dotted rest, isChainChar c = true := by
        rw [List.forall_mem_cons]
        exact ⟨rfl, hchars⟩
      rw [List.append_assoc, List.singleton_append, dottedEnd_append before hrun,
        splitAt_append_cons, hpieces]
      exact List.suffix_append _ _
    · have hapart : ∀ c ∈ lead.getLast?, isChainChar c = false := by
        intro c hc
        have hne : c ≠ '.' := by
          rintro rfl
          exact hdot hc
        simp [isChainChar, hlead c hc, hne]
      exact ⟨[], by rw [List.nil_append, dottedEnd_of_apart hapart hchars, hpieces]⟩

/-- More pieces make a longer text. -/
theorem suffix_dotted {rest pieces : List (List Char)} (hrest : rest ≠ [])
    (hsuffix : rest <:+ pieces) : dotted rest <:+ dotted pieces := by
  obtain ⟨init, rfl⟩ := hsuffix
  by_cases hnil : init = []
  · exact ⟨[], by rw [hnil, List.nil_append, List.nil_append]⟩
  · obtain ⟨piece, others, rfl⟩ := List.exists_cons_of_ne_nil hrest
    exact ⟨dotted init ++ ['.'], by simp [dotted, intercalate_append_cons '.' hnil]⟩

/-! ## Typed chains -/

theorem chainBefore?_lineEnd (before : List Char) (feed : Bool) :
    chainBefore? (before ++ ['.'] ++ lineEnd feed) =
      firstChain? (splitAt '.' (dottedEnd before)) := by
  have hend : (before ++ ['.']).getLast? ≠ some '\n' := by simp
  rw [← chainBefore?_dot, chainBefore?, chainBefore?, dropFinalNewline_lineEnd hend,
    dropFinalNewline_of_getLast? hend]

/-- Where a chain is found, a dot stands before the cursor. -/
theorem exists_dot_of_chainBefore? {text : List Char} {chain : Chain}
    (hchain : chainBefore? text = some chain) :
    ∃ before feed, text = before ++ ['.'] ++ lineEnd feed := by
  obtain ⟨feed, htext⟩ := exists_lineEnd text
  obtain ⟨apart, hbody, _⟩ := exists_eq_append_dottedEnd (dropFinalNewline text)
  rw [chainBefore?] at hchain
  generalize dottedEnd (dropFinalNewline text) = run at hbody hchain
  have hnone : '.' ∉ ([] : List Char) := List.not_mem_nil
  obtain ⟨init, hpieces, _⟩ := exists_splitAt_append run hnone
  simp only [hpieces, List.getLast?_concat, List.dropLast_concat, Option.some.injEq] at hchain
  split at hchain
  · next hlast =>
    by_cases hdot : '.' ∈ run
    · obtain ⟨first, hrun⟩ := exists_eq_append_lastPiece hdot
      rw [hlast] at hrun
      refine ⟨apart ++ first, feed, ?_⟩
      rw [List.append_assoc apart, ← hrun, ← hbody]
      exact htext
    · -- Without a dot there is one piece only, and no chain before it.
      rw [splitAt_of_not_mem hdot] at hpieces
      have hinit : init = [] := by simpa using congrArg List.length hpieces
      rw [hinit] at hchain
      cases hchain
  · cases hchain

namespace Reading

variable {reading other : Reading} {text : List Char}

/-- The pieces of a typed chain are the last ones of the dotted text before the dot. -/
theorem Typed.suffix {before : List Char} {feed : Bool}
    (htyped : reading.Typed (before ++ ['.'] ++ lineEnd feed)) :
    reading.word :: reading.chain.names <:+ splitAt '.' (dottedEnd before) ∧
      before = reading.lead ++ reading.dots := by
  have hbefore : before = reading.lead ++ reading.dots := by
    have hcut := congrArg dropFinalNewline htyped.text_eq
    rw [dropFinalNewline_lineEnd (by simp), dropFinalNewline_lineEnd (by simp)] at hcut
    exact List.append_cancel_right hcut
  have hwords := htyped.isWordChar_pieces
  refine ⟨(suffix_splitAt_dottedEnd_iff (List.cons_ne_nil _ _) hwords).mpr ?_, hbefore⟩
  exact ⟨reading.lead, hbefore, htyped.lead_apart⟩

end Reading

/-- What the recogniser finds is a typed chain, and no other one starts before it. -/
theorem exists_longest_of_chainBefore? {text : List Char} {chain : Chain}
    (hchain : chainBefore? text = some chain) :
    ∃ reading : Reading, reading.chain = chain ∧ reading.Typed text ∧
      ∀ other : Reading, other.Typed text → reading.lead.length ≤ other.lead.length := by
  obtain ⟨before, feed, rfl⟩ := exists_dot_of_chainBefore? hchain
  rw [chainBefore?_lineEnd] at hchain
  obtain ⟨rest, hsuffix, hwhole, hlongest⟩ := firstChain?_longest hchain
  obtain ⟨word, rfl, hword, hnames⟩ := wholeChain?_eq_some_iff.mp hwhole
  obtain ⟨lead, hbefore, hlead⟩ := (suffix_splitAt_dottedEnd_iff (List.cons_ne_nil _ _)
    (isWordChar_of_pieces hword hnames)).mp hsuffix
  refine ⟨⟨lead, word, chain, feed⟩, rfl,
    ⟨⟨Space.mem_words_iff.mpr hword, hnames⟩, ?_, hlead⟩, ?_⟩
  · rw [hbefore]
    rfl
  · intro other hother
    obtain ⟨hpieces, hcut⟩ := hother.suffix
    have hchain' := Option.isSome_iff_exists.mpr ⟨_, hother.wholeChain?_pieces⟩
    have hshorter := hlongest _ hpieces hchain'
    have hlength := (suffix_dotted (List.cons_ne_nil _ _) hshorter).length_le
    have htext := congrArg List.length (hbefore.symm.trans hcut)
    simp only [List.length_append, Reading.dots] at htext
    show lead.length ≤ other.lead.length
    omega

theorem isSome_chainBefore?_of_typed {reading : Reading} {text : List Char}
    (htyped : reading.Typed text) : (chainBefore? text).isSome = true := by
  obtain ⟨before, feed, rfl⟩ : ∃ before feed, text = before ++ ['.'] ++ lineEnd feed :=
    ⟨reading.lead ++ reading.dots, reading.feed, htyped.text_eq⟩
  obtain ⟨⟨lead, hpieces⟩, _⟩ := htyped.suffix
  rw [chainBefore?_lineEnd, isSome_firstChain?_iff]
  exact ⟨lead, _, reading.chain, hpieces.symm, htyped.wholeChain?_pieces⟩

theorem chainBefore?_eq_some_iff {text : List Char} {chain : Chain} :
    chainBefore? text = some chain ↔ ∃ reading : Reading, reading.chain = chain ∧
      reading.Typed text ∧
        ∀ other : Reading, other.Typed text → reading.lead.length ≤ other.lead.length := by
  refine ⟨exists_longest_of_chainBefore?, ?_⟩
  rintro ⟨reading, rfl, htyped, hlongest⟩
  obtain ⟨found, hfound⟩ := Option.isSome_iff_exists.mp (isSome_chainBefore?_of_typed htyped)
  obtain ⟨longest, rfl, htyped', hlongest'⟩ := exists_longest_of_chainBefore? hfound
  -- Both leads are as short as can be, so the two readings cut the text at the same place.
  have hlength : reading.lead.length = longest.lead.length :=
    Nat.le_antisymm (hlongest longest htyped') (hlongest' reading htyped)
  obtain ⟨before, feed, rfl⟩ := exists_dot_of_chainBefore? hfound
  have hsame := htyped.suffix.2.symm.trans htyped'.suffix.2
  have hdots := List.append_inj_right hsame hlength
  rw [hfound, (htyped.eq_of_dots htyped'.toValid hdots).2]

/-! ## Whole chains -/

theorem splitChain?_eq_some_iff {text : List Char} {chain : Chain} :
    splitChain? text = some chain ↔
      wholeChain? (splitAt '.' (dropFinalNewline text)) = some chain ∧ chain.names ≠ [] := by
  rw [splitChain?]
  cases splitAt '.' (dropFinalNewline text) with
  | nil => simp [wholeChain?]
  | cons word names =>
    have hnames : wholeChain? (word :: names) = some chain → chain.names = names := by
      intro hchain
      obtain ⟨other, hpieces, _⟩ := wholeChain?_eq_some_iff.mp hchain
      exact (List.cons.inj hpieces).2.symm
    cases names with
    | nil =>
      simp only [reduceCtorEq, false_iff]
      rintro ⟨hchain, hne⟩
      exact hne (hnames hchain)
    | cons name names =>
      refine (and_iff_left_of_imp fun hchain => ?_).symm
      rw [hnames hchain]
      exact List.cons_ne_nil name names

theorem splitChain?_eq_some_iff_whole {text : List Char} {chain : Chain} :
    splitChain? text = some chain ↔
      ∃ reading : Reading, reading.chain = chain ∧ reading.Whole text := by
  rw [splitChain?_eq_some_iff, wholeChain?_eq_some_iff]
  constructor
  · rintro ⟨⟨word, hpieces, hword, hnames⟩, hne⟩
    obtain ⟨feed, htext⟩ := exists_lineEnd text
    have hbody : dropFinalNewline text = dotted (word :: chain.names) := by
      rw [dotted, ← hpieces, intercalate_splitAt]
    rw [hbody] at htext
    exact ⟨⟨[], word, chain, feed⟩, rfl,
      ⟨⟨Space.mem_words_iff.mpr hword, hnames⟩, htext, rfl, hne⟩⟩
  · rintro ⟨reading, rfl, hwhole⟩
    have hbody : dropFinalNewline text = reading.dots := by
      rw [hwhole.text_eq, dropFinalNewline_lineEnd hwhole.getLast?_dots]
    rw [hbody, hwhole.splitAt_dots]
    exact ⟨⟨reading.word, rfl, Space.mem_words_iff.mp hwhole.word_mem, hwhole.names_valid⟩,
      hwhole.names_ne_nil⟩

theorem Reading.Whole.unique {reading other : Reading} {text : List Char}
    (hwhole : reading.Whole text) (hother : other.Whole text) : reading = other := by
  have htext := hwhole.text_eq.symm.trans hother.text_eq
  have hdots : reading.dots = other.dots := by
    have hbody := congrArg dropFinalNewline htext
    rwa [dropFinalNewline_lineEnd hwhole.getLast?_dots,
      dropFinalNewline_lineEnd hother.getLast?_dots] at hbody
  obtain ⟨hword, hchain⟩ := hwhole.eq_of_dots hother.toValid hdots
  rw [hdots] at htext
  have hfeed := lineEnd_injective (List.append_cancel_left htext)
  exact Reading.ext (hwhole.lead_nil.trans hother.lead_nil.symm) hword hchain hfeed

/-- The chain before a cursor is the longest one that is typed there, and a whole text is a chain in
one way at most. -/
theorem recognisers_accept_grammar :
    (∀ text chain, chainBefore? text = some chain ↔ ∃ reading : Reading, reading.chain = chain ∧
      reading.Typed text ∧
        ∀ other : Reading, other.Typed text → reading.lead.length ≤ other.lead.length) ∧
    (∀ text, chainBefore? text = none ↔ ∀ reading : Reading, ¬reading.Typed text) ∧
    (∀ text chain, splitChain? text = some chain ↔
      ∃ reading : Reading, reading.chain = chain ∧ reading.Whole text) ∧
    (∀ text (reading other : Reading), reading.Whole text → other.Whole text → reading = other) ∧
    ∀ (space : Space) (word : List Char), word ∈ space.words → shortForm word = space.short := by
  refine ⟨fun _ _ => chainBefore?_eq_some_iff, ?_, fun _ _ => splitChain?_eq_some_iff_whole,
    fun _ _ _ => Reading.Whole.unique,
    fun space word hword => (Space.words_read space space.mem_all word hword).2⟩
  intro text
  constructor
  · intro hnone reading htyped
    have hsome := isSome_chainBefore?_of_typed htyped
    rw [hnone] at hsome
    cases hsome
  · intro hnone
    rw [Option.eq_none_iff_forall_ne_some]
    intro chain hchain
    obtain ⟨reading, _, htyped, _⟩ := exists_longest_of_chainBefore? hchain
    exact hnone reading htyped

/-- A word for a space may start a chain inside a longer one, which wins. -/
theorem recognisers_accept_grammar_nested :
    (∃ reading : Reading, reading.chain = ⟨.temp, ["q".toList]⟩ ∧
      reading.Typed "x = t.q.\n".toList ∧ reading.lead.length ≤ "x = t.".toList.length) ∧
    splitChain? "context.a\n".toList = some ⟨.context, ["a".toList]⟩ ∧
    shortForm "context".toList = "c".toList := by
  obtain ⟨hbefore, _, hwhole, _, hshort⟩ := recognisers_accept_grammar
  have hinner : Reading.Typed ⟨"x = t.".toList, "q".toList, ⟨.query, []⟩, true⟩
      "x = t.q.\n".toList := by
    refine ⟨⟨by decide, by decide⟩, by decide, ?_⟩
    have hlast : "x = t.".toList.getLast? = some '.' := by decide
    rw [hlast]
    rintro c ⟨⟩
    rfl
  obtain ⟨reading, hchain, htyped, hlongest⟩ :=
    (hbefore "x = t.q.\n".toList ⟨.temp, ["q".toList]⟩).mp (by decide)
  refine ⟨⟨reading, hchain, htyped, hlongest _ hinner⟩, ?_, hshort .context _ (by decide)⟩
  exact (hwhole _ _).mpr ⟨⟨[], "context".toList, ⟨.context, ["a".toList]⟩, true⟩, rfl,
    ⟨by decide, by decide⟩, by decide, rfl, by decide⟩

end MolangAssist.Script
