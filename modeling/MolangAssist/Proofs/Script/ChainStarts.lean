import MolangAssist.Proofs.Script.WrittenChain

/-!
# Where a chain starts

At a dot, the first word for a space with nothing but names behind it starts the chain, also when
it stands behind another dot. On a name, the chain has to be the whole dotted text. The two
readings are computed here from the pieces of the dotted text, and they agree exactly when a chain
that starts behind a dot never stands alone.
-/
namespace MolangAssist.Script

open Text

/-- A chain with one more name. -/
def Chain.snoc (chain : Chain) (name : List Char) : Chain :=
  { chain with names := chain.names ++ [name] }

/-! ## Chains among pieces -/

/-- The chain made of all of some pieces. -/
def wholeChain? : List (List Char) → Option Chain
  | [] => none
  | word :: names => if names.all isName then (Space.ofWord? word).map (⟨·, names⟩) else none

theorem wholeChain?_eq_some_iff {pieces : List (List Char)} {chain : Chain} :
    wholeChain? pieces = some chain ↔ ∃ word, pieces = word :: chain.names ∧
      Space.ofWord? word = some chain.space ∧ ∀ name ∈ chain.names, isName name = true := by
  cases pieces with
  | nil => simp [wholeChain?]
  | cons word names =>
    rw [wholeChain?]
    by_cases hnames : names.all isName = true
    · have hvalid : ∀ name ∈ names, isName name = true := List.all_eq_true.mp hnames
      rw [if_pos hnames, Option.map_eq_some_iff]
      constructor
      · rintro ⟨space, hspace, rfl⟩
        exact ⟨word, rfl, hspace, hvalid⟩
      · rintro ⟨other, hpieces, hspace, _⟩
        obtain ⟨rfl, rfl⟩ := List.cons.inj hpieces
        exact ⟨chain.space, hspace, rfl⟩
    · rw [if_neg hnames]
      simp only [reduceCtorEq, false_iff]
      rintro ⟨other, hpieces, _, hvalid⟩
      obtain ⟨rfl, rfl⟩ := List.cons.inj hpieces
      exact hnames (List.all_eq_true.mpr hvalid)

theorem wholeChain?_snoc {pieces : List (List Char)} (hpieces : pieces ≠ []) {name : List Char}
    (hname : isName name = true) :
    wholeChain? (pieces ++ [name]) = (wholeChain? pieces).map (·.snoc name) := by
  obtain ⟨word, names, rfl⟩ := List.exists_cons_of_ne_nil hpieces
  rw [List.cons_append, wholeChain?, wholeChain?, List.all_append]
  by_cases hnames : names.all isName = true
  · simp [hnames, hname, Function.comp_def, Chain.snoc]
  · simp [hnames]

theorem firstChain?_cons (word : List Char) (names : List (List Char)) :
    firstChain? (word :: names) = (wholeChain? (word :: names)).or (firstChain? names) := by
  rw [firstChain?, wholeChain?]
  cases Space.ofWord? word with
  | none => simp
  | some space => by_cases hnames : names.all isName = true <;> simp [hnames]

/-- A chain is found among some pieces if one is made of the last of them. -/
theorem isSome_firstChain?_iff {pieces : List (List Char)} :
    (firstChain? pieces).isSome = true ↔
      ∃ lead rest chain, pieces = lead ++ rest ∧ wholeChain? rest = some chain := by
  induction pieces with
  | nil =>
    simp only [firstChain?, Option.isSome_none, Bool.false_eq_true, false_iff]
    rintro ⟨lead, rest, chain, hsplit, hwhole⟩
    obtain ⟨word, rfl, _⟩ := wholeChain?_eq_some_iff.mp hwhole
    simp at hsplit
  | cons word names ih =>
    rw [firstChain?_cons, Option.isSome_or, Bool.or_eq_true, ih]
    constructor
    · rintro (hwhole | ⟨lead, rest, chain, rfl, hwhole⟩)
      · obtain ⟨chain, hchain⟩ := Option.isSome_iff_exists.mp hwhole
        exact ⟨[], word :: names, chain, rfl, hchain⟩
      · exact ⟨word :: lead, rest, chain, rfl, hwhole⟩
    · rintro ⟨lead, rest, chain, hsplit, hwhole⟩
      cases lead with
      | nil =>
        rw [List.nil_append] at hsplit
        rw [hsplit, hwhole]
        exact .inl rfl
      | cons first lead =>
        obtain ⟨_, rfl⟩ := List.cons.inj hsplit
        exact .inr ⟨lead, rest, chain, rfl, hwhole⟩

/-! ## Pieces of a dotted text -/

theorem dottedEnd_append (text : List Char) {run : List Char}
    (hrun : ∀ c ∈ run, isChainChar c = true) : dottedEnd (text ++ run) = dottedEnd text ++ run := by
  have hback : ∀ c ∈ run.reverse, isChainChar c = true := by
    intro c hc
    exact hrun c (List.mem_reverse.mp hc)
  rw [dottedEnd, List.reverse_append, List.takeWhile_append_of_pos hback, List.reverse_append,
    List.reverse_reverse, dottedEnd]

theorem exists_eq_append_dottedEnd (text : List Char) :
    ∃ apart, text = apart ++ dottedEnd text ∧ ∀ c ∈ apart.getLast?, isChainChar c = false := by
  refine ⟨(text.reverse.dropWhile isChainChar).reverse, ?_, ?_⟩
  · have hsplit := List.takeWhile_append_dropWhile (p := isChainChar) (l := text.reverse)
    rw [dottedEnd, ← List.reverse_append, hsplit, List.reverse_reverse]
  · intro c hc
    rw [List.getLast?_reverse] at hc
    have hnot := List.head?_dropWhile_not isChainChar text.reverse
    simp_all

theorem isChainChar_of_mem_dottedEnd {text : List Char} :
    ∀ c ∈ dottedEnd text, isChainChar c = true := by
  intro c hc
  exact List.mem_takeWhile_imp (List.mem_reverse.mp hc)

theorem dottedEnd_of_apart {apart run : List Char}
    (hapart : ∀ c ∈ apart.getLast?, isChainChar c = false)
    (hrun : ∀ c ∈ run, isChainChar c = true) : dottedEnd (apart ++ run) = run := by
  rw [dottedEnd, takeWhile_run_back hapart hrun, List.reverse_reverse]

/-! ## The two readings -/

theorem chainBefore?_dot (before : List Char) :
    chainBefore? (before ++ ['.']) = firstChain? (splitAt '.' (dottedEnd before)) := by
  have hend : (before ++ ['.']).getLast? ≠ some '\n' := by simp
  have hrun : dottedEnd (before ++ ['.']) = dottedEnd before ++ ['.'] :=
    dottedEnd_append before (by simp; rfl)
  have hpieces : splitAt '.' (dottedEnd before ++ ['.']) = splitAt '.' (dottedEnd before) ++ [[]] :=
    splitAt_append_cons '.' _ []
  rw [chainBefore?, dropFinalNewline_of_getLast? hend, hrun, hpieces]
  simp

/-- The chain that is read on a name right behind a dot. -/
def chainOn? (before name : List Char) : Option Chain :=
  (chainAround? (before ++ ['.'] ++ name) (before ++ ['.']).length).bind splitChain?

theorem chainAround?_name (before : List Char) {name : List Char} (hname : isName name = true) :
    chainAround? (before ++ ['.'] ++ name) (before ++ ['.']).length =
      some (dottedEnd before ++ '.' :: name) := by
  obtain ⟨apart, hbefore, hapart⟩ := exists_eq_append_dottedEnd before
  have hrun : ∀ c ∈ dottedEnd before ++ ['.'], isChainChar c = true := by
    intro c hc
    rcases List.mem_append.mp hc with hc | hc
    · exact isChainChar_of_mem_dottedEnd c hc
    · rw [List.mem_singleton.mp hc]
      rfl
  have hafter : ∀ c ∈ ([] : List Char).head?, isWordChar c = false := by simp
  have haround := chainAround?_run hapart hrun (isWordChar_of_isName hname) hafter
  have htext : before ++ ['.'] ++ name = apart ++ (dottedEnd before ++ ['.']) ++ (name ++ []) := by
    rw [List.append_nil, ← List.append_assoc apart, ← hbefore]
  have hplace : (before ++ ['.']).length = apart.length + (dottedEnd before ++ ['.']).length := by
    rw [← List.length_append, ← List.append_assoc, ← hbefore]
  rw [htext, hplace, haround]
  simp

theorem chainOn?_eq (before : List Char) {name : List Char} (hname : isName name = true) :
    chainOn? before name =
      (wholeChain? (splitAt '.' (dottedEnd before))).map (·.snoc name) := by
  have hne := splitAt_ne_nil '.' (dottedEnd before)
  have hend : (dottedEnd before ++ '.' :: name).getLast? ≠ some '\n' := by
    intro hfeed
    have hmem := List.mem_of_getLast? hfeed
    have hchain : isChainChar '\n' = true := by
      rcases List.mem_append.mp hmem with hmem | hmem
      · exact isChainChar_of_mem_dottedEnd _ hmem
      · rcases List.mem_cons.mp hmem with hdot | hmem
        · cases hdot
        · simp [isChainChar, isWordChar_of_isName hname _ hmem]
    revert hchain
    decide
  have hpieces : splitAt '.' (dottedEnd before ++ '.' :: name) =
      splitAt '.' (dottedEnd before) ++ [name] := by
    have hdots := not_dot_mem_of_word (isWordChar_of_isName hname)
    rw [splitAt_append_cons, splitAt_of_not_mem hdots]
  rw [chainOn?, chainAround?_name before hname, Option.bind_some, splitChain?,
    dropFinalNewline_of_getLast? hend, hpieces, ← wholeChain?_snoc hne hname]
  obtain ⟨word, names, hsplit⟩ := List.exists_cons_of_ne_nil hne
  rw [hsplit]
  cases names <;> rfl

/-! ## Chains at the end of a text -/

/-- A chain stands at the end of a text, behind `lead`. -/
def EndsInChain (text lead : List Char) (chain : Chain) : Prop :=
  ∃ word, text = lead ++ dotted (word :: chain.names) ∧ Space.ofWord? word = some chain.space ∧
    ∀ name ∈ chain.names, isName name = true

/-- The whole dotted text is a chain if one starts where no chain character stands before. -/
theorem wholeChain?_dottedEnd_iff {text : List Char} {chain : Chain} :
    wholeChain? (splitAt '.' (dottedEnd text)) = some chain ↔
      ∃ lead, EndsInChain text lead chain ∧ ∀ c ∈ lead.getLast?, isChainChar c = false := by
  rw [wholeChain?_eq_some_iff]
  constructor
  · rintro ⟨word, hpieces, hword, hnames⟩
    obtain ⟨apart, htext, hapart⟩ := exists_eq_append_dottedEnd text
    refine ⟨apart, ⟨word, ?_, hword, hnames⟩, hapart⟩
    rw [dotted, ← hpieces, intercalate_splitAt]
    exact htext
  · rintro ⟨lead, ⟨word, rfl, hword, hnames⟩, hlead⟩
    have hwords := isWordChar_of_pieces hword hnames
    refine ⟨word, ?_, hword, hnames⟩
    rw [dottedEnd_of_apart hlead (isChainChar_dotted hwords)]
    exact splitAt_dotted (by simp) fun piece hpiece => not_dot_mem_of_word (hwords piece hpiece)

/-- A chain is found behind the first piece of the dotted text if one starts behind a dot. -/
theorem isSome_firstChain?_tail_iff {text : List Char} :
    (firstChain? (splitAt '.' (dottedEnd text)).tail).isSome = true ↔
      ∃ lead chain, EndsInChain text lead chain ∧ lead.getLast? = some '.' := by
  rw [isSome_firstChain?_iff]
  constructor
  · rintro ⟨lead, rest, chain, htail, hwhole⟩
    obtain ⟨word, rfl, hword, hnames⟩ := wholeChain?_eq_some_iff.mp hwhole
    obtain ⟨apart, htext, _⟩ := exists_eq_append_dottedEnd text
    obtain ⟨first, tail, hpieces⟩ :=
      List.exists_cons_of_ne_nil (splitAt_ne_nil '.' (dottedEnd text))
    rw [hpieces, List.tail_cons] at htail
    have hrun : dottedEnd text = dotted (first :: lead) ++ '.' :: dotted (word :: chain.names) := by
      rw [← intercalate_splitAt '.' (dottedEnd text), hpieces, htail]
      exact intercalate_append_cons '.' (List.cons_ne_nil first lead) word chain.names
    refine ⟨apart ++ dotted (first :: lead) ++ ['.'], chain, ⟨word, ?_, hword, hnames⟩, by simp⟩
    rw [htext, hrun]
    simp
  · rintro ⟨lead, chain, ⟨word, rfl, hword, hnames⟩, hdot⟩
    have hwords := isWordChar_of_pieces hword hnames
    obtain ⟨before, rfl⟩ := List.getLast?_eq_some_iff.mp hdot
    have hrun : dottedEnd (before ++ ['.'] ++ dotted (word :: chain.names)) =
        dottedEnd before ++ '.' :: dotted (word :: chain.names) := by
      rw [List.append_assoc, dottedEnd_append before]
      · rfl
      · intro c hc
        rcases List.mem_cons.mp hc with rfl | hc
        · rfl
        · exact isChainChar_dotted hwords c hc
    have hpieces : splitAt '.' (dotted (word :: chain.names)) = word :: chain.names :=
      splitAt_dotted (by simp) fun piece hpiece => not_dot_mem_of_word (hwords piece hpiece)
    obtain ⟨first, tail, hfirst⟩ :=
      List.exists_cons_of_ne_nil (splitAt_ne_nil '.' (dottedEnd before))
    refine ⟨tail, word :: chain.names, chain, ?_, ?_⟩
    · rw [hrun, splitAt_append_cons, hpieces, hfirst, List.cons_append, List.tail_cons]
    · exact wholeChain?_eq_some_iff.mpr ⟨word, rfl, hword, hnames⟩

/-- The chain that is read on a name is the one that is read at the dot before it, unless that one
starts behind a dot and the dotted text as a whole is none. -/
theorem chainOn?_agrees_iff (before : List Char) {name : List Char} (hname : isName name = true) :
    (∀ read, chainOn? before name = some read →
      ∃ chain, chainBefore? (before ++ ['.']) = some chain ∧ read = chain.snoc name) ∧
    (chainOn? before name = (chainBefore? (before ++ ['.'])).map (·.snoc name) ↔
      ((∃ lead chain, EndsInChain before lead chain ∧ lead.getLast? = some '.') →
        ∃ lead chain, EndsInChain before lead chain ∧
          ∀ c ∈ lead.getLast?, isChainChar c = false)) := by
  have hwhole : (∃ lead chain, EndsInChain before lead chain ∧
      ∀ c ∈ lead.getLast?, isChainChar c = false) ↔
        (wholeChain? (splitAt '.' (dottedEnd before))).isSome = true := by
    rw [Option.isSome_iff_exists, exists_comm]
    simp only [wholeChain?_dottedEnd_iff]
  rw [chainOn?_eq before hname, chainBefore?_dot, ← isSome_firstChain?_tail_iff, hwhole]
  obtain ⟨word, names, hpieces⟩ :=
    List.exists_cons_of_ne_nil (splitAt_ne_nil '.' (dottedEnd before))
  rw [hpieces, firstChain?_cons, List.tail_cons]
  -- If the whole text is no chain, what starts behind a dot is left, and only one side sees it.
  cases wholeChain? (word :: names) with
  | none => cases firstChain? names <;> simp
  | some chain => simp

/-- A word for a space inside a longer chain does no harm. -/
theorem chainOn?_agrees_iff_longerChain :
    chainOn? "t.x = q.temp".toList "species".toList =
      some ⟨.query, ["temp".toList, "species".toList]⟩ := by
  have hlead : ∀ c ∈ "t.x = ".toList.getLast?, isChainChar c = false := by
    have hlast : "t.x = ".toList.getLast? = some ' ' := by decide
    rw [hlast]
    rintro c ⟨⟩
    rfl
  have hends : EndsInChain "t.x = q.temp".toList "t.x = ".toList ⟨.query, ["temp".toList]⟩ :=
    ⟨"q".toList, by decide, by decide, by decide⟩
  have hname : isName "species".toList = true := by decide +kernel
  have hagrees := (chainOn?_agrees_iff "t.x = q.temp".toList hname).2.mpr
    fun _ => ⟨_, _, hends, hlead⟩
  have hdot : chainBefore? ("t.x = q.temp".toList ++ ['.']) = some ⟨.query, ["temp".toList]⟩ := by
    decide +kernel
  rw [hagrees, hdot]
  rfl

/-- Behind a word that stands for no space, the two readings differ. -/
theorem chainOn?_disagrees_behind_dot :
    chainBefore? "x.q.".toList = some ⟨.query, []⟩ ∧
      chainAround? "x.q.m".toList 4 = some "x.q.m".toList ∧
      splitChain? "x.q.m".toList = none := by
  decide +kernel

end MolangAssist.Script
