import MolangAssist.Proofs.Script.CallSites

/-!
# Declared names

The names that a text declares are found by one scan over all declarations, the offsets of one
name by a scan for that name alone. The first scan takes the quoted part of each declaration away.
If that part was left open, it reaches up to the quote of the next declaration, which is then
passed over. This is the only way in which the two scans can differ.
-/
namespace MolangAssist.Script

open Text

/-! ## Openings -/

/-- The text of a declaration up to its first quote. -/
def IsOpening (s : List Char) : Prop :=
  ∃ blanks blanks', s = ['f', 'n'] ++ blanks ++ ['('] ++ blanks' ∧
    (∀ c ∈ blanks, isBlank c = true) ∧ ∀ c ∈ blanks', isBlank c = true

theorem IsOpening.exists_cons {opening : List Char} (hopening : IsOpening opening) :
    ∃ rest, opening = 'f' :: rest ∧ 'f' ∉ rest ∧ '(' ∈ rest ∧ '\'' ∉ opening := by
  obtain ⟨blanks, blanks', rfl, hblanks, hblanks'⟩ := hopening
  have hmark : ∀ mark, isBlank mark = false → mark ∉ blanks ∧ mark ∉ blanks' := by
    intro mark hmark
    refine ⟨fun hmem => ?_, fun hmem => ?_⟩
    · rw [hblanks mark hmem] at hmark
      cases hmark
    · rw [hblanks' mark hmem] at hmark
      cases hmark
  obtain ⟨hf, hf'⟩ := hmark 'f' (by decide)
  obtain ⟨hquote, hquote'⟩ := hmark '\'' (by decide)
  refine ⟨['n'] ++ blanks ++ ['('] ++ blanks', by simp, ?_, by simp, ?_⟩
  · simp [hf, hf']
  · simp [hquote, hquote']

theorem declarationOpening?_eq_some_iff {s rest : List Char} :
    declarationOpening? s = some rest ↔
      ∃ opening, IsOpening opening ∧ s = opening ++ '\'' :: rest := by
  have hparen : isBlank '(' = false := by decide
  have hquote : isBlank '\'' = false := by decide
  simp only [declarationOpening?, Option.bind_eq_bind, Option.bind_eq_some_iff,
    after?_skipBlanks_eq_some_iff hparen, after?_skipBlanks_eq_some_iff hquote]
  simp only [after?_eq_some_iff]
  constructor
  · rintro ⟨_, rfl, _, ⟨blanks, rfl, hblanks⟩, blanks', rfl, hblanks'⟩
    exact ⟨_, ⟨blanks, blanks', rfl, hblanks, hblanks'⟩, by simp⟩
  · rintro ⟨_, ⟨blanks, blanks', rfl, hblanks, hblanks'⟩, rfl⟩
    exact ⟨_, by simp, _, ⟨blanks, rfl, hblanks⟩, blanks', rfl, hblanks'⟩

theorem declaration_eq_some_iff {before : Option Char} {s body rest : List Char} :
    declaration before s = some (body, rest) ↔
      ∃ opening, IsOpening opening ∧ s = opening ++ '\'' :: (body ++ '\'' :: rest) ∧
        body ≠ [] ∧ '\'' ∉ body := by
  simp only [declaration, Option.bind_eq_bind, Option.bind_eq_some_iff,
    declarationOpening?_eq_some_iff, quoteBody?_eq_some_iff]
  constructor
  · rintro ⟨_, ⟨opening, hopening, rfl⟩, rfl, hbody⟩
    exact ⟨opening, hopening, rfl, hbody⟩
  · rintro ⟨opening, hopening, rfl, hbody⟩
    exact ⟨_, ⟨opening, hopening, rfl⟩, rfl, hbody⟩

theorem declaration_consumes : declaration.Consumes := by
  intro before s body rest hread
  obtain ⟨opening, _, rfl, _⟩ := declaration_eq_some_iff.mp hread
  exact ⟨opening ++ '\'' :: (body ++ ['\'']), by simp, by simp⟩

theorem not_quote_mem_of_isName {name : List Char} (hname : isName name = true) :
    name ≠ [] ∧ '\'' ∉ name ∧ '(' ∉ name := by
  have hword := isWordChar_of_isName hname
  refine ⟨?_, fun hmem => absurd (hword _ hmem) (by decide),
    fun hmem => absurd (hword _ hmem) (by decide)⟩
  rintro rfl
  cases hname

theorem declarationOf_eq_some_iff {name : List Char} (hname : isName name = true)
    {before : Option Char} {s rest : List Char} :
    declarationOf name before s = some ((), rest) ↔ declaration before s = some (name, rest) := by
  obtain ⟨hne, hquote, _⟩ := not_quote_mem_of_isName hname
  rw [declaration_eq_some_iff]
  simp only [declarationOf, Option.bind_eq_bind, Option.bind_eq_some_iff,
    declarationOpening?_eq_some_iff, after?_eq_some_iff, Option.some.injEq, Prod.mk.injEq,
    true_and]
  constructor
  · rintro ⟨_, ⟨opening, hopening, rfl⟩, _, rfl, rfl⟩
    exact ⟨opening, hopening, by simp, hne, hquote⟩
  · rintro ⟨opening, hopening, rfl, _⟩
    exact ⟨_, ⟨opening, hopening, rfl⟩, rest, by simp, rfl⟩

/-! ## Declarations inside others -/

/-- A declaration that starts inside another one opens at the end of its quoted part. -/
theorem opening_suffix_of_inside {before before' : Option Char}
    {s inner tail body rest body' rest' : List Char}
    (houter : declaration before s = some (body, rest)) (hsplit : s = inner ++ tail)
    (hinner : declaration before' tail = some (body', rest')) (hafter : inner ≠ [])
    (hinside : inner.length + rest.length < s.length) :
    ∃ opening, IsOpening opening ∧ opening <:+ body := by
  obtain ⟨first, hfirst, rfl, _, hquote⟩ := declaration_eq_some_iff.mp houter
  obtain ⟨opening, hopening, rfl, _⟩ := declaration_eq_some_iff.mp hinner
  obtain ⟨more, rfl, hsecond, _⟩ := hfirst.exists_cons
  obtain ⟨more', hmore', _, _, hopening'⟩ := hopening.exists_cons
  refine ⟨opening, hopening, ?_⟩
  -- An opening has only one place to start at, so the inner one starts in the quoted part.
  obtain ⟨cut, rfl, hbody⟩ : ∃ cut, inner = 'f' :: more ++ ['\''] ++ cut ∧
      body ++ '\'' :: rest = cut ++ (opening ++ '\'' :: (body' ++ '\'' :: rest')) := by
    rw [List.append_cons] at hsplit
    rcases List.append_eq_append_iff.mp hsplit with hbehind | ⟨cut, hcut, hrest⟩
    · exact hbehind
    · cases cut with
      | nil => exact ⟨[], by simpa using hcut.symm, hrest.symm⟩
      | cons c cut =>
        obtain ⟨d, inner, rfl⟩ := List.exists_cons_of_ne_nil hafter
        rw [hmore'] at hrest
        obtain ⟨rfl, _⟩ := List.cons.inj hrest
        have htail : more ++ ['\''] = inner ++ 'f' :: cut := (List.cons.inj hcut).2
        have hf : 'f' ∈ more ++ ['\''] := by
          rw [htail]
          simp
        simp [hsecond] at hf
  -- The quoted part ends at the next quote, which is the one of the inner declaration.
  rcases List.append_eq_append_iff.mp hbody with ⟨past, rfl, hpast⟩ | ⟨kept, rfl, hkept⟩
  · exfalso
    cases past with
    | nil =>
      rw [List.nil_append, hmore'] at hpast
      cases hpast
    | cons c past =>
      obtain ⟨_, rfl⟩ := List.cons.inj hpast
      simp only [List.length_append, List.length_cons, List.length_nil] at hinside
      omega
  · have hkept' : '\'' ∉ kept := fun hmem => hquote (List.mem_append_right cut hmem)
    rw [eq_of_append_separator hopening' hkept' hkept]
    exact List.suffix_append cut kept

theorem opening_suffix_of_between {text lead tail lead' used body rest body' rest' : List Char}
    {before before' : Option Char} (houter : text = lead' ++ (used ++ rest))
    (hread : declaration before (used ++ rest) = some (body, rest)) (hinner : text = lead ++ tail)
    (hread' : declaration before' tail = some (body', rest')) (hfrom : lead'.length < lead.length)
    (hto : lead.length < lead'.length + used.length) :
    ∃ opening, IsOpening opening ∧ opening <:+ body := by
  obtain ⟨inner, rfl, hsplit⟩ := exists_append_of_length_le (houter.symm.trans hinner) hfrom.le
  have hlength := congrArg List.length hsplit
  simp only [List.length_append] at hfrom hto hlength
  refine opening_suffix_of_inside hread hsplit hread' ?_ ?_
  · rintro rfl
    simp at hfrom
  · simp only [List.length_append]
    omega

/-! ## The two scans -/

/-- The offsets of a name are all places where a declaration of it stands. -/
theorem mem_declarationOffsets_iff {text name : List Char} (hname : isName name = true)
    {offset : Nat} :
    offset ∈ declarationOffsets text name ↔
      ∃ lead tail rest, text = lead ++ tail ∧ lead.length = offset ∧
        declaration lead.getLast? tail = some (name, rest) := by
  have hconsumes := declarationOf_consumes name
  rw [declarationOffsets, List.mem_map]
  constructor
  · rintro ⟨hit, hhit, rfl⟩
    obtain ⟨lead, used, rest, hsplit, hread, hstart, _⟩ :=
      scanFrom_sound hconsumes 0 none text hit hhit
    rw [Option.or_none] at hread
    refine ⟨lead, used ++ rest, rest, hsplit, by omega, ?_⟩
    exact (declarationOf_eq_some_iff hname).mp hread
  · rintro ⟨lead, tail, rest, hsplit, rfl, hread⟩
    have hread' : declarationOf name (lead.getLast?.or none) tail = some ((), rest) := by
      rw [Option.or_none]
      exact (declarationOf_eq_some_iff hname).mpr hread
    obtain ⟨hit, hhit, hfrom, hto, _⟩ := scanFrom_covers hconsumes 0 none text hsplit hread'
    refine ⟨hit, hhit, ?_⟩
    by_contra hother
    obtain ⟨lead', used, rest', hsplit', hfound, hstart, hstop⟩ :=
      scanFrom_sound hconsumes 0 none text hit hhit
    -- The place would lie in a declaration of the same name, but no name ends in an opening.
    obtain ⟨opening, hopening, hsuffix⟩ := opening_suffix_of_between hsplit'
      ((declarationOf_eq_some_iff hname).mp hfound) hsplit hread (by omega) (by omega)
    obtain ⟨more, rfl, _, hparen, _⟩ := hopening.exists_cons
    have hmem : '(' ∈ name := hsuffix.subset (List.mem_cons_of_mem _ hparen)
    exact (not_quote_mem_of_isName hname).2.2 hmem

/-- A place inside a declaration that the scan for all names finds. -/
def Swallowed (text : List Char) (offset : Nat) : Prop :=
  ∃ hit ∈ scan declaration text, hit.start < offset ∧ offset < hit.stop

instance (text : List Char) (offset : Nat) : Decidable (Swallowed text offset) :=
  inferInstanceAs
    (Decidable (∃ hit ∈ scan declaration text, hit.start < offset ∧ offset < hit.stop))

/-- A name is listed if one of its declarations does not start inside another declaration. -/
theorem mem_declaredNames_iff {text name : List Char} (hname : isName name = true) :
    name ∈ declaredNames text ↔
      ∃ offset ∈ declarationOffsets text name, ¬Swallowed text offset := by
  have hconsumes := declaration_consumes
  rw [declaredNames, mem_firstOccurrences, List.mem_map]
  constructor
  · rintro ⟨hit, hhit, rfl⟩
    obtain ⟨lead, used, rest, hsplit, hread, hstart, _⟩ :=
      scanFrom_sound hconsumes 0 none text hit hhit
    rw [Option.or_none] at hread
    refine ⟨hit.start, ?_, ?_⟩
    · exact (mem_declarationOffsets_iff hname).mpr
        ⟨lead, used ++ rest, rest, hsplit, by omega, hread⟩
    · rintro ⟨other, hother, hfrom, hto⟩
      have hbounds := scanFrom_bounds hconsumes 0 none text hit hhit
      rcases scan_apart hconsumes hhit hother with rfl | hapart | hapart <;> omega
  · rintro ⟨offset, hoffset, hfree⟩
    obtain ⟨lead, tail, rest, hsplit, rfl, hread⟩ := (mem_declarationOffsets_iff hname).mp hoffset
    have hread' : declaration (lead.getLast?.or none) tail = some (name, rest) := by
      rwa [Option.or_none]
    obtain ⟨hit, hhit, hfrom, hto, hvalue⟩ := scanFrom_covers hconsumes 0 none text hsplit hread'
    rw [Nat.zero_add] at hfrom hto hvalue
    refine ⟨hit, hhit, hvalue ?_⟩
    by_contra hother
    exact hfree ⟨hit, hhit, by omega, hto⟩

/-- What swallows a declaration is listed with the opening of that declaration at its end. -/
theorem exists_listed_of_swallowed {text name : List Char} (hname : isName name = true)
    {offset : Nat} (hoffset : offset ∈ declarationOffsets text name)
    (hswallowed : Swallowed text offset) :
    ∃ listed ∈ declaredNames text, ∃ opening, IsOpening opening ∧ opening <:+ listed := by
  obtain ⟨lead, tail, rest, hsplit, rfl, hread⟩ := (mem_declarationOffsets_iff hname).mp hoffset
  obtain ⟨hit, hhit, hfrom, hto⟩ := hswallowed
  obtain ⟨lead', used, rest', hsplit', hfound, hstart, hstop⟩ :=
    scanFrom_sound declaration_consumes 0 none text hit hhit
  refine ⟨hit.value, mem_firstOccurrences.mpr (List.mem_map_of_mem hhit), ?_⟩
  exact opening_suffix_of_between hsplit' hfound hsplit hread (by omega) (by omega)

end MolangAssist.Script
