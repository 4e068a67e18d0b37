import MolangAssist.Json.Token

/-!
# Half pairs in texts

A text literal may hold half a pair of surrogates, which is no character. The characters that stand
for it are read back, so texts with different code points stay different. A zero character among
them says that the text is no path.
-/
namespace MolangAssist.Json

/-- What a mark means before some characters, if it does not stand for itself alone. -/
def behindMark? : List Char → Option Nat
  | [] => none
  | c :: _ =>
    if isHalf (c.toNat - halfShift) then some (c.toNat - halfShift)
    else if c.toNat = halfMark then some halfMark else none

/-- The half that is in no path and that stands behind a zero character. -/
def behindZero? : List Char → Option Nat
  | [] => none
  | c :: cs =>
    if c.toNat = halfMark then (behindMark? cs).filter fun code => isHalf code && !isByteHalf code
    else none

/-- Reads the code points back; `skip` of the characters belong to one that was read already. -/
def codesFrom : (skip : Nat) → List Char → List Nat
  | _, [] => []
  | skip + 1, _ :: cs => codesFrom skip cs
  | 0, c :: cs =>
    if c.toNat = halfMark then
      match behindMark? cs with
      | some code => code :: codesFrom 1 cs
      | none => halfMark :: codesFrom 0 cs
    else if c.toNat = 0 then
      match behindZero? cs with
      | some code => code :: codesFrom 2 cs
      | none => 0 :: codesFrom 0 cs
    else c.toNat :: codesFrom 0 cs

/-! ## Characters from code points -/

/-- All code points there are. -/
def IsCodePoint (code : Nat) : Prop := code < 0x110000

theorem isHalf_iff (code : Nat) : isHalf code = true ↔ 0xD800 ≤ code ∧ code < 0xE000 := by
  simp [isHalf]

theorem halfMark_pos : 0 < halfMark := by
  rw [halfMark]
  omega

theorem isHalf_halfMark : isHalf halfMark = false := by
  rw [← Bool.not_eq_true, isHalf_iff, halfMark]
  omega

theorem toNat_ofNat {code : Nat} (hcode : IsCodePoint code) (hhalf : isHalf code = false) :
    (Char.ofNat code).toNat = code := by
  have hvalid : code.isValidChar := by
    rw [← Bool.not_eq_true, isHalf_iff] at hhalf
    simp only [IsCodePoint] at hcode
    simp only [Nat.isValidChar]
    omega
  rw [Char.ofNat, dif_pos hvalid]
  rfl

theorem toNat_ofNat_halfMark : (Char.ofNat halfMark).toNat = halfMark :=
  toNat_ofNat (by rw [IsCodePoint, halfMark]; omega) isHalf_halfMark

theorem toNat_ofNat_shifted {code : Nat} (hhalf : isHalf code = true) :
    (Char.ofNat (code + halfShift)).toNat = code + halfShift := by
  rw [isHalf_iff] at hhalf
  apply toNat_ofNat
  · rw [IsCodePoint, halfShift]
    omega
  · rw [← Bool.not_eq_true, isHalf_iff, halfShift]
    omega

theorem toNat_ofNat_zero_ne : (Char.ofNat 0).toNat ≠ halfMark := Nat.ne_of_lt halfMark_pos

/-- What one code point puts before the characters of those behind it. -/
inductive Front (code : Nat) (behind : List Char) : List Char → Prop
  | refused (hhalf : isHalf code = true) (hbyte : isByteHalf code = false) :
      Front code behind [Char.ofNat 0, Char.ofNat halfMark, Char.ofNat (code + halfShift)]
  | byte (hhalf : isHalf code = true) (hbyte : isByteHalf code = true) :
      Front code behind [Char.ofNat halfMark, Char.ofNat (code + halfShift)]
  | doubled (hcode : code = halfMark) (hbinds : behind.head?.any bindsMark = true) :
      Front code behind [Char.ofNat halfMark, Char.ofNat halfMark]
  | plain (hhalf : isHalf code = false)
      (hfree : code = halfMark → behind.head?.any bindsMark = false) :
      Front code behind [Char.ofNat code]

theorem charactersOf_cons (code : Nat) (rest : List Nat) :
    ∃ front, Front code (charactersOf rest) front ∧
      charactersOf (code :: rest) = front ++ charactersOf rest := by
  rw [charactersOf]
  cases hhalf : isHalf code with
  | true =>
    cases hbyte : isByteHalf code with
    | true => exact ⟨_, .byte hhalf hbyte, rfl⟩
    | false => exact ⟨_, .refused hhalf hbyte, rfl⟩
  | false =>
    by_cases hdoubled : code = halfMark ∧ (charactersOf rest).head?.any bindsMark = true
    · exact ⟨_, .doubled hdoubled.1 hdoubled.2, by simp [hdoubled]⟩
    · refine ⟨_, .plain hhalf fun hcode => ?_, by simp [hdoubled]⟩
      simpa [hcode] using hdoubled

/-! ## Code points from characters -/

theorem behindMark?_shifted {code : Nat} (hhalf : isHalf code = true) (behind : List Char) :
    behindMark? (Char.ofNat (code + halfShift) :: behind) = some code := by
  rw [behindMark?, toNat_ofNat_shifted hhalf, Nat.add_sub_cancel, if_pos hhalf]

theorem behindMark?_mark (behind : List Char) :
    behindMark? (Char.ofNat halfMark :: behind) = some halfMark := by
  rw [behindMark?, toNat_ofNat_halfMark, if_neg (by decide), if_pos rfl]

theorem bindsMark_eq_false_iff (c : Char) :
    bindsMark c = false ↔ isHalf (c.toNat - halfShift) = false ∧ c.toNat ≠ halfMark := by
  rw [bindsMark, Bool.or_eq_false_iff, beq_eq_false_iff_ne]

theorem behindMark?_of_free {behind : List Char} (hfree : behind.head?.any bindsMark = false) :
    behindMark? behind = none := by
  cases behind with
  | nil => rfl
  | cons c cs =>
    rw [List.head?_cons, Option.any_some, bindsMark_eq_false_iff] at hfree
    rw [behindMark?, if_neg (Bool.not_eq_true _ ▸ hfree.1), if_neg hfree.2]

theorem behindZero?_mark (behind : List Char) :
    behindZero? (Char.ofNat halfMark :: behind) =
      (behindMark? behind).filter fun code => isHalf code && !isByteHalf code := by
  rw [behindZero?, if_pos toNat_ofNat_halfMark]

theorem codesFrom_mark (behind : List Char) :
    codesFrom 0 (Char.ofNat halfMark :: behind) =
      match behindMark? behind with
      | some code => code :: codesFrom 1 behind
      | none => halfMark :: codesFrom 0 behind := by
  rw [codesFrom, if_pos toNat_ofNat_halfMark]

/-- A half that is in no path has a zero character of its own, so none is taken for it. -/
theorem behindZero?_charactersOf {codes : List Nat} (hcodes : ∀ code ∈ codes, IsCodePoint code) :
    behindZero? (charactersOf codes) = none := by
  cases codes with
  | nil => rfl
  | cons code rest =>
    obtain ⟨front, hfront, hchars⟩ := charactersOf_cons code rest
    rw [hchars]
    cases hfront with
    | refused hhalf hbyte =>
      simp only [List.cons_append, behindZero?, if_neg toNat_ofNat_zero_ne]
    | byte hhalf hbyte =>
      rw [List.cons_append, List.cons_append, behindZero?_mark, behindMark?_shifted hhalf]
      simp [Option.filter, hbyte]
    | doubled hcode hbinds =>
      rw [List.cons_append, List.cons_append, behindZero?_mark, behindMark?_mark]
      simp [Option.filter, isHalf_halfMark]
    | plain hhalf hfree =>
      have hcode := toNat_ofNat (hcodes code List.mem_cons_self) hhalf
      simp only [List.cons_append, List.nil_append, behindZero?, hcode]
      split
      · next hmark => rw [behindMark?_of_free (hfree hmark)]; rfl
      · rfl

/-- The code points of a text are read back from its characters. -/
theorem codesFrom_charactersOf {codes : List Nat} (hcodes : ∀ code ∈ codes, IsCodePoint code) :
    codesFrom 0 (charactersOf codes) = codes := by
  induction codes with
  | nil => rfl
  | cons code rest ih =>
    have hrest : ∀ other ∈ rest, IsCodePoint other :=
      fun other hother => hcodes other (List.mem_cons_of_mem code hother)
    have hbehind := ih hrest
    obtain ⟨front, hfront, hchars⟩ := charactersOf_cons code rest
    rw [hchars]
    cases hfront with
    | refused hhalf hbyte =>
      have hfound : behindZero? (Char.ofNat halfMark :: Char.ofNat (code + halfShift) ::
          charactersOf rest) = some code := by
        rw [behindZero?_mark, behindMark?_shifted hhalf]
        simp [Option.filter, hhalf, hbyte]
      have hzero : (Char.ofNat 0).toNat = 0 := rfl
      rw [List.cons_append, List.cons_append, List.cons_append, List.nil_append, codesFrom,
        if_neg toNat_ofNat_zero_ne, if_pos hzero, hfound]
      simp only [codesFrom, hbehind]
    | byte hhalf hbyte =>
      rw [List.cons_append, List.cons_append, List.nil_append, codesFrom_mark,
        behindMark?_shifted hhalf]
      simp only [codesFrom, hbehind]
    | doubled hcode hbinds =>
      rw [List.cons_append, List.cons_append, List.nil_append, codesFrom_mark, behindMark?_mark]
      simp only [codesFrom, hbehind, hcode]
    | plain hhalf hfree =>
      have hcode := toNat_ofNat (hcodes code List.mem_cons_self) hhalf
      simp only [List.cons_append, List.nil_append, codesFrom, hcode]
      by_cases hmark : code = halfMark
      · rw [if_pos hmark, behindMark?_of_free (hfree hmark), hmark]
        simp only [hbehind]
      · rw [if_neg hmark]
        by_cases hzero : code = 0
        · rw [if_pos hzero, behindZero?_charactersOf hrest, hzero]
          simp only [hbehind]
        · rw [if_neg hzero, hbehind]

theorem charactersOf_inj {first second : List Nat} (hfirst : ∀ code ∈ first, IsCodePoint code)
    (hsecond : ∀ code ∈ second, IsCodePoint code) :
    charactersOf first = charactersOf second ↔ first = second := by
  refine ⟨fun hsame => ?_, fun hsame => by rw [hsame]⟩
  rw [← codesFrom_charactersOf hfirst, hsame, codesFrom_charactersOf hsecond]

/-! ## Text literals -/

theorem isCodePoint_toNat (c : Char) : IsCodePoint c.toNat := by
  have hvalid : c.val.toNat < 0xD800 ∨ 0xDFFF < c.val.toNat ∧ c.val.toNat < 0x110000 := c.valid
  change c.val.toNat < 0x110000
  omega

theorem hexValue?_lt {c : Char} {value : Nat} (hvalue : Text.hexValue? c = some value) :
    value < 16 := by
  simp only [Text.hexValue?, Bool.and_eq_true, decide_eq_true_eq, Char.le_def,
    UInt32.le_iff_toNat_le] at hvalue
  split at hvalue
  · next hdigit =>
    obtain rfl := Option.some.inj hvalue
    have : c.toNat ≤ 57 := hdigit.2
    change c.toNat - 48 < 16
    omega
  split at hvalue
  · next hlower =>
    obtain rfl := Option.some.inj hvalue
    have : c.toNat ≤ 102 := hlower.2
    change c.toNat - 97 + 10 < 16
    omega
  split at hvalue
  · next hupper =>
    obtain rfl := Option.some.inj hvalue
    have : c.toNat ≤ 70 := hupper.2
    change c.toNat - 65 + 10 < 16
    omega
  · cases hvalue

theorem isCodePoint_hex4? {a b c d : Char} {unit : Nat} (hunit : hex4? a b c d = some unit) :
    IsCodePoint unit := by
  simp only [hex4?, Option.bind_eq_bind, Option.bind_eq_some_iff, Option.some.injEq] at hunit
  obtain ⟨a', ha, b', hb, c', hc, d', hd, rfl⟩ := hunit
  have ha := hexValue?_lt ha
  have hb := hexValue?_lt hb
  have hc := hexValue?_lt hc
  have hd := hexValue?_lt hd
  rw [IsCodePoint]
  omega

theorem isCodePoint_textBody? {done units : List Nat} {used length : Nat} {s : List Char}
    (hdone : ∀ unit ∈ done, IsCodePoint unit)
    (hread : textBody? done used s = some (units, length)) :
    ∀ unit ∈ units, IsCodePoint unit := by
  fun_induction textBody? done used s with
  | case1 => cases hread
  | case2 done used =>
    simp only [Option.some.injEq, Prod.mk.injEq] at hread
    obtain ⟨rfl, -⟩ := hread
    simpa using hdone
  | case3 done used a b c d rest unit hunit ih =>
    exact ih (List.forall_mem_cons.mpr ⟨isCodePoint_hex4? hunit, hdone⟩) hread
  | case4 => cases hread
  | case5 done used c rest _ e _ ih =>
    exact ih (List.forall_mem_cons.mpr ⟨isCodePoint_toNat e, hdone⟩) hread
  | case6 => cases hread
  | case7 => cases hread
  | case8 done used c rest _ _ _ _ ih =>
    exact ih (List.forall_mem_cons.mpr ⟨isCodePoint_toNat c, hdone⟩) hread

theorem isCodePoint_joinUnits {units : List Nat} (hunits : ∀ unit ∈ units, IsCodePoint unit) :
    ∀ code ∈ joinUnits units, IsCodePoint code := by
  fun_induction joinUnits units with
  | case1 => exact hunits
  | case2 => exact hunits
  | case3 high low rest hpair ih =>
    simp only [Bool.and_eq_true, decide_eq_true_eq] at hpair
    simp only [List.forall_mem_cons] at hunits ⊢
    refine ⟨?_, ih hunits.2.2⟩
    rw [IsCodePoint]
    omega
  | case4 high low rest _ ih =>
    rw [List.forall_mem_cons] at hunits ⊢
    exact ⟨hunits.1, ih hunits.2⟩

/-- The code points of the text literal behind its first quote. -/
def literalCodes? (s : List Char) : Option (List Nat) :=
  (textBody? [] 1 s).map fun body => joinUnits body.1

theorem isCodePoint_literalCodes? {s : List Char} {codes : List Nat}
    (hread : literalCodes? s = some codes) : ∀ code ∈ codes, IsCodePoint code := by
  obtain ⟨⟨units, length⟩, hbody, rfl⟩ := Option.map_eq_some_iff.mp hread
  exact isCodePoint_joinUnits (isCodePoint_textBody? (by simp) hbody)

theorem token_text_iff {limits : Limits} {s : List Char} {t : String} :
    (∃ length, token limits ('"' :: s) = .ok (.text t, length)) ↔
      ∃ codes, literalCodes? s = some codes ∧ t = String.ofList (charactersOf codes) := by
  have htoken : token limits ('"' :: s) = textToken (textBody? [] 1 s) := rfl
  rw [htoken, literalCodes?]
  cases textBody? [] 1 s <;> simp [textToken, eq_comm]

/-- Two literals are the same text only if they have the same code points. -/
theorem literalCodes?_eq_of_token {limits : Limits} {first second : List Char} {t : String}
    {firstLength secondLength : Nat}
    (hfirst : token limits ('"' :: first) = .ok (.text t, firstLength))
    (hsecond : token limits ('"' :: second) = .ok (.text t, secondLength)) :
    literalCodes? first = literalCodes? second := by
  obtain ⟨codes, hcodes, rfl⟩ := token_text_iff.mp ⟨_, hfirst⟩
  obtain ⟨others, hothers, hsame⟩ := token_text_iff.mp ⟨_, hsecond⟩
  rw [String.ofList_inj, charactersOf_inj (isCodePoint_literalCodes? hcodes)
    (isCodePoint_literalCodes? hothers)] at hsame
  rw [hcodes, hothers, hsame]

/-! ## Texts that are no path -/

/-- A zero character stands for itself or comes before half a pair that is in no path. -/
theorem zero_mem_charactersOf_iff {codes : List Nat} (hcodes : ∀ code ∈ codes, IsCodePoint code) :
    Char.ofNat 0 ∈ charactersOf codes ↔
      ∃ code ∈ codes, code = 0 ∨ isHalf code = true ∧ isByteHalf code = false := by
  induction codes with
  | nil => simp [charactersOf]
  | cons code rest ih =>
    rw [List.forall_mem_cons] at hcodes
    obtain ⟨front, hfront, hchars⟩ := charactersOf_cons code rest
    simp only [hchars, List.mem_append, ih hcodes.2, List.mem_cons, exists_eq_or_imp]
    refine or_congr ?_ Iff.rfl
    have hne : ∀ {other : Nat}, (Char.ofNat other).toNat = other → 0 < other →
        Char.ofNat 0 ≠ Char.ofNat other := by
      intro other hother hpos hsame
      rw [← hother, ← hsame] at hpos
      exact absurd hpos (by decide)
    have hmark := hne toNat_ofNat_halfMark halfMark_pos
    cases hfront with
    | refused hhalf hbyte => simp [hhalf, hbyte]
    | byte hhalf hbyte =>
      have hshifted := hne (toNat_ofNat_shifted hhalf) (by rw [halfShift]; omega)
      have hzero : code ≠ 0 := by
        rw [isHalf_iff] at hhalf
        omega
      simp [hhalf, hbyte, hmark, hshifted, hzero]
    | doubled hcode hbinds =>
      simp [hmark, hcode, (Nat.ne_of_gt halfMark_pos), isHalf_halfMark]
    | plain hhalf hfree =>
      have hcode := toNat_ofNat hcodes.1 hhalf
      have hzero : Char.ofNat 0 = Char.ofNat code ↔ code = 0 := by
        refine ⟨fun hsame => ?_, fun hcode => by rw [hcode]⟩
        rw [← hcode, ← hsame]
        rfl
      simp [hzero, hhalf]

end MolangAssist.Json
