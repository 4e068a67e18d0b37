import Mathlib.Data.List.Infix
import Mathlib.Data.Nat.Digits.Defs
import MolangAssist.Proofs.Text.Readers

/-!
# Snippets

A snippet is a text with tab stops. A dollar sign and a number are a tab stop; with braces around
the number and a default text they are a placeholder, which lasts until its closing brace; and a
backslash takes the meaning from a dollar sign, a closing brace or another backslash. All else
stands for itself. Tokens that are written down one behind the other are read back if and only if
no character among them starts a special form, and none is a closing brace in a placeholder.
-/
namespace MolangAssist.Text.Snippet

/-! ## Tokens -/

/-- What an editor reads in a snippet. -/
inductive Token where
  | char (c : Char)
  | stop (n : Nat)
  | opening (n : Nat)
  | close
deriving Repr, DecidableEq

/-- The token as it is written without need for an escape. -/
def Token.written : Token → List Char
  | .char c => [c]
  | .stop n => '$' :: Nat.toDigits 10 n
  | .opening n => '$' :: '\x7b' :: (Nat.toDigits 10 n ++ [':'])
  | .close => ['\x7d']

/-- The number of open placeholders behind a token. -/
def Token.depthBehind (depth : Nat) : Token → Nat
  | .opening _ => depth + 1
  | .close => depth - 1
  | _ => depth

def write (tokens : List Token) : List Char := tokens.flatMap Token.written

/-- A text that stands for itself. -/
def literal (text : List Char) : List Token := text.map .char

@[simp] theorem write_nil : write [] = [] := rfl

@[simp] theorem write_cons (token : Token) (tokens : List Token) :
    write (token :: tokens) = token.written ++ write tokens := List.flatMap_cons

@[simp] theorem write_append (tokens more : List Token) :
    write (tokens ++ more) = write tokens ++ write more := List.flatMap_append

@[simp] theorem write_literal (text : List Char) : write (literal text) = text := by
  induction text with
  | nil => rfl
  | cons c cs ih => simpa [literal, Token.written] using ih

theorem write_intercalate (separator : List Token) (pieces : List (List Token)) :
    write (separator.intercalate pieces) = (write separator).intercalate (pieces.map write) := by
  induction pieces with
  | nil => rfl
  | cons piece pieces ih =>
    cases pieces with
    | nil => simp
    | cons next rest => simpa [List.intercalate_cons_cons] using ih

/-! ## Special forms -/

def IsNumber (digits : List Char) : Prop := digits ≠ [] ∧ ∀ c ∈ digits, c.isDigit = true

def numberOf (digits : List Char) : Nat := Nat.ofDigitChars 10 digits 0

/-- The forms that do not stand for themselves, and what they mean. -/
inductive Special : List Char → Token → Prop where
  | escape {c : Char} (hc : c ∈ ['$', '\x7d', '\\']) : Special ['\\', c] (.char c)
  | stop {digits : List Char} (hdigits : IsNumber digits) :
      Special ('$' :: digits) (.stop (numberOf digits))
  | opening {digits : List Char} (hdigits : IsNumber digits) :
      Special ('$' :: '\x7b' :: (digits ++ [':'])) (.opening (numberOf digits))

/-- No special form stands in the text. -/
def Plain (text : List Char) : Prop := ∀ form token, Special form token → ¬ form <:+: text

/-! ## Reading -/

/-- The longest number at the start of a text. -/
def number? (s : List Char) : Option (Nat × List Char) :=
  match s.takeWhile Char.isDigit with
  | [] => none
  | digits => some (numberOf digits, s.dropWhile Char.isDigit)

/-- The special form at the start of a text. -/
def special? : List Char → Option (Token × List Char)
  | '\\' :: c :: rest => if c ∈ ['$', '\x7d', '\\'] then some (.char c, rest) else none
  | '$' :: '\x7b' :: rest =>
    match number? rest with
    | some (n, ':' :: rest) => some (.opening n, rest)
    | _ => none
  | '$' :: rest => (number? rest).map fun found => (.stop found.1, found.2)
  | _ => none

/-- The tokens of a text inside `depth` placeholders, without its first `skip` characters. A closing
brace outside placeholders stands for itself. -/
def decodeFrom : (depth skip : Nat) → List Char → List Token
  | _, _, [] => []
  | depth, skip + 1, _ :: cs => decodeFrom depth skip cs
  | depth, 0, c :: cs =>
    match special? (c :: cs) with
    | some (token, rest) =>
      token :: decodeFrom (token.depthBehind depth) (cs.length - rest.length) cs
    | none =>
      if c = '\x7d' ∧ 0 < depth then .close :: decodeFrom (depth - 1) 0 cs
      else .char c :: decodeFrom depth 0 cs

/-- The tokens of a snippet. -/
def decode (snippet : List Char) : List Token := decodeFrom 0 0 snippet

/-! ## Numbers -/

theorem isNumber_toDigits (n : Nat) : IsNumber (Nat.toDigits 10 n) :=
  ⟨Nat.toDigits_ne_nil, fun _ hc => Nat.isDigit_of_mem_toDigits (by decide) (by decide) hc⟩

theorem numberOf_toDigits (n : Nat) : numberOf (Nat.toDigits 10 n) = n :=
  Nat.ofDigitChars_toDigits (by decide) (by decide)

theorem ofDigitChars_lt {digits : List Char} (hdigits : ∀ c ∈ digits, c.isDigit = true)
    (init : Nat) : Nat.ofDigitChars 10 digits init < (init + 1) * 10 ^ digits.length := by
  induction digits generalizing init with
  | nil => simp [Nat.ofDigitChars]
  | cons c cs ih =>
    have hvalue : c.toNat - '0'.toNat < 10 := by
      have hc : c.isDigit = true := hdigits c List.mem_cons_self
      simp only [Char.isDigit, Bool.and_eq_true, decide_eq_true_eq] at hc
      have hle : c.toNat ≤ '9'.toNat := hc.2
      have : '9'.toNat = 57 := rfl
      have : '0'.toNat = 48 := rfl
      omega
    calc Nat.ofDigitChars 10 (c :: cs) init
        = Nat.ofDigitChars 10 cs (10 * init + (c.toNat - '0'.toNat)) := Nat.ofDigitChars_cons
      _ < (10 * init + (c.toNat - '0'.toNat) + 1) * 10 ^ cs.length :=
        ih (fun d hd => hdigits d (List.mem_cons_of_mem c hd)) _
      _ ≤ ((init + 1) * 10) * 10 ^ cs.length := Nat.mul_le_mul_right _ (by omega)
      _ = (init + 1) * 10 ^ (c :: cs).length := by
        rw [List.length_cons, Nat.pow_succ', Nat.mul_assoc]

/-- A number is never written longer than it was read. -/
theorem length_toDigits_numberOf_le {digits : List Char} (hdigits : IsNumber digits) :
    (Nat.toDigits 10 (numberOf digits)).length ≤ digits.length := by
  have hlt : numberOf digits < 10 ^ digits.length := by
    simpa [numberOf] using ofDigitChars_lt hdigits.2 0
  exact (Nat.length_toDigits_le_iff (by decide) (List.length_pos_iff.2 hdigits.1)).2 hlt

theorem number?_sound {s rest : List Char} {n : Nat} (h : number? s = some (n, rest)) :
    ∃ digits, IsNumber digits ∧ n = numberOf digits ∧ s = digits ++ rest := by
  rw [number?] at h
  split at h
  · cases h
  · next hdigits =>
    obtain ⟨rfl, rfl⟩ := Prod.mk.inj (Option.some.inj h)
    exact ⟨_, ⟨hdigits, fun c hc => List.mem_takeWhile_imp hc⟩, rfl,
      List.takeWhile_append_dropWhile.symm⟩

theorem isSome_number?_append {digits : List Char} (hdigits : IsNumber digits)
    (rest : List Char) : (number? (digits ++ rest)).isSome = true := by
  rw [number?, List.takeWhile_append_of_pos hdigits.2]
  split
  · next h => exact absurd (List.append_eq_nil_iff.1 h).1 hdigits.1
  · rfl

theorem number?_append {digits : List Char} (hdigits : IsNumber digits) {c : Char}
    (hc : c.isDigit = false) (rest : List Char) :
    number? (digits ++ c :: rest) = some (numberOf digits, c :: rest) := by
  have htake : (digits ++ c :: rest).takeWhile Char.isDigit = digits := by
    rw [List.takeWhile_append_of_pos hdigits.2, List.takeWhile_cons_of_neg (by simp [hc]),
      List.append_nil]
  have hdrop : (digits ++ c :: rest).dropWhile Char.isDigit = c :: rest := by
    rw [List.dropWhile_append_of_pos hdigits.2, List.dropWhile_cons_of_neg (by simp [hc])]
  rw [number?, htake, hdrop]
  cases digits with
  | nil => exact absurd rfl hdigits.1
  | cons d ds => rfl

/-! ## What starts a special form -/

theorem special?_sound {s rest : List Char} {token : Token}
    (h : special? s = some (token, rest)) :
    ∃ form, Special form token ∧ s = form ++ rest := by
  rw [special?.eq_def] at h
  split at h
  · next c rest' =>
    split at h
    · next hc =>
      obtain ⟨rfl, rfl⟩ := Prod.mk.inj (Option.some.inj h)
      exact ⟨['\\', c], .escape hc, rfl⟩
    · cases h
  · split at h
    · next n rest' hnumber =>
      obtain ⟨rfl, rfl⟩ := Prod.mk.inj (Option.some.inj h)
      obtain ⟨digits, hdigits, rfl, rfl⟩ := number?_sound hnumber
      exact ⟨_, .opening hdigits, by simp⟩
    · cases h
  · obtain ⟨⟨n, rest'⟩, hnumber, hpair⟩ := Option.map_eq_some_iff.1 h
    obtain ⟨rfl, rfl⟩ := Prod.mk.inj hpair
    obtain ⟨digits, hdigits, rfl, rfl⟩ := number?_sound hnumber
    exact ⟨_, .stop hdigits, rfl⟩
  · cases h

theorem isSome_special?_iff {s : List Char} :
    (special? s).isSome = true ↔ ∃ form token, Special form token ∧ form <+: s := by
  constructor
  · intro h
    obtain ⟨⟨token, rest⟩, hspecial⟩ := Option.isSome_iff_exists.1 h
    obtain ⟨form, hform, rfl⟩ := special?_sound hspecial
    exact ⟨form, token, hform, List.prefix_append form rest⟩
  · rintro ⟨form, token, hform, rest, rfl⟩
    cases hform with
    | @escape c hc => simp [special?, hc]
    | @stop digits hdigits =>
      obtain ⟨d, ds, rfl⟩ := List.exists_cons_of_ne_nil hdigits.1
      have hd : d ≠ '\x7b' := by
        rintro rfl
        exact absurd (hdigits.2 _ List.mem_cons_self) (by decide)
      have hsome := isSome_number?_append hdigits rest
      simpa [special?, hd] using hsome
    | @opening digits hdigits =>
      simp [special?, number?_append hdigits (c := ':') rfl rest]

theorem special?_eq_none_iff {s : List Char} :
    special? s = none ↔ ∀ form token, Special form token → ¬ form <+: s := by
  rw [← Option.isNone_iff_eq_none, ← Option.not_isSome, Bool.not_eq_true', ← Bool.not_eq_true,
    isSome_special?_iff]
  simp only [not_exists, not_and]

theorem plain_iff {text : List Char} :
    Plain text ↔ ∀ rest ∈ text.tails, special? rest = none := by
  simp only [Plain, special?_eq_none_iff, List.mem_tails, List.infix_iff_prefix_suffix]
  constructor
  · intro hplain rest hrest form token hform hstarts
    exact hplain form token hform ⟨rest, hstarts, hrest⟩
  · rintro hfree form token hform ⟨rest, hstarts, hrest⟩
    exact hfree rest hrest form token hform hstarts

instance (text : List Char) : Decidable (Plain text) := decidable_of_iff' _ plain_iff

/-! ## Special forms before a parenthesis or a brace -/

theorem Special.ne_nil {form : List Char} {token : Token} (h : Special form token) :
    form ≠ [] := by
  cases h <;> exact List.cons_ne_nil _ _

/-- Neither a parenthesis nor a closing brace stands in a special form, but for the escape of a
brace. -/
theorem Special.eq_escape {form : List Char} {token : Token} (h : Special form token)
    {x : Char} (hx : x ∈ ['(', '\x7d']) (hmem : x ∈ form) : form = ['\\', '\x7d'] := by
  have hdigit : x.isDigit ≠ true := by
    rcases List.mem_pair.1 hx with rfl | rfl <;> decide
  have hother : x ∉ ['$', '\x7b', ':', '\\'] := by
    rcases List.mem_pair.1 hx with rfl | rfl <;> decide
  simp only [List.mem_cons, List.not_mem_nil, or_false, not_or] at hx hother
  cases h with
  | escape hc =>
    simp only [List.mem_cons, List.not_mem_nil, or_false] at hc hmem
    grind
  | stop hdigits =>
    rcases List.mem_cons.1 hmem with h | h
    · exact absurd h hother.1
    · exact absurd (hdigits.2 x h) hdigit
  | opening hdigits =>
    simp only [List.mem_cons, List.mem_append, List.not_mem_nil, or_false] at hmem
    rcases hmem with h | h | h | h
    · exact absurd h hother.1
    · exact absurd h hother.2.1
    · exact absurd (hdigits.2 x h) hdigit
    · exact absurd h hother.2.2.1

/-- So what is written behind such a character does not matter. -/
theorem Special.prefix_concat {form rest more : List Char} {token : Token}
    (h : Special form token) {x : Char} (hx : x ∈ ['(', '\x7d']) (hrest : rest ≠ [])
    (hstarts : form <+: rest ++ x :: more) : form <+: rest ++ [x] := by
  have hconcat : rest ++ [x] <+: rest ++ x :: more := by simp
  by_cases hlength : form.length ≤ (rest ++ [x]).length
  · exact List.prefix_of_prefix_length_le hstarts hconcat hlength
  · have hform : rest ++ [x] <+: form :=
      List.prefix_of_prefix_length_le hconcat hstarts (Nat.le_of_not_le hlength)
    have hescape := h.eq_escape hx (hform.subset (by simp))
    have hpos := List.length_pos_iff.2 hrest
    simp only [hescape, List.length_append, List.length_cons, List.length_nil] at hlength
    omega

theorem plain_concat_iff {s : List Char} {x : Char} (hx : x ∈ ['(', '\x7d'])
    (more : List Char) :
    Plain (s ++ [x]) ↔
      ∀ rest, rest <:+ s → rest ≠ [] → special? (rest ++ x :: more) = none := by
  simp only [special?_eq_none_iff]
  constructor
  · intro hplain rest hrest hne form token hform hstarts
    have hstands := (hform.prefix_concat hx hne hstarts).isInfix
    exact hplain form token hform
      (hstands.trans (List.suffix_append_self_iff.2 hrest).isInfix)
  · intro hfree form token hform hstands
    obtain ⟨tail, hstarts, htail⟩ := List.infix_iff_prefix_suffix.1 hstands
    rcases List.suffix_concat_iff.1 htail with rfl | ⟨rest, rfl, hrest⟩
    · exact hform.ne_nil (List.prefix_nil.1 hstarts)
    · rcases eq_or_ne rest [] with rfl | hne
      · have halone : special? [x] = none := by
          rcases List.mem_pair.1 hx with rfl | rfl <;> rfl
        exact special?_eq_none_iff.1 halone form token hform hstarts
      · exact hfree rest hrest hne form token hform (hstarts.trans (by simp))

theorem plain_concat_parenthesis {s : List Char} : Plain (s ++ ['(']) ↔ Plain s := by
  constructor
  · intro hplain form token hform hstands
    exact hplain form token hform (hstands.trans (List.prefix_append s _).isInfix)
  · intro hplain form token hform hstands
    rcases List.infix_concat_iff.1 hstands with hsuffix | hstands
    · rcases List.suffix_concat_iff.1 hsuffix with hnil | ⟨rest, hrest, _⟩
      · exact hform.ne_nil hnil
      · have hmem : '(' ∈ form := by simp [hrest]
        have hescape := hform.eq_escape List.mem_cons_self hmem
        exact absurd (hescape ▸ hmem) (by decide)
    · exact hplain form token hform hstands

/-! ## Reading back -/

/-- Tokens that are written down inside `depth` placeholders are read there. -/
def ReadsBack (depth : Nat) (tokens : List Token) : Prop :=
  decodeFrom depth 0 (write tokens) = tokens

theorem decodeFrom_length (depth : Nat) (form rest : List Char) :
    decodeFrom depth form.length (form ++ rest) = decodeFrom depth 0 rest := by
  induction form with
  | nil => rfl
  | cons c cs ih => simpa [decodeFrom] using ih

theorem decodeFrom_special {s rest : List Char} {token : Token} (depth : Nat)
    (h : special? s = some (token, rest)) :
    decodeFrom depth 0 s = token :: decodeFrom (token.depthBehind depth) 0 rest := by
  obtain ⟨form, hform, rfl⟩ := special?_sound h
  obtain ⟨c, form, rfl⟩ : ∃ c cs, form = c :: cs := by cases hform <;> exact ⟨_, _, rfl⟩
  rw [List.cons_append] at h ⊢
  rw [decodeFrom, h]
  have hskip : (form ++ rest).length - rest.length = form.length := by simp
  simp only [hskip, decodeFrom_length]

theorem decodeFrom_plain {c : Char} {cs : List Char} (depth : Nat)
    (h : special? (c :: cs) = none) :
    decodeFrom depth 0 (c :: cs) =
      if c = '\x7d' ∧ 0 < depth then .close :: decodeFrom (depth - 1) 0 cs
      else .char c :: decodeFrom depth 0 cs := by
  rw [decodeFrom, h]

theorem length_written_le {form : List Char} {token : Token} (h : Special form token) :
    token.written.length ≤ form.length := by
  cases h with
  | escape hc => simp [Token.written]
  | stop hdigits => simpa [Token.written] using length_toDigits_numberOf_le hdigits
  | opening hdigits => simpa [Token.written] using length_toDigits_numberOf_le hdigits

/-- What is read is written at most as long as it stood there: an escape only loses characters. -/
theorem length_write_decodeFrom_le (depth skip : Nat) (s : List Char) :
    (write (decodeFrom depth skip s)).length ≤ s.length - skip := by
  induction s generalizing depth skip with
  | nil => simp [decodeFrom]
  | cons c cs ih =>
    cases skip with
    | succ skip => simpa [decodeFrom] using ih depth skip
    | zero =>
      cases h : special? (c :: cs) with
      | some found =>
        obtain ⟨token, rest⟩ := found
        obtain ⟨form, hform, hsplit⟩ := special?_sound h
        have hlength := congrArg List.length hsplit
        have htoken := length_written_le hform
        have hcs := ih (token.depthBehind depth) (cs.length - rest.length)
        simp only [decodeFrom, h, write_cons, List.length_append, List.length_cons] at hlength ⊢
        omega
      | none =>
        rw [decodeFrom_plain depth h]
        split
        · simpa [Token.written] using ih (depth - 1) 0
        · simpa [Token.written] using ih depth 0

/-- A character is read back if and only if it starts no special form and closes no placeholder.
It does not help that an escaped backslash is a backslash again: one character is lost, and no
token behind makes up for it. -/
theorem readsBack_char {depth : Nat} {c : Char} {tokens : List Token} :
    ReadsBack depth (.char c :: tokens) ↔
      (special? (c :: write tokens) = none ∧ (c = '\x7d' → depth = 0)) ∧
        ReadsBack depth tokens := by
  have hwrite : write (.char c :: tokens) = c :: write tokens := by simp [Token.written]
  simp only [ReadsBack, hwrite]
  cases h : special? (c :: write tokens) with
  | none =>
    rw [decodeFrom_plain depth h]
    by_cases hclose : c = '\x7d' ∧ 0 < depth
    · rw [if_pos hclose]
      constructor
      · intro hread
        cases hread
      · rintro ⟨⟨_, hdepth⟩, _⟩
        exact absurd (hdepth hclose.1) (Nat.ne_of_gt hclose.2)
    · rw [if_neg hclose]
      have hdepth : c = '\x7d' → depth = 0 := fun hc =>
        Nat.eq_zero_of_not_pos fun hpos => hclose ⟨hc, hpos⟩
      simp only [List.cons.injEq, true_and]
      exact ⟨fun hread => ⟨hdepth, hread⟩, And.right⟩
  | some found =>
    obtain ⟨token, rest⟩ := found
    rw [decodeFrom_special depth h]
    simp only [reduceCtorEq, false_and, iff_false]
    intro hread
    obtain ⟨rfl, htokens⟩ := List.cons.inj hread
    obtain ⟨form, hform, hsplit⟩ := special?_sound h
    -- Only an escaped backslash reads as the character at hand; what is left of the text is then
    -- too short for the tokens behind.
    cases hform with
    | escape hc =>
      have hlength := congrArg List.length hsplit
      have hle := length_write_decodeFrom_le depth 0 rest
      simp only [Token.depthBehind] at htokens
      simp only [htokens, List.length_append, List.length_cons, List.length_nil] at hlength hle
      omega

theorem readsBack_plainChar {depth : Nat} {c : Char} {tokens : List Token}
    (hc : c ∉ ['\\', '$', '\x7d']) :
    ReadsBack depth (.char c :: tokens) ↔ ReadsBack depth tokens := by
  simp only [List.mem_cons, List.not_mem_nil, or_false, not_or] at hc
  have hspecial : special? (c :: write tokens) = none := by
    rw [special?.eq_def]
    split <;> simp_all
  rw [readsBack_char]
  simp [hspecial, hc.2.2]

theorem readsBack_opening {depth n : Nat} {tokens : List Token} :
    ReadsBack depth (.opening n :: tokens) ↔ ReadsBack (depth + 1) tokens := by
  have hspecial : special? (write (.opening n :: tokens)) = some (.opening n, write tokens) := by
    have hnumber := number?_append (isNumber_toDigits n) (c := ':') rfl (write tokens)
    simp [Token.written, special?, hnumber, numberOf_toDigits]
  rw [ReadsBack, decodeFrom_special depth hspecial]
  simp [ReadsBack, Token.depthBehind]

theorem readsBack_close {depth : Nat} {tokens : List Token} :
    ReadsBack (depth + 1) (.close :: tokens) ↔ ReadsBack depth tokens := by
  have hspecial : special? ('\x7d' :: write tokens) = none := rfl
  have hwrite : write (.close :: tokens) = '\x7d' :: write tokens := rfl
  rw [ReadsBack, hwrite, decodeFrom_plain _ hspecial]
  simp [ReadsBack]

/-- A text is read back if and only if no special form starts in it, whatever is written behind
it, and it closes no placeholder. -/
theorem readsBack_literal_append {depth : Nat} {s : List Char} {tokens : List Token} :
    ReadsBack depth (literal s ++ tokens) ↔
      ((∀ rest, rest <:+ s → rest ≠ [] → special? (rest ++ write tokens) = none) ∧
        ('\x7d' ∈ s → depth = 0)) ∧ ReadsBack depth tokens := by
  induction s with
  | nil => simp [literal]
  | cons c cs ih =>
    have hcons : literal (c :: cs) ++ tokens = .char c :: (literal cs ++ tokens) := rfl
    rw [hcons, readsBack_char, ih, write_append, write_literal]
    constructor
    · rintro ⟨⟨hhead, hclose⟩, ⟨htail, hcloses⟩, htokens⟩
      refine ⟨⟨fun rest hrest hne => ?_, fun hmem => ?_⟩, htokens⟩
      · rcases List.suffix_cons_iff.1 hrest with rfl | hrest
        · exact hhead
        · exact htail rest hrest hne
      · rcases List.mem_cons.1 hmem with heq | hmem
        · exact hclose heq.symm
        · exact hcloses hmem
    · rintro ⟨⟨hall, hcloses⟩, htokens⟩
      exact ⟨⟨hall _ List.suffix_rfl (List.cons_ne_nil c cs), fun hc =>
          hcloses (hc ▸ List.mem_cons_self)⟩,
        ⟨fun rest hrest => hall rest (hrest.trans (List.suffix_cons c cs)),
          fun hmem => hcloses (List.mem_cons_of_mem c hmem)⟩, htokens⟩

end MolangAssist.Text.Snippet
