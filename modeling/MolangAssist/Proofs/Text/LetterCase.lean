import Mathlib.Data.List.Forall2
import Mathlib.Data.List.TakeWhile
import MolangAssist.Text.Case
import MolangAssist.Text.Characters

/-!
# What lower case does not see

Lower case forgets the case of ASCII letters, whatever stands around them. It treats the parts of a
text between slashes one by one, since a slash is no letter and ends every word.
-/
namespace MolangAssist.Text

/-! ## ASCII letters -/

/-- One character, or one ASCII letter in both cases: `Char.toLower` changes no other ones. -/
def SameLetter (c d : Char) : Prop := c.toLower = d.toLower

instance : DecidableRel SameLetter := fun c d => inferInstanceAs (Decidable (c.toLower = d.toLower))

theorem forall_ascii {P : Char → Prop} (h : ∀ n < 128, P (Char.ofNat n)) {c : Char}
    (hc : c.toNat < 128) : P c := by
  have hchar := h c.toNat hc
  rwa [Char.ofNat_toNat] at hchar

theorem toLower_of_not_ascii {c : Char} (hc : ¬c.toNat < 128) : c.toLower = c := by
  refine dif_neg fun hupper => ?_
  have hle : c.toNat ≤ 90 := UInt32.le_iff_toNat_le.mp hupper.2
  omega

theorem toLower_eq_self {c : Char} (hc : c.toLower.isAlpha = false) : c.toLower = c := by
  by_cases hascii : c.toNat < 128
  · revert hc
    exact forall_ascii (P := fun c => c.toLower.isAlpha = false → c.toLower = c) (by decide) hascii
  · exact toLower_of_not_ascii hascii

/-- A character that is no letter stands for itself only. -/
theorem SameLetter.eq_of_not_isAlpha {c d : Char} (hsame : SameLetter c d)
    (hc : c.isAlpha = false) (hlower : c.toLower = c) : d = c := by
  have hd : d.toLower = c := hsame.symm.trans hlower
  have hself : d.toLower = d := toLower_eq_self (by rw [hd, hc])
  exact hself.symm.trans hd

theorem lowerChar_toLower (c : Char) : lowerChar c.toLower = lowerChar c := by
  by_cases hascii : c.toNat < 128
  · exact forall_ascii (P := fun c => lowerChar c.toLower = lowerChar c) (by decide) hascii
  · rw [toLower_of_not_ascii hascii]

theorem isCased_toLower (c : Char) : isCased c.toLower = isCased c := by
  by_cases hascii : c.toNat < 128
  · exact forall_ascii (P := fun c => isCased c.toLower = isCased c) (by decide) hascii
  · rw [toLower_of_not_ascii hascii]

theorem isCaseIgnorable_toLower (c : Char) : isCaseIgnorable c.toLower = isCaseIgnorable c := by
  by_cases hascii : c.toNat < 128
  · exact forall_ascii (P := fun c => isCaseIgnorable c.toLower = isCaseIgnorable c) (by decide)
      hascii
  · rw [toLower_of_not_ascii hascii]

theorem toLower_eq_sigma_iff (c : Char) : c.toLower = 'Σ' ↔ c = 'Σ' := by
  constructor
  · intro hc
    have hself : c.toLower = c := toLower_eq_self (by rw [hc]; decide)
    exact hself.symm.trans hc
  · rintro rfl
    decide

theorem startsCased_cons (c : Char) (cs : List Char) :
    startsCased (c :: cs) = if isCaseIgnorable c then startsCased cs else isCased c := by
  rw [startsCased, List.dropWhile_cons]
  by_cases hc : isCaseIgnorable c = true
  · rw [if_pos hc, if_pos hc]
    rfl
  · rw [if_neg hc, if_neg hc]

theorem startsCased_map_toLower (s : List Char) :
    startsCased (s.map Char.toLower) = startsCased s := by
  induction s with
  | nil => rfl
  | cons c cs ih =>
    rw [List.map_cons, startsCased_cons, startsCased_cons, isCaseIgnorable_toLower, isCased_toLower,
      ih]

theorem lowerFrom_map_toLower (inWord : Bool) (s : List Char) :
    lowerFrom inWord (s.map Char.toLower) = lowerFrom inWord s := by
  induction s generalizing inWord with
  | nil => rfl
  | cons c cs ih =>
    simp only [List.map_cons, lowerFrom, toLower_eq_sigma_iff, startsCased_map_toLower,
      lowerChar_toLower, isCaseIgnorable_toLower, isCased_toLower, ih]

/-- The case of ASCII letters does not show in lower case. -/
theorem lower_congr {s t : List Char} (hsame : List.Forall₂ SameLetter s t) :
    lower s = lower t := by
  have hmap : s.map Char.toLower = t.map Char.toLower := by
    induction hsame with
    | nil => rfl
    | cons hhead _ ih => rw [List.map_cons, List.map_cons, hhead, ih]
  rw [lower, lower, ← lowerFrom_map_toLower, hmap, lowerFrom_map_toLower]

/-! ## Slashes -/

theorem startsCased_append_slash (s t : List Char) :
    startsCased (s ++ '/' :: t) = startsCased s := by
  induction s with
  | nil => rfl
  | cons c cs ih => rw [List.cons_append, startsCased_cons, startsCased_cons, ih]

theorem lowerFrom_append_slash (inWord : Bool) (s t : List Char) :
    lowerFrom inWord (s ++ '/' :: t) = lowerFrom inWord s ++ '/' :: lower t := by
  induction s generalizing inWord with
  | nil => rfl
  | cons c cs ih =>
    simp only [List.cons_append, lowerFrom, startsCased_append_slash, ih, List.append_assoc]

theorem lower_append_slash (s t : List Char) :
    lower (s ++ '/' :: t) = lower s ++ '/' :: lower t := lowerFrom_append_slash false s t

/-! ## Slashes at the ends -/

theorem trimWhile_append_left {p : Char → Bool} {lead : List Char} (hlead : ∀ c ∈ lead, p c = true)
    (s : List Char) : trimWhile p (lead ++ s) = trimWhile p s := by
  rw [trimWhile, trimWhile, List.dropWhile_append_of_pos hlead]

theorem trimWhile_append_right {p : Char → Bool} {tail : List Char} (htail : ∀ c ∈ tail, p c = true)
    (s : List Char) : trimWhile p (s ++ tail) = trimWhile p s := by
  have hreverse : ∀ c ∈ tail.reverse, p c = true := by simpa using htail
  rw [trimWhile, trimWhile, List.dropWhile_append]
  split
  · next hempty =>
    have hnone : tail.dropWhile p = [] := List.dropWhile_eq_nil_iff.mpr htail
    rw [List.isEmpty_iff.mp hempty, hnone]
  · rw [List.reverse_append, List.dropWhile_append_of_pos hreverse]

theorem exists_trimWhile (p : Char → Bool) (s : List Char) :
    ∃ lead tail, s = lead ++ (trimWhile p s ++ tail) ∧ (∀ c ∈ lead, p c = true) ∧
      ∀ c ∈ tail, p c = true := by
  refine ⟨s.takeWhile p, ((s.dropWhile p).reverse.takeWhile p).reverse, ?_, ?_, ?_⟩
  · rw [trimWhile, ← List.reverse_append, List.takeWhile_append_dropWhile, List.reverse_reverse,
      List.takeWhile_append_dropWhile]
  · exact fun c => List.mem_takeWhile_imp
  · intro c hc
    exact List.mem_takeWhile_imp (List.mem_reverse.mp hc)

/-- Only slashes. -/
def OfSlashes (s : List Char) : Prop := ∀ c ∈ s, (c == '/') = true

theorem lower_slashes_append {lead : List Char} (hlead : OfSlashes lead) (s : List Char) :
    lower (lead ++ s) = lead ++ lower s := by
  induction lead with
  | nil => rfl
  | cons c cs ih =>
    obtain ⟨hc, hcs⟩ := List.forall_mem_cons.mp hlead
    obtain rfl : c = '/' := beq_iff_eq.mp hc
    rw [List.cons_append, List.cons_append, ← ih hcs]
    exact lower_append_slash [] (cs ++ s)

theorem lower_append_slashes {tail : List Char} (htail : OfSlashes tail) (s : List Char) :
    lower (s ++ tail) = lower s ++ tail := by
  cases tail with
  | nil => rw [List.append_nil, List.append_nil]
  | cons c cs =>
    obtain ⟨hc, hcs⟩ := List.forall_mem_cons.mp htail
    obtain rfl : c = '/' := beq_iff_eq.mp hc
    have hslashes : lower cs = cs := by simpa [lower, lowerFrom] using lower_slashes_append hcs []
    rw [lower_append_slash, hslashes]

/-- Slashes at the ends of a text do not show once it is trimmed in lower case. -/
theorem trimWhile_lower_trimWhile (s : List Char) :
    trimWhile (· == '/') (lower (trimWhile (· == '/') s)) = trimWhile (· == '/') (lower s) := by
  obtain ⟨lead, tail, hsplit, hlead, htail⟩ := exists_trimWhile (· == '/') s
  conv_rhs =>
    rw [hsplit, lower_slashes_append hlead, lower_append_slashes htail,
      trimWhile_append_left hlead, trimWhile_append_right htail]

end MolangAssist.Text
