import MolangAssist.Files.Uri
import MolangAssist.Proofs.Script.WrittenChain

/-!
# Paths and their URIs

An absolute path is written as its slashes and its parts, and reading gives the same path back.
Its URI hides nothing: the bytes of the path can be read off it, so different paths have
different URIs.
-/
namespace MolangAssist.Files

open Script Text

/-! ## Writing and reading paths -/

/-- A path as reading leaves it: nothing empty, no `.` and no slash inside a part. -/
def Path.Proper (path : Path) : Prop :=
  ∀ part ∈ path.parts, part ≠ "" ∧ part ≠ "." ∧ '/' ∉ part.toList

namespace Path

theorem proper_ofString (text : String) : (ofString text).Proper := by
  intro part hpart
  simp only [ofString, partsOf, List.mem_map, List.mem_filter, Bool.and_eq_true,
    bne_iff_ne] at hpart
  obtain ⟨piece, ⟨hpiece, hempty, hdot⟩, rfl⟩ := hpart
  refine ⟨?_, ?_, ?_⟩
  · intro h
    exact hempty (by simpa using h)
  · intro h
    exact hdot (by simpa using congrArg String.toList h)
  · rw [String.toList_ofList]
    exact not_mem_of_mem_splitAt hpiece

variable {path : Path}

theorem isAbsolute_join (hpath : path.isAbsolute = true) (next : Path) :
    (path.join next).isAbsolute = true := by
  rw [join]
  split
  · assumption
  · exact hpath

theorem Proper.join {next : Path} (hpath : path.Proper) (hnext : next.Proper) :
    (path.join next).Proper := by
  rw [Path.join]
  split
  · exact hnext
  · intro part hpart
    rcases List.mem_append.mp hpart with hpart | hpart
    · exact hpath part hpart
    · exact hnext part hpart

theorem toList_toString (habsolute : path.isAbsolute = true) :
    path.toString.toList =
      path.anchor.text.toList ++ ['/'].intercalate (path.parts.map String.toList) := by
  obtain ⟨anchor, parts⟩ := path
  cases anchor with
  | here => cases habsolute
  | root => simp [toString]
  | doubleRoot => simp [toString]

theorem head?_toString (habsolute : path.isAbsolute = true) :
    path.toString.toList.head? = some '/' := by
  rw [toList_toString habsolute]
  obtain ⟨anchor, parts⟩ := path
  cases anchor with
  | here => cases habsolute
  | root => simp [Anchor.text]
  | doubleRoot => simp [Anchor.text]

theorem toString_ne_empty (habsolute : path.isAbsolute = true) : path.toString ≠ "" := by
  intro hempty
  have hhead := head?_toString habsolute
  simp [hempty] at hhead

/-- Between the slashes of an absolute path stand its parts, behind some that are empty. -/
theorem splitAt_toString (habsolute : path.isAbsolute = true) (hproper : path.Proper) :
    ∃ blanks, splitAt '/' path.toString.toList =
      List.replicate blanks [] ++ path.parts.map String.toList := by
  have hbody : ∃ blanks, (['/'].intercalate (path.parts.map String.toList)).splitOn '/' =
      List.replicate blanks [] ++ path.parts.map String.toList := by
    by_cases hparts : path.parts = []
    · exact ⟨1, by simp [hparts]⟩
    · refine ⟨0, ?_⟩
      rw [List.splitOn_intercalate]
      · rfl
      · intro piece hpiece
        obtain ⟨part, hpart, rfl⟩ := List.mem_map.mp hpiece
        exact (hproper part hpart).2.2
      · simpa using hparts
  obtain ⟨blanks, hblanks⟩ := hbody
  rw [splitAt_eq_splitOn, toList_toString habsolute]
  cases hanchor : path.anchor with
  | here => simp [isAbsolute, hanchor] at habsolute
  | root =>
    refine ⟨blanks + 1, ?_⟩
    simp [Anchor.text, List.splitOn_cons_eq_if_modifyHead, hblanks, List.replicate_succ]
  | doubleRoot =>
    refine ⟨blanks + 2, ?_⟩
    simp [Anchor.text, List.splitOn_cons_eq_if_modifyHead, hblanks, List.replicate_succ]

theorem partsOf_toString (habsolute : path.isAbsolute = true) (hproper : path.Proper) :
    partsOf path.toString.toList = path.parts := by
  obtain ⟨blanks, hsplit⟩ := splitAt_toString habsolute hproper
  have hkept : ∀ piece ∈ path.parts.map String.toList,
      (piece != [] && piece != ['.']) = true := by
    intro piece hpiece
    obtain ⟨part, hpart, rfl⟩ := List.mem_map.mp hpiece
    obtain ⟨hempty, hdot, _⟩ := hproper part hpart
    have hdot' : part.toList ≠ ['.'] := fun h => hdot (String.toList_inj.mp h)
    simp [hempty, hdot']
  rw [partsOf, hsplit, List.filter_append, List.filter_eq_self.mpr hkept]
  simp

/-- Reading an absolute path that was written gives it back. -/
theorem ofString_toString (habsolute : path.isAbsolute = true) (hproper : path.Proper) :
    ofString path.toString = path := by
  have hparts := partsOf_toString habsolute hproper
  have hbody : ∀ c ∈ (['/'].intercalate (path.parts.map String.toList)).head?,
      (c == '/') = false := by
    intro c hc
    cases hfirst : path.parts with
    | nil => simp [hfirst] at hc
    | cons part rest =>
      obtain ⟨hempty, _, hslash⟩ := hproper part (by simp [hfirst])
      obtain ⟨d, ds, hchars⟩ := List.exists_cons_of_ne_nil (String.toList_eq_nil_iff.not.mpr hempty)
      have hcd : d = c := by
        cases rest <;> simpa [hfirst, hchars, List.intercalate_cons_cons] using hc
      rw [hchars] at hslash
      simp only [List.mem_cons, not_or] at hslash
      rw [← hcd, beq_eq_false_iff_ne]
      exact Ne.symm hslash.1
  have hslashes : path.toString.toList.takeWhile (· == '/') = path.anchor.text.toList := by
    rw [toList_toString habsolute]
    refine takeWhile_run ?_ hbody
    cases path.anchor <;> simp [Anchor.text]
  obtain ⟨anchor, parts⟩ := path
  simp only [ofString, hslashes, hparts, mk.injEq, and_true]
  cases anchor with
  | here => cases habsolute
  | root => rfl
  | doubleRoot => rfl

/-- Without a part `..`, a path leads down only. -/
theorem resolve_of_names (cwd : Place) (habsolute : path.isAbsolute = true)
    (hnames : ".." ∉ path.parts) : path.resolve cwd = path.parts := by
  have hdown : ∀ (parts : List String) (place : Place), ".." ∉ parts →
      parts.foldl Place.descend place = place ++ parts := by
    intro parts
    induction parts with
    | nil => simp
    | cons part rest ih =>
      intro place hparts
      simp only [List.mem_cons, not_or] at hparts
      rw [List.foldl_cons, ih _ hparts.2, Place.descend, if_neg (Ne.symm hparts.1)]
      simp
  rw [resolve, if_pos habsolute, hdown _ _ hnames, List.nil_append]

end Path

/-! ## URIs -/

theorem hexDigits_upper : ∀ n < 256, (hexDigits 2 n).map Char.toUpper =
    [(Nat.digitChar (n / 16)).toUpper, (Nat.digitChar (n % 16)).toUpper] := by
  decide +kernel

theorem hexValue?_upper : ∀ k < 16, hexValue? (Nat.digitChar k).toUpper = some k := by
  decide +kernel

theorem percentBytes_percentByte (b : UInt8) (rest : List Char) :
    percentBytes (percentByte b ++ rest) = b :: percentBytes rest := by
  have hb : b.toNat < 256 := b.toNat_lt
  have hhigh := hexValue?_upper (b.toNat / 16) (by omega)
  have hlow := hexValue?_upper (b.toNat % 16) (by omega)
  have hbyte : 16 * (b.toNat / 16) + b.toNat % 16 = b.toNat := Nat.div_add_mod ..
  simp only [percentByte, hexDigits_upper b.toNat hb, List.cons_append, List.nil_append,
    percentBytes, hhigh, hlow, hbyte, UInt8.ofNat_toNat]

theorem percentBytes_flatMap (bytes : List UInt8) (rest : List Char) :
    percentBytes (bytes.flatMap percentByte ++ rest) = bytes ++ percentBytes rest := by
  induction bytes with
  | nil => rfl
  | cons b bytes ih =>
    rw [List.flatMap_cons, List.append_assoc, percentBytes_percentByte, ih, List.cons_append]

theorem byteArray_toList_loop (bytes : ByteArray) (i : Nat) (seen : List UInt8) :
    ByteArray.toList.loop bytes i seen = seen.reverse ++ bytes.data.toList.drop i := by
  induction i, seen using ByteArray.toList.loop.induct bytes with
  | case1 i seen hlt ih =>
    have hi : i < bytes.data.toList.length := by simpa using hlt
    have hget : bytes.get! i = bytes.data.toList[i] := by
      simp only [ByteArray.get!, Array.getElem_toList]
      exact getElem!_pos bytes.data i (by simpa using hlt)
    rw [ByteArray.toList.loop, if_pos hlt, ih, List.drop_eq_getElem_cons hi, hget]
    simp
  | case2 i seen hge =>
    have hend : bytes.data.toList.length ≤ i := by simpa using hge
    rw [ByteArray.toList.loop, if_neg hge, List.drop_eq_nil_of_le hend, List.append_nil]

theorem toUTF8_toString (c : Char) : c.toString.toUTF8.toList = String.utf8EncodeChar c := by
  rw [ByteArray.toList, byteArray_toList_loop, Char.toString_eq_singleton,
    String.toUTF8_eq_toByteArray, String.toByteArray_singleton, List.utf8Encode_singleton,
    List.toList_data_toByteArray]
  rfl

theorem ascii_of_isUnreserved {c : Char} (hc : isUnreserved c = true) : c.toNat < 128 := by
  have halphanum : c.isAlphanum = ((decide ('A'.val ≤ c.val ∧ c.val ≤ 'Z'.val) ||
      (decide ('a'.val ≤ c.val) && decide (c.val ≤ 'z'.val))) ||
        (decide ('0'.val ≤ c.val) && decide (c.val ≤ '9'.val))) := rfl
  simp only [isUnreserved, halphanum, Bool.or_eq_true, Bool.and_eq_true, decide_eq_true_eq,
    beq_iff_eq, UInt32.le_iff_toNat_le, Char.reduceVal, UInt32.reduceToNat] at hc
  rcases hc with (((((hc | rfl) | rfl) | rfl) | rfl) | rfl)
  · rw [Char.toNat]
    omega
  all_goals decide

theorem percentBytes_unreserved {c : Char} (hc : isUnreserved c = true) (rest : List Char) :
    percentBytes (c :: rest) = String.utf8EncodeChar c ++ percentBytes rest := by
  have hsize : c.utf8Size = 1 := by
    have hascii := ascii_of_isUnreserved hc
    rw [Char.utf8Size_eq_one_iff, UInt32.le_iff_toNat_le]
    exact Nat.le_of_lt_succ hascii
  rw [String.utf8EncodeChar_eq_singleton hsize, percentBytes]
  · rfl
  · rintro a b rest rfl
    cases hc

/-- The bytes of a text can be read off its encoded form. -/
theorem percentBytes_percentEncode (text : String) :
    percentBytes (percentEncode text) = text.toList.flatMap String.utf8EncodeChar := by
  rw [percentEncode]
  induction text.toList with
  | nil => rfl
  | cons c cs ih =>
    rw [List.flatMap_cons, List.flatMap_cons]
    by_cases hc : isUnreserved c = true
    · rw [if_pos hc, List.singleton_append, percentBytes_unreserved hc, ih]
    · rw [if_neg hc, percentBytes_flatMap, ih, toUTF8_toString]

theorem percentEncode_injective {text other : String}
    (hsame : percentEncode text = percentEncode other) : text = other := by
  have hbytes := congrArg percentBytes hsame
  rw [percentBytes_percentEncode, percentBytes_percentEncode] at hbytes
  rw [← String.toByteArray_inj, ← String.utf8Encode_toList, ← String.utf8Encode_toList,
    List.utf8Encode, List.utf8Encode, hbytes]

/-- The URI of an absolute path. -/
def Path.uri (path : Path) : String := "file://" ++ String.ofList (percentEncode path.toString)

theorem Path.uri_injective {path other : Path} (hpath : path.isAbsolute = true)
    (hother : other.isAbsolute = true) (hproper : path.Proper) (hproper' : other.Proper)
    (hsame : path.uri = other.uri) : path = other := by
  have hencoded : percentEncode path.toString = percentEncode other.toString := by
    have hchars := congrArg String.toList hsame
    simpa [uri] using hchars
  rw [← ofString_toString hpath hproper, percentEncode_injective hencoded,
    ofString_toString hother hproper']

end MolangAssist.Files
