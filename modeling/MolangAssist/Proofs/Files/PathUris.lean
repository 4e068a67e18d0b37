import MolangAssist.Proofs.Files.Paths
import MolangAssist.Proofs.Text.LenientReading
import MolangAssist.Proofs.Text.LetterCase

/-!
# Reading the URI of a path

The URI of an absolute path has no authority and nothing behind its path, so it is never refused.
Its percent escapes are decoded to the characters of the path. So the path is read from it again,
up to the way in which a drive is written.
-/
namespace MolangAssist.Files

open Text

/-! ## Percent escapes -/

/-- Characters of an encoded text. -/
def isEncodedChar (c : Char) : Bool := isUnreserved c || c == '%'

theorem isEncodedChar_of_mem_percentByte {b : UInt8} {c : Char} (hc : c ∈ percentByte b) :
    isEncodedChar c = true := by
  have hdigit : ∀ k < 16, isEncodedChar (Nat.digitChar k).toUpper = true := by decide +kernel
  have hb : b.toNat < 256 := b.toNat_lt
  rw [percentByte, hexDigits_upper b.toNat hb] at hc
  simp only [List.mem_cons, List.not_mem_nil, or_false] at hc
  rcases hc with rfl | rfl | rfl
  · decide
  · exact hdigit _ (by omega)
  · exact hdigit _ (by omega)

theorem isEncodedChar_of_mem_percentEncode {text : String} {c : Char}
    (hc : c ∈ percentEncode text) : isEncodedChar c = true := by
  obtain ⟨d, _, hc⟩ := List.mem_flatMap.mp hc
  by_cases hd : isUnreserved d = true
  · rw [if_pos hd, List.mem_singleton] at hc
    rw [hc, isEncodedChar, hd, Bool.true_or]
  · rw [if_neg hd] at hc
    obtain ⟨b, _, hc⟩ := List.mem_flatMap.mp hc
    exact isEncodedChar_of_mem_percentByte hc

theorem ascii_of_isEncodedChar {c : Char} (hc : isEncodedChar c = true) : c.toNat < 128 := by
  rw [isEncodedChar, Bool.or_eq_true, beq_iff_eq] at hc
  rcases hc with hc | rfl
  · exact ascii_of_isUnreserved hc
  · decide

/-- A stretch of ASCII characters is decoded as a whole. -/
theorem percentDecodeFrom_ascii {s : List Char} (hs : ∀ c ∈ s, c.toNat < 128) (run : List Char) :
    percentDecodeFrom run s = decodeLeniently none (percentBytes (run.reverse ++ s)) := by
  induction s generalizing run with
  | nil => rw [percentDecodeFrom, List.append_nil]
  | cons c cs ih =>
    have hcs : ∀ d ∈ cs, d.toNat < 128 := fun d hd => hs d (List.mem_cons_of_mem c hd)
    rw [percentDecodeFrom, if_pos (hs c List.mem_cons_self), ih hcs, List.reverse_cons,
      List.append_assoc, List.singleton_append]

theorem percentDecode_percentEncode (text : String) :
    percentDecode (percentEncode text) = text.toList := by
  have hascii : ∀ c ∈ percentEncode text, c.toNat < 128 := fun c hc =>
    ascii_of_isEncodedChar (isEncodedChar_of_mem_percentEncode hc)
  rw [percentDecode, percentDecodeFrom_ascii hascii, List.reverse_nil, List.nil_append,
    percentBytes_percentEncode, decodeLeniently_utf8]

/-! ## The URI of a path -/

theorem exists_percentEncode_cons {path : Path} (habsolute : path.isAbsolute = true) :
    ∃ rest, percentEncode path.toString = '/' :: rest := by
  obtain ⟨rest, hrest⟩ : ∃ rest, path.toString.toList = '/' :: rest :=
    List.head?_eq_some_iff.mp (Path.head?_toString habsolute)
  rw [percentEncode, hrest, List.flatMap_cons]
  exact ⟨_, rfl⟩

theorem splitScheme_file (rest : List Char) :
    splitScheme ("file:".toList ++ rest) = ("file".toList, rest) := by
  rfl

theorem splitAuthority_path (rest : List Char) :
    splitAuthority ("//".toList ++ '/' :: rest) = ([], '/' :: rest) := by
  rfl

/-- The URI of a path is read as a `file` URI without authority, and its path is decoded. -/
theorem Uri.parse_uri {path : Path} (habsolute : path.isAbsolute = true) :
    Uri.parse path.uri = .ok ⟨"file".toList, [], path.toString.toList⟩ := by
  obtain ⟨rest, hencoded⟩ := exists_percentEncode_cons habsolute
  have hdecoded := percentDecode_percentEncode path.toString
  have hchar : ∀ c ∈ percentEncode path.toString, isEncodedChar c = true :=
    fun c => isEncodedChar_of_mem_percentEncode
  have huri : path.uri.toList = "file:".toList ++ ("//".toList ++ percentEncode path.toString) := by
    simp [Path.uri]
  rw [hencoded] at hdecoded hchar huri
  have hkept : ∀ mark, isEncodedChar mark = false →
      ∀ c ∈ '/' :: rest, (c != mark) = true := by
    intro mark hmark c hc
    rw [bne_iff_ne]
    rintro rfl
    rw [hchar c hc] at hmark
    cases hmark
  have hclean : (path.uri.toList.dropWhile fun c => c.toNat ≤ 0x20).filter
      (fun c => c != '\t' && c != '\r' && c != '\n') =
        "file:".toList ++ ("//".toList ++ '/' :: rest) := by
    have hfront : ("file:".toList ++ ("//".toList ++ '/' :: rest)).dropWhile
        (fun c => c.toNat ≤ 0x20) = "file:".toList ++ ("//".toList ++ '/' :: rest) := by
      rfl
    rw [huri, hfront]
    refine List.filter_eq_self.mpr (List.forall_mem_append.mpr ⟨by simp,
      List.forall_mem_append.mpr ⟨by simp, ?_⟩⟩)
    intro c hc
    simp [hkept '\t' (by decide) c hc, hkept '\r' (by decide) c hc, hkept '\n' (by decide) c hc]
  have hpath : (('/' :: rest).takeWhile (· != '#')).takeWhile (· != '?') = '/' :: rest := by
    rw [List.takeWhile_eq_self_iff.mpr (hkept '#' (by decide)),
      List.takeWhile_eq_self_iff.mpr (hkept '?' (by decide))]
  have hscheme : schemesWithParams.contains (String.ofList "file".toList) = false := by decide
  simp only [Uri.parse, hclean, splitScheme_file, splitAuthority_path, hpath, hscheme]
  rw [if_neg Bool.false_ne_true, hdecoded]
  rfl

/-- The drive of a path is written in lower case, with no slash before it. No zero character is
put in or left out. -/
theorem Uri.exists_filePath?_file {path : List Char} (hpath : path ≠ []) :
    ∃ shown ≠ [], (⟨"file".toList, [], path⟩ : Uri).filePath? = some (String.ofList shown) ∧
      (Char.ofNat 0 ∈ shown ↔ Char.ofNat 0 ∈ path) := by
  by_cases hdrive : ∃ drive rest, path = '/' :: drive :: ':' :: rest ∧ drive.isAlpha = true
  · obtain ⟨drive, rest, rfl, hletter⟩ := hdrive
    refine ⟨drive.toLower :: ':' :: rest, List.cons_ne_nil _ _, ?_, ?_⟩
    · simp [Uri.filePath?, hletter]
    · have hzero : Char.ofNat 0 ≠ drive := by
        rintro rfl
        revert hletter
        decide
      have hlower : Char.ofNat 0 ≠ drive.toLower := by
        intro hlower
        have hself : drive.toLower = drive := toLower_eq_self (by rw [← hlower]; decide)
        exact hzero (hlower.trans hself)
      simp [hzero, hlower]
  · refine ⟨path, hpath, ?_, Iff.rfl⟩
    simp only [Uri.filePath?, bne_self_eq_false, Bool.false_eq_true, if_false, List.isEmpty_nil,
      Bool.not_true, Bool.false_and]
    split
    next drive rest =>
      have hother : ¬drive.isAlpha = true := fun hletter => hdrive ⟨drive, rest, rfl, hletter⟩
      rw [if_neg hother]
    · rfl

/-- Reads the URI of an absolute path as one of a file, and neither puts a zero character in nor
leaves one out. -/
def UriReader.KeepsPaths (uris : UriReader) : Prop :=
  ∀ path : Path, path.isAbsolute = true → ∃ shown, shown ≠ "" ∧
    uris.filePath? path.uri = .ok (some shown) ∧
      (Char.ofNat 0 ∈ shown.toList ↔ Char.ofNat 0 ∈ path.toString.toList)

theorem Uri.reader_keepsPaths : Uri.reader.KeepsPaths := by
  intro path habsolute
  have hchars : path.toString.toList ≠ [] := by simpa using Path.toString_ne_empty habsolute
  obtain ⟨shown, hshown, hpath, hzero⟩ := Uri.exists_filePath?_file hchars
  refine ⟨String.ofList shown, by simpa using hshown, ?_, by rwa [String.toList_ofList]⟩
  simp only [Uri.reader, Uri.parse_uri habsolute, Except.map, hpath]

end MolangAssist.Files
