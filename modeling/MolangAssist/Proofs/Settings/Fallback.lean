import MolangAssist.Proofs.Files.Refusals
import MolangAssist.Proofs.Settings.Keys

/-!
# When settings fall back to defaults

A settings file that is missing stands for the defaults, and so does one from which no object can
be read; then there is a warning. Nothing is loaded at all if the stack is not enough to read the
file or to put variables into its values, or if its path is too long.
-/
namespace MolangAssist.Settings

open Files Json Text

variable (stack : Stack) (tree : Tree) (cwd : Place) (environment : Table String) (root : Path)

/-- The path of the settings file. -/
def filePath : String := (root.below [settingsFile]).toString

/-- The object in a text, if it holds one. -/
def objectIn? (text : String) : Option (List (String × Value)) :=
  match Json.readFile stack text with
  | .ok (.object fields) => some fields
  | _ => none

/-- The object in the settings file. There is none if the file cannot be read or decoded, if it is
not JSON, or if it holds another value. -/
def object? : Option (List (String × Value)) :=
  (tree.readText cwd (filePath root)).toOption.bind (objectIn? stack)

/-- The stack is enough to read a text, and to put variables into the object that it holds. -/
def Fits (text : String) : Prop :=
  stack.reader + nesting text ≤ stack.frames ∧
    ∀ fields, objectIn? stack text = some fields →
      substitutionCalls stack (.object fields) ≤ stack.frames

/-- Nothing in the settings file is nested too deeply. -/
def Shallow : Prop :=
  ∀ text, tree.readText cwd (filePath root) = .ok text → Fits stack text

theorem readFile_of_objectIn? {text : String} {fields : List (String × Value)}
    (hobject : objectIn? stack text = some fields) :
    Json.readFile stack text = .ok (.object fields) := by
  rw [objectIn?] at hobject
  cases hread : Json.readFile stack text with
  | error cause => simp [hread] at hobject
  | ok v =>
    cases v with
    | object found =>
      obtain rfl : found = fields := by simpa [hread] using hobject
      rfl
    | _ => simp [hread] at hobject

theorem fits_of_no_object {text : String} (hobject : objectIn? stack text = none) :
    Fits stack text ↔ Json.readFile stack text ≠ .error .tooDeep := by
  rw [Fits, hobject, ← Nat.not_lt, ← readFile_tooDeep_iff, Ne, and_iff_left nofun]

theorem ofText_returns_iff (file text : String) :
    (∃ report, ofText stack environment root file text = .ok report) ↔ Fits stack text := by
  by_cases hobject : objectIn? stack text = none
  · rw [fits_of_no_object stack hobject]
    rw [objectIn?] at hobject
    rw [ofText]
    cases hread : Json.readFile stack text with
    | error cause => cases cause <;> simp
    | ok v => cases v <;> simp_all
  · obtain ⟨fields, hfields⟩ := Option.ne_none_iff_exists'.mp hobject
    have hread := readFile_of_objectIn? stack hfields
    have hreader : stack.reader + nesting text ≤ stack.frames := by
      rw [← Nat.not_lt, ← readFile_tooDeep_iff, hread]
      rintro ⟨⟩
    simp only [ofText, hread, Fits, hreader, hfields, true_and, Option.some.injEq, forall_eq',
      ← Nat.not_lt]
    split <;> simp_all

theorem ofText_of_no_object {file text : String} (hobject : objectIn? stack text = none)
    (hfits : Fits stack text) :
    ∃ warning reported, ofText stack environment root file text =
      .ok { settings := { root := root }, warnings := [warning], reported := reported } := by
  rw [fits_of_no_object stack hobject] at hfits
  rw [objectIn?] at hobject
  rw [ofText]
  cases hread : Json.readFile stack text with
  | error cause =>
    cases cause with
    | tooDeep => exact absurd hread hfits
    | _ => exact ⟨_, _, rfl⟩
  | ok v =>
    cases v with
    | object fields => simp [hread] at hobject
    | _ => exact ⟨_, _, rfl⟩

/-- Few brackets are enough: the reader takes a frame for each of them, and putting variables in
takes two. -/
theorem fits_of_few_brackets {text : String}
    (hreader : stack.reader + text.toList.countP isOpening ≤ stack.frames)
    (hcalls : 2 * text.toList.countP isOpening + (2 + stack.leaf) ≤ stack.frames) :
    Fits stack text := by
  have hnesting := nesting_le text
  refine ⟨by omega, ?_⟩
  intro fields hfields
  have hdepth := depth_readFile_le (readFile_of_objectIn? stack hfields)
  have hbound := substitutionCalls_le stack (.object fields)
  omega

variable {stack tree cwd root}

theorem load_of_text {text : String} (htext : tree.readText cwd (filePath root) = .ok text) :
    load stack tree cwd environment root =
      ofText stack environment root (filePath root) text := by
  have hexists := exists?_of_readText htext
  rw [filePath] at htext hexists
  simp only [load, hexists, htext, filePath]

theorem load_of_deep {text : String} (htext : tree.readText cwd (filePath root) = .ok text)
    (hdeep : stack.frames < stack.reader + nesting text) :
    load stack tree cwd environment root = .error .tooDeep := by
  have hread := (readFile_tooDeep_iff stack text).mpr hdeep
  simp only [load_of_text environment htext, ofText, hread]

theorem load_of_unreadable {cause : Tree.TextError}
    (hexists : tree.exists? cwd (filePath root) = .ok true)
    (htext : tree.readText cwd (filePath root) = .error cause) :
    load stack tree cwd environment root =
      .ok (unreadable root (filePath root) (cause.message (filePath root))) := by
  rw [filePath] at htext hexists
  simp only [load, hexists, htext, filePath]

theorem load_of_missing (hexists : tree.exists? cwd (filePath root) = .ok false) :
    load stack tree cwd environment root = .ok { settings := { root := root } } := by
  rw [filePath] at hexists
  simp only [load, hexists]

theorem load_returns_iff :
    (∃ report, load stack tree cwd environment root = .ok report) ↔
      tree.exists? cwd (filePath root) ≠ .error .nameTooLong ∧ Shallow stack tree cwd root := by
  constructor
  · rintro ⟨report, hload⟩
    refine ⟨?_, ?_⟩
    · intro hlong
      rw [filePath] at hlong
      simp [load, hlong] at hload
    · intro text htext
      rw [load_of_text environment htext] at hload
      exact (ofText_returns_iff stack environment root _ text).mp ⟨report, hload⟩
  · rintro ⟨hlong, hshallow⟩
    cases hexists : tree.exists? cwd (filePath root) with
    | error cause =>
      rw [Tree.exists?_error hexists] at hexists
      exact absurd hexists hlong
    | ok found =>
      cases found with
      | false => exact ⟨_, load_of_missing environment hexists⟩
      | true =>
        cases htext : tree.readText cwd (filePath root) with
        | error cause => exact ⟨_, load_of_unreadable environment hexists htext⟩
        | ok text =>
          rw [load_of_text environment htext]
          exact (ofText_returns_iff stack environment root _ text).mpr (hshallow text htext)

theorem load_of_no_object (hexists : tree.exists? cwd (filePath root) = .ok true)
    (hobject : object? stack tree cwd root = none) (hshallow : Shallow stack tree cwd root) :
    ∃ warning reported, load stack tree cwd environment root =
      .ok { settings := { root := root }, warnings := [warning], reported := reported } := by
  cases htext : tree.readText cwd (filePath root) with
  | error cause => exact ⟨_, _, load_of_unreadable environment hexists htext⟩
  | ok text =>
    rw [object?, htext] at hobject
    rw [load_of_text environment htext]
    exact ofText_of_no_object stack environment root hobject (hshallow text htext)

variable (stack tree cwd root)

/-- Settings are loaded unless the path of the file is too long or the stack is not enough for its
text. Then a missing file stands for the defaults, and a file without an object for the defaults
with one warning. A short path and few brackets are enough to load them. -/
theorem load_falls_back :
    ((∃ report, load stack tree cwd environment root = .ok report) ↔
      tree.exists? cwd (filePath root) ≠ .error .nameTooLong ∧ Shallow stack tree cwd root) ∧
    (tree.exists? cwd (filePath root) = .ok false →
      load stack tree cwd environment root = .ok { settings := { root := root } }) ∧
    (tree.exists? cwd (filePath root) = .ok true → object? stack tree cwd root = none →
      Shallow stack tree cwd root → ∃ warning reported, load stack tree cwd environment root =
        .ok { settings := { root := root }, warnings := [warning], reported := reported }) ∧
    ((filePath root).utf8ByteSize ≤ Tree.maxPathBytes →
      (∀ piece ∈ splitAt '/' (filePath root).toList,
        (String.ofList piece).utf8ByteSize ≤ Tree.maxNameBytes) →
      (∀ text, tree.readText cwd (filePath root) = .ok text →
        stack.reader + text.toList.countP isOpening ≤ stack.frames ∧
          2 * text.toList.countP isOpening + (2 + stack.leaf) ≤ stack.frames) →
      ∃ report, load stack tree cwd environment root = .ok report) := by
  refine ⟨load_returns_iff environment, load_of_missing environment,
    load_of_no_object environment, ?_⟩
  intro hpath hpieces hbrackets
  obtain ⟨found, hexists⟩ := Tree.exists?_of_short tree cwd (filePath root) hpath hpieces
  refine (load_returns_iff environment).mpr ⟨?_, ?_⟩
  · rw [hexists]
    exact nofun
  · intro text htext
    obtain ⟨hreader, hcalls⟩ := hbrackets text htext
    exact fits_of_few_brackets stack hreader hcalls

/-- A directory in the place of the file, a file without an object, no file, and a file with few
brackets. -/
theorem load_falls_back_fixed :
    (∃ warning reported,
      load .usual { entries := [([settingsFile], .directory)] } [] [] ⟨.root, []⟩ =
        .ok { settings := { root := ⟨.root, []⟩ }, warnings := [warning], reported := reported }) ∧
    (∃ warning reported,
      load .usual { entries := [([settingsFile], .file "[[1]]".toUTF8)] } [] [] ⟨.root, []⟩ =
        .ok { settings := { root := ⟨.root, []⟩ }, warnings := [warning], reported := reported }) ∧
    load .usual { entries := [] } [] [] ⟨.root, []⟩ = .ok { settings := { root := ⟨.root, []⟩ } } ∧
    (∃ report,
      load .usual { entries := [([settingsFile], .file mixedText.toUTF8)] } [] [] ⟨.root, []⟩ =
        .ok report) := by
  obtain ⟨_, _, hdirectory, _⟩ :=
    load_falls_back .usual { entries := [([settingsFile], .directory)] } [] [] ⟨.root, []⟩
  obtain ⟨_, _, hlist, _⟩ :=
    load_falls_back .usual { entries := [([settingsFile], .file "[[1]]".toUTF8)] } [] [] ⟨.root, []⟩
  obtain ⟨_, hmissing, _, _⟩ := load_falls_back .usual { entries := [] } [] [] ⟨.root, []⟩
  obtain ⟨_, _, _, hbrackets⟩ :=
    load_falls_back .usual { entries := [([settingsFile], .file mixedText.toUTF8)] } [] []
      ⟨.root, []⟩
  refine ⟨hdirectory rfl rfl nofun, hlist rfl rfl ?_, hmissing rfl, hbrackets ?_ ?_ ?_⟩
  · rintro text ⟨⟩
    exact fits_of_few_brackets .usual (by decide) (by decide)
  · decide
  · decide
  · rintro text ⟨⟩
    decide

/-! ## Lists within lists -/

/-- Lists nested too deeply are not reported: nothing is loaded. -/
theorem load_fails_on_nested_lists :
    let text := String.ofList (brackets 4000)
    load .usual { entries := [([settingsFile], .file text.toUTF8)] } [] [] ⟨.root, []⟩ =
      .error .tooDeep := by
  intro text
  have hreturn : '\r' ∉ text.toList := by
    rw [String.toList_ofList]
    exact return_not_mem_brackets 4000
  have hroom : Stack.usual.frames < Stack.usual.reader + 4000 := by decide
  have hnesting := le_nesting_brackets 4000
  exact load_of_deep [] (readText_settingsFile hreturn)
    (Nat.lt_of_lt_of_le hroom (Nat.add_le_add_left hnesting _))

end MolangAssist.Settings
