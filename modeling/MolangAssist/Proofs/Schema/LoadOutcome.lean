import MolangAssist.Proofs.Files.Refusals
import MolangAssist.Proofs.Json.HalfPairs
import MolangAssist.Schema.Snapshot

/-!
# What the first load leaves behind

A load reads a file, parses its text and decodes the value. Each of these steps may fail, and the
failure is kept in place of a document. Only a path with a zero character leaves neither.
-/
namespace MolangAssist.Schema

open Files

/-- The path as a failure shows it. -/
def LoadFailure.path : LoadFailure → String
  | .notFound path | .unreadable path _ | .unusable path _ => path

/-- The document that a load asks for: the one in a file that can be read and parsed, or the one
that comes with the library. -/
def Document.requested? (stack : Stack) (tree : Tree) (cwd : Place) :
    Option Path → Option Document
  | none => some bundled
  | some path =>
    (tree.readText cwd path.toString).toOption.bind fun text =>
      (Document.parse stack text).toOption

namespace Snapshot

/-- Either a document is held or a failure is recorded, and not both. -/
def Recorded (snapshot : Snapshot) : Prop :=
  snapshot.document?.isSome ≠ snapshot.failure?.isSome

instance (snapshot : Snapshot) : Decidable snapshot.Recorded := inferInstanceAs (Decidable (_ ≠ _))

/-- What a first load can come to. -/
inductive Outcome (stack : Stack) (tree : Tree) (cwd : Place) (path : Option Path) :
    Snapshot × LoadResult → Prop
  | held {doc : Document} : (∀ file ∈ path, Char.ofNat 0 ∉ file.toString.toList) →
      Document.requested? stack tree cwd path = some doc →
      Outcome stack tree cwd path (.held doc, .done true)
  | failed {file : Path} {why : LoadFailure} : path = some file → why.path = file.toString →
      Char.ofNat 0 ∉ file.toString.toList → Document.requested? stack tree cwd path = none →
      Outcome stack tree cwd path (.failed why, .done false)
  | broken {file : Path} : path = some file → Char.ofNat 0 ∈ file.toString.toList →
      Document.requested? stack tree cwd path = none →
      Outcome stack tree cwd path (.broken, .badPath)

theorem outcome_load (stack : Stack) (tree : Tree) (cwd : Place) (path : Option Path) :
    Outcome stack tree cwd path (pending.load stack tree cwd path) := by
  cases path with
  | none => exact .held (by simp) rfl
  | some file =>
    have hnul := Tree.readText_nulByte_iff tree cwd file.toString
    rw [load, attempt]
    cases htext : tree.readText cwd file.toString with
    | ok text =>
      have hmem : Char.ofNat 0 ∉ file.toString.toList := by
        rw [← hnul, htext]
        simp
      have hrequested : Document.requested? stack tree cwd (some file) =
          (Document.parse stack text).toOption := by
        rw [Document.requested?, htext]
        rfl
      dsimp only
      cases hdoc : Document.parse stack text with
      | ok doc =>
        rw [hdoc] at hrequested
        exact .held (by simpa using hmem) hrequested
      | error cause =>
        rw [hdoc] at hrequested
        exact .failed rfl rfl hmem hrequested
    | error cause =>
      have hrequested : Document.requested? stack tree cwd (some file) = none := by
        rw [Document.requested?, htext]
        rfl
      have hmem : cause ≠ .access .nulByte → Char.ofNat 0 ∉ file.toString.toList := by
        intro hcause
        rw [← hnul, htext]
        exact fun hsame => hcause (Except.error.inj hsame)
      cases cause with
      | notUtf8 => exact .failed rfl rfl (hmem (by simp)) hrequested
      | access cause =>
        cases cause with
        | nulByte => exact .broken rfl (hnul.mp htext) hrequested
        | _ => exact .failed rfl rfl (hmem (by simp)) hrequested

/-- A path read from a literal breaks the load if it has half a pair that stands for no byte. -/
theorem load_broken_of_half (stack : Stack) (tree : Tree) (cwd : Place) {literal : List Char}
    {codes : List Nat} (hcodes : Json.literalCodes? literal = some codes) {code : Nat}
    (hcode : code ∈ codes) (hhalf : Json.isHalf code = true)
    (hbyte : Json.isByteHalf code = false) :
    pending.load stack tree cwd (some (.ofString (String.ofList (Json.charactersOf codes)))) =
      (.broken, .badPath) := by
  have hzero : Char.ofNat 0 ∈
      (Path.ofString (String.ofList (Json.charactersOf codes))).toString.toList := by
    rw [Path.mem_toString_ofString_iff (by decide) (by decide), String.toList_ofList,
      Json.zero_mem_charactersOf_iff (Json.isCodePoint_literalCodes? hcodes)]
    exact ⟨code, hcode, .inr ⟨hhalf, hbyte⟩⟩
  have houtcome := outcome_load stack tree cwd
    (some (.ofString (String.ofList (Json.charactersOf codes))))
  generalize pending.load stack tree cwd _ = outcome at houtcome ⊢
  cases houtcome with
  | held hmem => exact absurd hzero (hmem _ rfl)
  | failed hpath _ hmem =>
    obtain rfl := Option.some.inj hpath
    exact absurd hzero hmem
  | broken => rfl

/-- Unless the path has a zero character, the first load answers and leaves either a document or a
failure. The document is the one asked for, a failure shows the path, and later loads change
nothing. -/
theorem load_recorded_iff (stack : Stack) (tree : Tree) (cwd : Place) (path : Option String) :
    let after := (pending.load stack tree cwd (path.map Path.ofString)).1
    let result := (pending.load stack tree cwd (path.map Path.ofString)).2
    (result = .done after.isLoaded ∧ after.Recorded ↔
      ∀ text ∈ path, Char.ofNat 0 ∉ text.toList) ∧
    (∀ text ∈ path, Char.ofNat 0 ∈ text.toList →
      result = .badPath ∧ after.document? = none ∧ after.failure? = none) ∧
    after.document? = Document.requested? stack tree cwd (path.map Path.ofString) ∧
    (∀ why ∈ after.failure?, ∃ text ∈ path, why.path = (Path.ofString text).toString) ∧
    ∀ laterStack later here again,
      after.load laterStack later here again = (after, .done after.isLoaded) := by
  have hnul := fun text : String =>
    Path.mem_toString_ofString_iff (c := Char.ofNat 0) (by decide) (by decide) text
  have houtcome := outcome_load stack tree cwd (path.map Path.ofString)
  generalize pending.load stack tree cwd (path.map Path.ofString) = outcome at houtcome
  cases houtcome with
  | held hmem hdoc =>
    have hpath : ∀ text ∈ path, Char.ofNat 0 ∉ text.toList := by
      intro text htext
      rw [← hnul]
      exact hmem _ (Option.mem_map_of_mem _ htext)
    refine ⟨iff_of_true ⟨rfl, by simp [Recorded, document?, failure?]⟩ hpath, ?_, hdoc.symm, nofun,
      fun _ _ _ _ => rfl⟩
    intro text htext hzero
    exact absurd hzero (hpath text htext)
  | failed hpath hwhy hmem hdoc =>
    obtain ⟨text, rfl, rfl⟩ := Option.map_eq_some_iff.mp hpath
    rw [hnul] at hmem
    refine ⟨iff_of_true ⟨rfl, by simp [Recorded, document?, failure?]⟩ (by simpa using hmem), ?_,
      hdoc.symm, ?_, fun _ _ _ _ => rfl⟩
    · rintro _ ⟨⟩ hzero
      exact absurd hzero hmem
    · rintro _ ⟨⟩
      exact ⟨text, rfl, hwhy⟩
  | broken hpath hmem hdoc =>
    obtain ⟨text, rfl, rfl⟩ := Option.map_eq_some_iff.mp hpath
    rw [hnul] at hmem
    exact ⟨iff_of_false nofun (fun hnone => hnone text rfl hmem), fun _ _ _ => ⟨rfl, rfl, rfl⟩,
      hdoc.symm, nofun, fun _ _ _ _ => rfl⟩

theorem load_recorded_iff_missing :
    let outcome :=
      pending.load .usual { entries := [] } [] (some (Path.ofString "./no//schema.json"))
    outcome.2 = .done false ∧ outcome.1.Recorded ∧
      ∃ why, outcome.1.failure? = some why ∧ why.path = "no/schema.json" := by
  intro outcome
  obtain ⟨hrecorded, _, _, hpath, _⟩ :=
    load_recorded_iff .usual { entries := [] } [] (some "./no//schema.json")
  have hzero : ∀ text ∈ some "./no//schema.json", Char.ofNat 0 ∉ text.toList := by
    rintro _ ⟨⟩
    decide
  have hfailure : outcome.1.failure? = some (.notFound "no/schema.json") := rfl
  obtain ⟨text, ⟨⟩, hwhy⟩ := hpath _ hfailure
  exact ⟨(hrecorded.mpr hzero).1, (hrecorded.mpr hzero).2, _, hfailure, hwhy⟩

/-- With a zero character in the path the load does not answer, and it leaves neither a document nor
a failure. -/
theorem load_unrecorded_behind_zero :
    let outcome := pending.load .usual { entries := [] } [] (some (Path.ofString "a\x00b"))
    outcome.2 = .badPath ∧ ¬outcome.1.Recorded ∧ outcome.1.document? = none ∧
      outcome.1.failure? = none := by
  intro outcome
  have houtcome : outcome = (.broken, .badPath) := rfl
  rw [houtcome]
  exact ⟨rfl, by decide, rfl, rfl⟩

end Snapshot

end MolangAssist.Schema
