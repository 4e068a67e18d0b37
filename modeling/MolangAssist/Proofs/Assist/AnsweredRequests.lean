import MolangAssist.Assist.Completion
import MolangAssist.Assist.Hover
import MolangAssist.Proofs.Assist.CallTargets
import MolangAssist.Proofs.Assist.ImportBounds
import MolangAssist.Proofs.Assist.ImportUnderCursor
import MolangAssist.Proofs.Files.Lookups
import MolangAssist.Proofs.Files.PathUris
import MolangAssist.Proofs.Text.LineOffsets

/-!
# Which requests are answered

Completion and hover have an answer at every position. So have definitions without a workspace. In
a workspace, a call is looked for in every script but the open one, so the scripts have to be
searched and the URI of the open document has to name a path that a file can have. The quoted part
of an import becomes a path and a pattern, and not all of these are legal.
-/
namespace MolangAssist.Assist

open Files Schema Script Text

/-! ## Completion and hover -/

/-- Behind the end of its line, a cursor is offered what it is offered at the end. -/
theorem complete_min_length (schema : Option Document) (text : List Char) (line : Int)
    (column : Nat) (runtime : Option String) :
    complete schema text line column runtime =
      complete schema text line (min column (lineAt text line).length : Nat) runtime := by
  have hbefore : upTo (column : Int) (lineAt text line) =
      upTo ((min column (lineAt text line).length : Nat) : Int) (lineAt text line) := by
    rw [upTo, upTo, if_pos (Int.natCast_nonneg _), if_pos (Int.natCast_nonneg _), Int.toNat_natCast,
      Int.toNat_natCast, List.take_eq_take_min]
  simp only [complete, hbefore]

theorem exists_hover? (schema : Option Document) (text : List Char) (line : Nat) (column : Int)
    (runtime : Option String) : ∃ shown, hover? schema text line column runtime = .ok shown := by
  cases schema with
  | none => exact ⟨none, rfl⟩
  | some doc =>
    obtain ⟨offset, _, hoffset⟩ := exists_offsetAt text line column
    simp only [hover?, hoffset]
    cases chainAround? text offset with
    | none => exact ⟨_, rfl⟩
    | some around =>
      dsimp only
      cases splitChain? around <;> exact ⟨_, rfl⟩

/-! ## Calls -/

variable {workspace : Workspace}

/-- The open document is found in the file system unless its path has a zero character. -/
theorem exists_placeOfUri?_iff {uris : UriReader} (huris : uris.KeepsPaths) {document : Path}
    (hdocument : document.isAbsolute = true) (cwd : Place) :
    (∃ place, placeOfUri? uris cwd document.uri = .ok place) ↔
      Char.ofNat 0 ∉ document.toString.toList := by
  obtain ⟨shown, hshown, hpath, hzero⟩ := huris document hdocument
  have hpresent : present? (some shown) = some shown := by simp [present?, hshown]
  simp only [placeOfUri?, isNone_after?_uri, hpath, hpresent, ← hzero, Bool.false_eq_true, if_false]
  by_cases hnul : Char.ofNat 0 ∈ shown.toList <;> simp [hnul]

theorem exists_callTargets_iff (hworkspace : workspace.Opened)
    (huris : workspace.host.uris.KeepsPaths) {document : Path}
    (hdocument : document.isAbsolute = true) (limit : Int) (text line : List Char) (column : Int) :
    (∃ targets, callTargets (some workspace) limit text document.uri line column = .ok targets) ↔
      (callAt? line column ≠ none →
        Char.ofNat 0 ∉ document.toString.toList ∧ ¬workspace.RefusesScripts) := by
  cases hcall : callAt? line column with
  | none => simp [callTargets, hcall]
  | some name =>
    rw [← exists_placeOfUri?_iff huris hdocument workspace.cwd,
      ← exists_workspaceScripts_iff hworkspace limit]
    simp only [callTargets, hcall, workspaceTargets]
    cases placeOfUri? workspace.host.uris workspace.cwd document.uri <;>
      cases workspaceScripts workspace limit <;>
        simp [bind, Except.bind, Except.mapError]

/-! ## Imports -/

/-- An import is refused for its path, or, if no file stands there, for the name that is then
searched for. -/
def Workspace.RefusesImport (workspace : Workspace) (quoted : List Char) : Prop :=
  workspace.tree.Refuses (workspace.usualPath quoted) ∨
    workspace.tree.isFile workspace.cwd (workspace.usualPath quoted).toString = .ok false ∧
      workspace.tree.RefusesPattern workspace.host.stack workspace.root (importPattern quoted)

theorem proper_importPath (quoted : List Char) : (importPath quoted).Proper :=
  (((Path.proper_ofString _).join (Path.proper_ofString _)).join (Path.proper_ofString _)).join
    (Path.proper_ofString _)

theorem exists_importTarget?_iff (hworkspace : workspace.Opened) {quoted : List Char}
    (hcolon : ':' ∈ quoted) :
    (∃ script, importTarget? workspace quoted = .ok script) ↔
      ¬workspace.RefusesImport quoted := by
  have hisFile : (∃ found, workspace.tree.isFile workspace.cwd
      (workspace.usualPath quoted).toString = .ok found) ↔
        ¬workspace.tree.Refuses (workspace.usualPath quoted) :=
    Tree.exists_isFile_iff workspace.cwd
      (Path.isAbsolute_join hworkspace.root.absolute (importPath quoted))
      (hworkspace.root.proper.join (proper_importPath quoted))
  have hsearch := Tree.exists_search_iff hworkspace.tree workspace.host.stack workspace.cwd
    hworkspace.root hworkspace.short (importPattern quoted)
  rw [importTarget?_eq hcolon, Workspace.RefusesImport, not_or, ← hisFile]
  cases workspace.tree.isFile workspace.cwd (workspace.usualPath quoted).toString with
  | error cause => simp
  | ok found =>
    cases found with
    | true => simp
    | false =>
      simp only [true_and, ← hsearch]
      cases workspace.tree.search workspace.host.stack workspace.cwd workspace.root
        (importPattern quoted) <;> simp

theorem exists_importTargets_iff (hworkspace : workspace.Opened) (line : List Char)
    (column : Int) :
    (∃ targets, importTargets (some workspace) line column = .ok targets) ↔
      ∀ quoted, importAt? line column = some quoted → ':' ∈ quoted →
        ¬workspace.RefusesImport quoted := by
  cases himport : importAt? line column with
  | none => simp [importTargets_of_none himport]
  | some quoted =>
    by_cases hcolon : ':' ∈ quoted
    · have htarget := exists_importTarget?_iff hworkspace hcolon
      rw [importTargets_of_some himport, Workspace.importedTargets]
      cases himported : importTarget? workspace quoted <;> simp_all [Except.map]
    · have hnone : importTarget? workspace quoted = .ok none := by simp [importTarget?, hcolon]
      simp [importTargets_of_some himport, Workspace.importedTargets, hnone, hcolon, Except.map]

/-! ## All requests -/

theorem exists_define_iff {workspace : Option Workspace} {limit : Int} {text : List Char}
    {uri : String} {line column : Int} :
    (∃ targets, define workspace limit text uri line column = .ok targets) ↔
      (∃ called, callTargets workspace limit text uri (lineAt text line) column = .ok called) ∧
        (callTargets workspace limit text uri (lineAt text line) column = .ok [] →
          ∃ targets, importTargets workspace (lineAt text line) column = .ok targets) := by
  rw [define]
  cases callTargets workspace limit text uri (lineAt text line) column with
  | error cause => simp [bind, Except.bind]
  | ok called =>
    cases called with
    | nil =>
      cases importTargets workspace (lineAt text line) column <;>
        simp [bind, Except.bind, Except.mapError]
    | cons target rest => simp [bind, Except.bind]

theorem exists_define_none (limit : Int) (text : List Char) (uri : String) (line column : Int) :
    ∃ targets, define none limit text uri line column = .ok targets := by
  refine exists_define_iff.mpr ⟨?_, fun _ => ⟨[], rfl⟩⟩
  rw [callTargets]
  cases callAt? (lineAt text line) column <;> exact ⟨_, rfl⟩

/-- Each request is answered at each position, with two exceptions. Definitions fail on a call in a
document whose path has a zero character, or in a workspace whose scripts cannot be searched, and on
an import that is refused, if there is no call that leads anywhere. Completion is a total function,
so that it answers is not said; what is said of it is that a cursor behind the end of its line is
taken for one at the end. -/
theorem requests_answered_iff (hworkspace : workspace.Opened)
    (huris : workspace.host.uris.KeepsPaths) {document : Path}
    (hdocument : document.isAbsolute = true) (schema : Option Document)
    (runtime : Option String) (limit : Int) (text : List Char) (line column : Nat) :
    complete schema text line column runtime =
        complete schema text line (min column (lineAt text line).length : Nat) runtime ∧
      (∃ shown, hover? schema text line column runtime = .ok shown) ∧
      (∃ targets, define none limit text document.uri line column = .ok targets) ∧
      ((∃ targets,
          define (some workspace) limit text document.uri line column = .ok targets) ↔
        (callAt? (lineAt text line) column ≠ none →
          Char.ofNat 0 ∉ document.toString.toList ∧ ¬workspace.RefusesScripts) ∧
        (callTargets (some workspace) limit text document.uri (lineAt text line) column =
            .ok [] →
          ∀ quoted, importAt? (lineAt text line) column = some quoted → ':' ∈ quoted →
            ¬workspace.RefusesImport quoted)) := by
  refine ⟨complete_min_length schema text line column runtime,
    exists_hover? schema text line column runtime,
    exists_define_none limit text document.uri line column, ?_⟩
  rw [exists_define_iff, exists_callTargets_iff hworkspace huris hdocument,
    exists_importTargets_iff hworkspace]

/-- An import of a name with brackets, a question mark and single stars. -/
def starredText : List Char := "\nt.x = import('[pack]:../?*[!*');".toList

theorem not_refusesImport_starred :
    ¬packWorkspace.RefusesImport "[pack]:../?*[!*".toList := by
  rintro (⟨_, hlong | hmeets⟩ | ⟨_, hstars | hwalk⟩)
  · exact absurd hlong (by decide +kernel)
  · have hwalk := Tree.walk_eq_nameTooLong_iff.mpr hmeets
    have hmissing : packWorkspace.tree.walk []
        (packWorkspace.usualPath "[pack]:../?*[!*".toList).parts = .error .notFound := by
      decide +kernel
    rw [hmissing] at hwalk
    cases hwalk
  · exact absurd hstars (by decide +kernel)
  · rw [opened_packWorkspace.tree.refusesWalk_iff rfl] at hwalk
    exact absurd hwalk (by decide +kernel)

theorem requests_answered_iff_starred :
    packWorkspace.Opened ∧ packWorkspace.host.uris.KeepsPaths ∧ mainScript.isAbsolute = true ∧
      ∃ targets, define (some packWorkspace) 50 starredText mainScript.uri 1 20 =
        .ok targets := by
  have hdocument : mainScript.isAbsolute = true := by decide +kernel
  have himport : importAt? (lineAt starredText 1) 20 = some "[pack]:../?*[!*".toList := by
    decide +kernel
  have hcall : callAt? (lineAt starredText 1) 20 = none := by decide +kernel
  obtain ⟨_, _, _, hdefine⟩ := requests_answered_iff opened_packWorkspace Uri.reader_keepsPaths
    hdocument none none 50 starredText 1 20
  refine ⟨opened_packWorkspace, Uri.reader_keepsPaths, hdocument,
    hdefine.mpr ⟨fun hsome => absurd hcall hsome, ?_⟩⟩
  intro _ quoted hquoted _
  cases Option.some.inj (himport.symm.trans hquoted)
  exact not_refusesImport_starred

/-- Two stars in a row are no legal pattern, and the request has no answer. -/
theorem double_star_refused :
    packWorkspace.Opened ∧ mainScript.isAbsolute = true ∧
      define (some packWorkspace) 50 "import('pack:a**b');".toList mainScript.uri 0 10 =
        .error (.search .doubleStar) :=
  ⟨opened_packWorkspace, by decide +kernel, by decide +kernel⟩

end MolangAssist.Assist
