import MolangAssist.Assist.Definition
import MolangAssist.Proofs.Script.ImportSites

/-!
# The import under the cursor

A call is found wherever it stands in a line, but of several imports only the first one is looked
at. So a cursor in a later import leads to nothing, where the same import by itself may lead to a
script.
-/
namespace MolangAssist.Assist

open Files Script Text

/-- Where an import with some quoted text leads. -/
def Workspace.importedTargets (workspace : Workspace) (quoted : List Char) :
    Except SearchError (List Target) :=
  (importTarget? workspace quoted).map fun script =>
    (script.map fun place => (⟨place.uri, 0, 0⟩ : Target)).toList

variable {workspace : Workspace} {line : List Char} {column : Int}

theorem importTargets_of_some {quoted : List Char}
    (himport : importAt? line column = some quoted) :
    importTargets (some workspace) line column = workspace.importedTargets quoted := by
  simp only [importTargets, himport, Workspace.importedTargets, bind, Except.bind]
  cases importTarget? workspace quoted with
  | error cause => rfl
  | ok script => cases script <;> rfl

theorem importTargets_of_none (himport : importAt? line column = none) :
    importTargets (some workspace) line column = .ok [] := by
  simp only [importTargets, himport]

theorem importedTargets_eq_nil_iff {quoted : List Char} :
    workspace.importedTargets quoted = .ok [] ↔ importTarget? workspace quoted = .ok none := by
  rw [Workspace.importedTargets]
  cases importTarget? workspace quoted with
  | error cause => simp [Except.map]
  | ok script => cases script <;> simp [Except.map]

/-- A column inside an import leads where that import leads by itself exactly if it is the first
one of its line, or leads to nothing. Of calls, the one that a column touches is always found. -/
theorem importTargets_alone_iff (workspace : Workspace) (line : List Char) (column : Int) :
    (∀ hit ∈ scan importCall line, hit.start < column → column < hit.stop →
      importTargets (some workspace) (hit.alone line) column =
          workspace.importedTargets hit.value ∧
        (importTargets (some workspace) line column =
            importTargets (some workspace) (hit.alone line) column ↔
          firstHit? importCall line = some hit ∨
            importTarget? workspace hit.value = .ok none)) ∧
      ∀ hit ∈ scan (use (formsOf Space.function.short)) line,
        hit.start ≤ column → column ≤ hit.stop → callAt? line column = some hit.value := by
  refine ⟨?_, fun hit hhit => callAt?_of_hit hhit⟩
  intro hit hhit hstart hstop
  have halone : importTargets (some workspace) (hit.alone line) column =
      workspace.importedTargets hit.value :=
    importTargets_of_some (importAt?_alone hhit (Int.le_of_lt hstart) (Int.le_of_lt hstop))
  refine ⟨halone, ?_⟩
  rw [halone]
  have hfound := importAt?_of_hit hhit hstart hstop
  by_cases hfirst : firstHit? importCall line = some hit
  · rw [if_pos hfirst] at hfound
    exact iff_of_true (importTargets_of_some hfound) (.inl hfirst)
  · rw [if_neg hfirst] at hfound
    rw [importTargets_of_none hfound, eq_comm, importedTargets_eq_nil_iff, or_iff_right hfirst]

/-! ## A line with two imports -/

def kitWorkspace : Workspace where
  host := .usual
  tree := { entries := [
    (["data"], .directory),
    (["data", "kit"], .directory),
    (["data", "kit", "molang"], .directory),
    (["data", "kit", "molang", "main.molang"], .file .empty),
    (["data", "kit", "molang", "util.molang"], .file .empty)] }
  cwd := []
  root := ⟨.root, []⟩

def kitLine : List Char := "f.run(import('kit:main'), import('kit:util'));".toList

/-- The cursor stands in the first import. -/
theorem importTargets_alone_iff_kitLine :
    (⟨6, 24, "kit:main".toList⟩ : Hit (List Char)) ∈ scan importCall kitLine ∧
      importTargets (some kitWorkspace) kitLine 15 =
        importTargets (some kitWorkspace)
          "      import('kit:main')                      ".toList 15 := by
  have hhit : (⟨6, 24, "kit:main".toList⟩ : Hit (List Char)) ∈ scan importCall kitLine := by
    decide +kernel
  have halone : (⟨6, 24, "kit:main".toList⟩ : Hit (List Char)).alone kitLine =
      "      import('kit:main')                      ".toList := by decide +kernel
  obtain ⟨_, hsame⟩ := (importTargets_alone_iff kitWorkspace kitLine 15).1 _ hhit (by decide)
    (by decide)
  rw [halone] at hsame
  exact ⟨hhit, hsame.mpr (.inl (by decide +kernel))⟩

/-- The cursor stands in the second import, which by itself leads to a script. -/
theorem second_import_overlooked :
    (⟨26, 44, "kit:util".toList⟩ : Hit (List Char)) ∈ scan importCall kitLine ∧
      importTargets (some kitWorkspace) kitLine 35 = .ok [] ∧
      importTargets (some kitWorkspace)
          ((⟨26, 44, "kit:util".toList⟩ : Hit (List Char)).alone kitLine) 35 =
        .ok [⟨Place.uri ["data", "kit", "molang", "util.molang"], 0, 0⟩] := by
  decide +kernel

end MolangAssist.Assist
