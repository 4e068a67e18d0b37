import MolangAssist.Assist.Definition
import MolangAssist.Proofs.Files.Search

/-!
# How far an import leads

An import names a path below the root of the workspace. A file that stands there is the target,
wherever the path leads. Otherwise the target is found by a search below the root. So an import
leaves the workspace exactly if its path does and a file stands there.
-/
namespace MolangAssist.Files

/-! ## Paths that stay below a place -/

/-- Parts that never lead above the place they start from, which lies `depth` steps further up. -/
def staysBelow : (depth : Nat) → List String → Bool
  | _, [] => true
  | 0, part :: rest => part != ".." && staysBelow 1 rest
  | depth + 1, part :: rest =>
    if part = ".." then staysBelow depth rest else staysBelow (depth + 2) rest

theorem prefix_foldl_descend {base down : Place} {parts : List String}
    (hparts : staysBelow down.length parts = true) :
    base <+: parts.foldl Place.descend (base ++ down) := by
  induction parts generalizing down with
  | nil => exact List.prefix_append base down
  | cons part rest ih =>
    rw [List.foldl_cons, Place.descend]
    by_cases hup : part = ".."
    · rw [if_pos hup]
      cases hdown : down with
      | nil => simp [hdown, staysBelow, hup] at hparts
      | cons first more =>
        have hne : down ≠ [] := by simp [hdown]
        rw [← hdown, List.dropLast_append_of_ne_nil hne]
        apply ih
        simpa [hdown, staysBelow, hup] using hparts
    · rw [if_neg hup, List.append_assoc]
      apply ih
      cases hdown : down with
      | nil => simpa [hdown, staysBelow, hup] using hparts
      | cons first more => simpa [hdown, staysBelow, hup] using hparts

/-- A path that stays below every directory it is seen from. -/
def Path.Inward (path : Path) : Prop := path.isAbsolute = false ∧ staysBelow 0 path.parts = true

instance (path : Path) : Decidable path.Inward :=
  inferInstanceAs (Decidable (path.isAbsolute = false ∧ staysBelow 0 path.parts = true))

theorem prefix_resolve_join {root path : Path} (hroot : root.Normalised) (hpath : path.Inward)
    (cwd : Place) : root.parts <+: (root.join path).resolve cwd := by
  have hjoin : root.join path = root.below path.parts := by
    rw [Path.join, hpath.1]
    rfl
  have hbase : root.parts.foldl Place.descend [] = root.parts := by
    have hresolve := Path.resolve_of_names cwd hroot.absolute hroot.no_up
    rwa [Path.resolve, if_pos hroot.absolute] at hresolve
  have habsolute : (root.below path.parts).isAbsolute = true := hroot.absolute
  have hbelow : root.parts <+: path.parts.foldl Place.descend (root.parts ++ []) :=
    prefix_foldl_descend hpath.2
  rw [List.append_nil] at hbelow
  rw [hjoin, Path.resolve, if_pos habsolute, Path.below, List.foldl_append, hbase]
  exact hbelow

end MolangAssist.Files

namespace MolangAssist.Assist

open Files Script Text

/-! ## What an import names -/

/-- The path that an import names, seen from the root. -/
def importPath (quoted : List Char) : Path :=
  (Path.ofString "data").join (Path.ofString (String.ofList (quoted.takeWhile (· != ':'))))
    |>.join (Path.ofString "molang")
    |>.join (Path.ofString (String.ofList ((quoted.dropWhile (· != ':')).drop 1) ++ ".molang"))

/-- The name that is searched for if no file stands at that path. -/
def importPattern (quoted : List Char) : String :=
  String.ofList (lastPiece '/' ((quoted.dropWhile (· != ':')).drop 1)) ++ ".molang"

namespace Workspace

variable (workspace : Workspace) (quoted : List Char)

def usualPath : Path := workspace.root.join (importPath quoted)

/-- The first of some entries whose path ends like that of an import. -/
def firstAlike? (found : List (List String)) : Option (List String) :=
  found.find? fun parts =>
    (importPath quoted).toString.toList.isSuffixOf (workspace.root.below parts).toString.toList

end Workspace

variable {workspace : Workspace} {quoted : List Char}

theorem importTarget?_eq (hcolon : ':' ∈ quoted) :
    importTarget? workspace quoted =
      match workspace.tree.isFile workspace.cwd (workspace.usualPath quoted).toString with
      | .error cause => .error (.access (workspace.usualPath quoted).toString cause)
      | .ok true => .ok (some ((workspace.usualPath quoted).resolve workspace.cwd))
      | .ok false =>
        match workspace.tree.search workspace.host.stack workspace.cwd workspace.root
            (importPattern quoted) with
        | .error cause => .error cause
        | .ok found => .ok ((workspace.firstAlike? quoted found).map fun parts =>
          (workspace.root.below parts).resolve workspace.cwd) := by
  have hcontains : quoted.contains ':' = true := by simpa using hcolon
  simp only [importTarget?, hcontains, Bool.not_true, Bool.false_eq_true, if_false,
    Workspace.usualPath, importPath, importPattern, Workspace.firstAlike?]
  generalize (Path.join _ _).join _ = relative
  cases workspace.tree.isFile workspace.cwd (workspace.root.join relative).toString with
  | error cause => rfl
  | ok found =>
    cases found with
    | true => rfl
    | false =>
      generalize workspace.tree.search workspace.host.stack workspace.cwd workspace.root _ = search
      cases search with
      | error cause => rfl
      | ok found =>
        simp only [bind, Except.bind, List.find?_map, Function.comp_def]
        cases found.find? _ <;> rfl

/-- The target of an import is the file at its path, or an entry that a search finds. -/
theorem importTarget?_cases {place : Place}
    (htarget : importTarget? workspace quoted = .ok (some place)) :
    (workspace.tree.isFile workspace.cwd (workspace.usualPath quoted).toString = .ok true ∧
        place = (workspace.usualPath quoted).resolve workspace.cwd) ∨
      (workspace.tree.isFile workspace.cwd (workspace.usualPath quoted).toString = .ok false ∧
        ∃ found parts,
          workspace.tree.search workspace.host.stack workspace.cwd workspace.root
            (importPattern quoted) = .ok found ∧
          parts ∈ found ∧ place = (workspace.root.below parts).resolve workspace.cwd) := by
  have hcolon : ':' ∈ quoted := by
    by_contra hcolon
    simp [importTarget?, hcolon] at htarget
  rw [importTarget?_eq hcolon] at htarget
  cases hfile : workspace.tree.isFile workspace.cwd (workspace.usualPath quoted).toString with
  | error cause => simp [hfile] at htarget
  | ok found =>
    cases found with
    | true =>
      simp only [hfile, Except.ok.injEq, Option.some.injEq] at htarget
      exact .inl ⟨rfl, htarget.symm⟩
    | false =>
      refine .inr ⟨rfl, ?_⟩
      cases hsearch : workspace.tree.search workspace.host.stack workspace.cwd workspace.root
          (importPattern quoted) with
      | error cause => simp [hfile, hsearch] at htarget
      | ok found =>
        simp only [hfile, hsearch, Except.ok.injEq, Option.map_eq_some_iff] at htarget
        obtain ⟨parts, hfirst, rfl⟩ := htarget
        exact ⟨found, parts, rfl, List.mem_of_find?_eq_some hfirst, rfl⟩

/-! ## Targets inside the workspace -/

theorem resolve_below (htree : workspace.tree.WellFormed) (hroot : workspace.root.Normalised)
    {parts : List String}
    (hfound : (workspace.tree.node? (workspace.root.parts ++ parts)).isSome = true) :
    (workspace.root.below parts).resolve workspace.cwd = workspace.root.parts ++ parts := by
  have hnames := htree.isFileName hfound
  refine Path.resolve_of_names workspace.cwd hroot.absolute ?_
  intro hup
  exact (hnames ".." hup).ne_up rfl

theorem prefix_of_search (htree : workspace.tree.WellFormed) (hroot : workspace.root.Normalised)
    {pattern : String} {found : List (List String)}
    (hsearch : workspace.tree.search workspace.host.stack workspace.cwd workspace.root pattern =
      .ok found)
    {parts : List String} (hparts : parts ∈ found) :
    workspace.root.parts <+: (workspace.root.below parts).resolve workspace.cwd := by
  rw [Tree.eq_matching_of_search htree hroot hsearch] at hparts
  rw [resolve_below htree hroot (Tree.mem_matching_iff.mp hparts).1]
  exact List.prefix_append _ _

theorem importTarget?_inside_iff (htree : workspace.tree.WellFormed)
    (hroot : workspace.root.Normalised) {place : Place}
    (htarget : importTarget? workspace quoted = .ok (some place)) :
    (workspace.root.parts <+: place ↔
        (workspace.tree.isFile workspace.cwd (workspace.usualPath quoted).toString = .ok true →
          workspace.root.parts <+: (workspace.usualPath quoted).resolve workspace.cwd)) ∧
      ((importPath quoted).Inward → workspace.root.parts <+: place) := by
  rcases importTarget?_cases htarget with
    ⟨hfile, hplace⟩ | ⟨hfile, found, parts, hsearch, hparts, hplace⟩
  · rw [hplace]
    refine ⟨by simp [hfile], ?_⟩
    intro hinward
    exact prefix_resolve_join hroot hinward workspace.cwd
  · have hinside := prefix_of_search htree hroot hsearch hparts
    rw [← hplace] at hinside
    exact ⟨by simp [hfile, hinside], fun _ => hinside⟩

/-- Where no call leads anywhere, each target is the target of an import. -/
theorem exists_import_of_define {limit : Int} {text : List Char} {uri : String}
    {line column : Int} {targets : List Target} {target : Target}
    (hcalls : callTargets (some workspace) limit text uri (lineAt text line) column = .ok [])
    (hdefine : define (some workspace) limit text uri line column = .ok targets)
    (htarget : target ∈ targets) :
    ∃ quoted place, importAt? (lineAt text line) column = some quoted ∧
      importTarget? workspace quoted = .ok (some place) ∧ target = ⟨place.uri, 0, 0⟩ := by
  simp only [define, hcalls, bind, Except.bind, List.isEmpty_nil, if_true] at hdefine
  cases hquoted : importAt? (lineAt text line) column with
  | none =>
    simp only [importTargets, hquoted, Except.mapError, Except.ok.injEq] at hdefine
    rw [← hdefine] at htarget
    cases htarget
  | some quoted =>
    cases hplace : importTarget? workspace quoted with
    | error cause =>
      simp [importTargets, hquoted, hplace, bind, Except.bind, Except.mapError] at hdefine
    | ok answer =>
      simp only [importTargets, hquoted, hplace, bind, Except.bind] at hdefine
      cases answer with
      | none =>
        cases hdefine
        cases htarget
      | some place =>
        cases hdefine
        exact ⟨quoted, place, rfl, hplace, List.mem_singleton.mp htarget⟩

/-- The target of an import lies in the workspace exactly if no file outside stands at the path
of the import. A path that never leads above the root keeps it inside. -/
theorem define_inside_iff (htree : workspace.tree.WellFormed)
    (hroot : workspace.root.Normalised) {limit : Int} {text : List Char} {uri : String}
    {line column : Int} {targets : List Target} {target : Target}
    (hcalls : callTargets (some workspace) limit text uri (lineAt text line) column = .ok [])
    (hdefine : define (some workspace) limit text uri line column = .ok targets)
    (htarget : target ∈ targets) :
    ∃ quoted place, importAt? (lineAt text line) column = some quoted ∧
      importTarget? workspace quoted = .ok (some place) ∧ target = ⟨place.uri, 0, 0⟩ ∧
      (workspace.root.parts <+: place ↔
        (workspace.tree.isFile workspace.cwd (workspace.usualPath quoted).toString = .ok true →
          workspace.root.parts <+: (workspace.usualPath quoted).resolve workspace.cwd)) ∧
      ((importPath quoted).Inward → workspace.root.parts <+: place) := by
  obtain ⟨quoted, place, hquoted, hplace, huri⟩ := exists_import_of_define hcalls hdefine htarget
  exact ⟨quoted, place, hquoted, hplace, huri, importTarget?_inside_iff htree hroot hplace⟩

/-! ## A workspace with a file outside -/

/-- A script stands beside the usual directory of its space, and another one outside the root. -/
def sharingWorkspace : Workspace where
  host := .usual
  tree := { entries := [
    (["secret.molang"], .file .empty),
    (["w"], .directory),
    (["w", "data"], .directory),
    (["w", "data", "ns"], .directory),
    (["w", "data", "ns", "molang"], .directory),
    (["w", "data", "ns", "shared.molang"], .file .empty)] }
  cwd := []
  root := ⟨.root, ["w"]⟩

theorem wellFormed_sharingWorkspace : sharingWorkspace.tree.WellFormed :=
  ⟨by decide, by decide +kernel, by decide⟩

theorem normalised_sharingWorkspace : sharingWorkspace.root.Normalised :=
  Path.Normal.normalised ⟨rfl, by decide +kernel⟩

/-- An import that climbs, but not out of the workspace. -/
theorem define_inside_iff_sharedScript :
    ∃ place, importTarget? sharingWorkspace "ns:../shared".toList = .ok (some place) ∧
      sharingWorkspace.root.parts <+: place := by
  have hcalls : callTargets (some sharingWorkspace) 50 "import('ns:../shared')".toList "u:"
      (lineAt "import('ns:../shared')".toList 0) 10 = .ok [] := by decide +kernel
  have hdefine : define (some sharingWorkspace) 50 "import('ns:../shared')".toList "u:" 0 10 =
      .ok [⟨"file:///w/data/ns/shared.molang", 0, 0⟩] := by decide +kernel
  have himport : importAt? (lineAt "import('ns:../shared')".toList 0) 10 =
      some "ns:../shared".toList := by decide +kernel
  have hbounds := define_inside_iff wellFormed_sharingWorkspace normalised_sharingWorkspace
    hcalls hdefine List.mem_cons_self
  obtain ⟨quoted, place, hquoted, hplace, _, _, hinside⟩ := hbounds
  have hsame : quoted = "ns:../shared".toList := Option.some.inj (hquoted.symm.trans himport)
  rw [hsame] at hplace hinside
  exact ⟨place, hplace, hinside (by decide +kernel)⟩

/-- Absolute and climbing imports lead out of the workspace. -/
theorem define_leaves_workspace :
    define (some sharingWorkspace) 50 "import('ns:/secret')".toList "u:" 0 10 =
        .ok [⟨Place.uri ["secret.molang"], 0, 0⟩] ∧
      define (some sharingWorkspace) 50 "import('ns:../../../../secret')".toList "u:" 0 10 =
        .ok [⟨Place.uri ["secret.molang"], 0, 0⟩] ∧
      ¬sharingWorkspace.root.parts <+: ["secret.molang"] := by
  decide +kernel

end MolangAssist.Assist
