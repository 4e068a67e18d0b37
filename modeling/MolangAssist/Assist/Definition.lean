import MolangAssist.Files.Pattern
import MolangAssist.Host
import MolangAssist.Script.Declarations

/-!
# Going to definitions

A call leads to the declarations of its function, those in the open script first and then those
in the other scripts of the workspace.  An import leads to the imported script.
-/
namespace MolangAssist.Assist

open Files Script Text

/-- A position in a document. -/
structure Target where
  uri : String
  line : Nat
  column : Nat
deriving Repr, DecidableEq

/-- The workspace that a script belongs to. -/
structure Workspace where
  host : Host
  tree : Tree
  cwd : Place
  root : Path

/-- Why no definitions are found. -/
inductive DefinitionError where
  | search (cause : SearchError)
  /-- The URI of the open document is refused. -/
  | uri (cause : UriError)
deriving Repr, DecidableEq

def DefinitionError.message : DefinitionError → String
  | .search cause => cause.message
  | .uri cause => cause.message

/-- The declarations of a name in a text. -/
def declarationTargets (text : List Char) (uri : String) (name : List Char) : List Target :=
  (declarationOffsets text name).map fun offset =>
    let position := positionAt text (offset : Nat)
    ⟨uri, position.1, position.2.toNat⟩

/-- Directories whose scripts do not belong to the workspace. -/
def skippedDirectories : List String := ["node_modules", ".git"]

/-- The scripts of a workspace in order, at most `limit` of them. -/
def workspaceScripts (workspace : Workspace) (limit : Int) : Except SearchError (List Place) :=
  match workspace.tree.search workspace.host.stack workspace.cwd workspace.root "*.molang" with
  | .error cause => .error cause
  | .ok found =>
    let kept := found.filter fun parts => !parts.any (skippedDirectories.contains ·)
    .ok ((kept.take limit.toNat).map fun parts =>
      (workspace.root.below parts).resolve workspace.cwd)

/-- The place of the document with a URI, if it is a file. -/
def placeOfUri? (uris : UriReader) (cwd : Place) (uri : String) :
    Except DefinitionError (Option Place) :=
  if (after? "file://".toList uri.toList).isNone then .ok none
  else
    match uris.filePath? uri with
    | .error cause => .error (.uri cause)
    | .ok shown =>
      match present? shown with
      | none => .ok none
      | some path =>
        if path.toList.contains (Char.ofNat 0) then .error (.search (.access path .nulByte))
        else .ok (some ((Path.ofString path).resolve cwd))

/-- The declarations of a name in one script of the workspace; an unreadable script has none. -/
def scriptTargets (workspace : Workspace) (name : List Char) (script : Place) : List Target :=
  match workspace.tree.readText workspace.cwd script.toString with
  | .ok text => declarationTargets text.toList script.uri name
  | .error _ => []

/-- The declarations of a name in the scripts of a workspace, the open document left out. -/
def workspaceTargets (workspace : Workspace) (limit : Int) (uri : String) (name : List Char) :
    Except DefinitionError (List Target) := do
  let current ← placeOfUri? workspace.host.uris workspace.cwd uri
  let scripts ← (workspaceScripts workspace limit).mapError .search
  .ok ((scripts.filter fun script => some script != current).flatMap
    (scriptTargets workspace name))

/-- The script that an import names: the one at its usual place below the root, else the first
one anywhere in the workspace whose path ends alike. -/
def importTarget? (workspace : Workspace) (quoted : List Char) :
    Except SearchError (Option Place) :=
  if !quoted.contains ':' then .ok none
  else do
    let space := String.ofList (quoted.takeWhile (· != ':'))
    let path := (quoted.dropWhile (· != ':')).drop 1
    let relative := (Path.ofString "data").join (Path.ofString space)
      |>.join (Path.ofString "molang")
      |>.join (Path.ofString (String.ofList path ++ ".molang"))
    let direct := workspace.root.join relative
    match workspace.tree.isFile workspace.cwd direct.toString with
    | .error cause => .error (.access direct.toString cause)
    | .ok true => .ok (some (direct.resolve workspace.cwd))
    | .ok false =>
      let found ← workspace.tree.search workspace.host.stack workspace.cwd workspace.root
        (String.ofList (lastPiece '/' path) ++ ".molang")
      let candidates := found.map workspace.root.below
      match candidates.find? fun candidate =>
        relative.toString.toList.isSuffixOf candidate.toString.toList with
      | some candidate => .ok (some (candidate.resolve workspace.cwd))
      | none => .ok none

/-- Where the call at a position leads. -/
def callTargets (workspace : Option Workspace) (limit : Int) (text : List Char) (uri : String)
    (line : List Char) (column : Int) : Except DefinitionError (List Target) :=
  match callAt? line column with
  | none => .ok []
  | some name =>
    let here := declarationTargets text uri name
    match workspace with
    | none => .ok here
    | some workspace => do
      let elsewhere ← workspaceTargets workspace limit uri name
      .ok (here ++ elsewhere)

/-- Where the import at a position leads. -/
def importTargets (workspace : Option Workspace) (line : List Char) (column : Int) :
    Except SearchError (List Target) :=
  match workspace, importAt? line column with
  | some workspace, some quoted => do
    match ← importTarget? workspace quoted with
    | some script => .ok [⟨script.uri, 0, 0⟩]
    | none => .ok []
  | _, _ => .ok []

/-- Where a position leads: a call with declarations, else an import. -/
def define (workspace : Option Workspace) (limit : Int) (text : List Char) (uri : String)
    (line column : Int) : Except DefinitionError (List Target) := do
  let current := lineAt text line
  let called ← callTargets workspace limit text uri current column
  if called.isEmpty then (importTargets workspace current column).mapError .search
  else .ok called

end MolangAssist.Assist
