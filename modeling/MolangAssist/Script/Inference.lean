import MolangAssist.Schema.Document
import MolangAssist.Script.Annotation
import MolangAssist.Text.Case

/-!
# Inferring the runtime of a script

An annotation in the script decides, else the path of the script: a folder for an event below
one of the marker folders, or a path that mentions the name of a runtime.
-/
namespace MolangAssist.Script

open Text Schema

/-- The marker folders unless settings name others. -/
def defaultFolders : List String := ["callbacks", "molang"]

/-- A path with forward slashes and in lower case. -/
def normalizePath (path : String) : List Char :=
  lower (path.toList.map fun c => if c = '\\' then '/' else c)

/-- The form of a runtime id that is looked for in paths: the part behind the last colon,
without underscores and in lower case. -/
def fuzzyKey (runtime : String) : List Char :=
  lower ((lastPiece ':' runtime.toList).filter (· != '_'))

/-- A marker folder as it stands in a normalised path. -/
def marker (folder : String) : List Char := trimWhile (· == '/') (lower folder.toList) ++ ['/']

/-- The runtime of the event whose folder follows the first occurrence of a marker folder. -/
def eventBelow? (path : List Char) (folder : String) : Option String :=
  match afterFirst? (marker folder) path with
  | none => none
  | some rest =>
    let segment := rest.takeWhile (· != '/')
    if segment.isEmpty || !rest.contains '/' then none
    else some (String.ofList ("event:".toList ++ upper segment))

/-- The first declared runtime that an annotation names. -/
def runtimeFromContent? (doc : Document) (text : List Char) : Option String :=
  ((annotations text).map String.ofList).find? (doc.runtimeNames.contains ·)

/-- The runtime that a path suggests.  Marker folders come first, in their order; then the first
declared runtime that the path mentions. -/
def runtimeFromPath? (doc : Document) (path : String) (folders : List String) : Option String :=
  let normal := normalizePath path
  match (folders.filterMap (eventBelow? normal)).find? (doc.runtimeNames.contains ·) with
  | some runtime => some runtime
  | none => doc.runtimeNames.find? fun name =>
    !(fuzzyKey name).isEmpty && occursIn (fuzzyKey name) normal

/-- The runtime of a script with the given text and, unless empty, the given path. -/
def inferRuntime? (doc : Document) (text : List Char) (path : Option String)
    (folders : List String) : Option String :=
  match runtimeFromContent? doc text with
  | some runtime => some runtime
  | none =>
    match present? path with
    | some path => runtimeFromPath? doc path folders
    | none => none

end MolangAssist.Script
