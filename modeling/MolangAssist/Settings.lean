import MolangAssist.Files.Tree
import MolangAssist.Json.Reader
import MolangAssist.Script.Inference

/-!
# Settings of a workspace

Settings stand in a JSON file at the root of a workspace.  Texts in it may refer to environment
variables.  Each setting is read on its own; a bad one keeps its default and is reported.
-/
namespace MolangAssist

open Files Json Text

/-- The name of the settings file. -/
def settingsFile : String := ".molangls.json"

/-- How many scripts of a workspace are searched unless settings say otherwise. -/
def defaultSearchLimit : Int := 50

/-- The settings of a workspace. -/
structure Settings where
  root : Path
  schemaPath : Option Path := none
  contextFolders : List String := Script.defaultFolders
  defaultRuntime : Option String := none
  searchLimit : Int := defaultSearchLimit
  warnings : List String := []
deriving Repr

namespace Settings

/-! ## References to variables -/

/-- A reference to a variable, with or without braces. -/
def reference : Recogniser (List Char) := fun _ s =>
  match s with
  | '$' :: '\x7b' :: rest =>
    match name? rest with
    | some (name, '\x7d' :: rest) => some (name, rest)
    | _ => none
  | '$' :: rest => name? rest
  | _ => none

/-- A stretch of text as it is read for references. -/
inductive Fragment where
  | literal (c : Char)
  | variable (name : String)
deriving Repr, DecidableEq

/-- Cuts a text into characters and references; `skip` characters belong to a reference that
was read already. -/
def fragmentsFrom : (skip : Nat) → List Char → List Fragment
  | _, [] => []
  | skip + 1, _ :: cs => fragmentsFrom skip cs
  | 0, c :: cs =>
    match reference none (c :: cs) with
    | some (name, rest) =>
      .variable (String.ofList name) :: fragmentsFrom (cs.length - rest.length) cs
    | none => .literal c :: fragmentsFrom 0 cs

/-- Cuts a text into characters and references. -/
def fragments (text : String) : List Fragment := fragmentsFrom 0 text.toList

/-- The variables that texts may refer to: the environment and, before it, the workspace
root. -/
def knownVariables (environment : Table String) (root : Path) : Table String :=
  ("workspaceRoot", root.toString) :: environment

/-- The variables in a text that have no value, once for each time they are referred to. -/
def unsetVariables (vars : Table String) (text : String) : List String :=
  (fragments text).filterMap fun
    | .variable name => if (Table.get? vars name).isNone then some name else none
    | .literal _ => none

/-- The text with the values of its variables put in. -/
def expand (vars : Table String) (text : String) : String :=
  String.ofList ((fragments text).flatMap fun
    | .variable name => ((Table.get? vars name).getD "").toList
    | .literal c => [c])

def unsetWarning (name : String) : String :=
  "Environment variable " ++ name ++ " referenced in " ++ settingsFile ++ " is not set"

mutual

/-- Puts the values of variables into every text; a text with an unset variable is dropped. -/
def substitute (vars : Table String) : Value → Value
  | .text s => if (unsetVariables vars s).isEmpty then .text (expand vars s) else .null
  | .list items => .list (substituteItems vars items)
  | .object fields => .object (substituteFields vars fields)
  | v => v
termination_by structural v => v

def substituteItems (vars : Table String) : List Value → List Value
  | [] => []
  | v :: rest => substitute vars v :: substituteItems vars rest
termination_by structural items => items

def substituteFields (vars : Table String) : List (String × Value) → List (String × Value)
  | [] => []
  | (key, v) :: rest => (key, substitute vars v) :: substituteFields vars rest
termination_by structural fields => fields

end

mutual

/-- The unset variables of all texts within a value, in order. -/
def unsetWithin (vars : Table String) : Value → List String
  | .text s => unsetVariables vars s
  | .list items => unsetWithinItems vars items
  | .object fields => unsetWithinFields vars fields
  | _ => []
termination_by structural v => v

def unsetWithinItems (vars : Table String) : List Value → List String
  | [] => []
  | v :: rest => unsetWithin vars v ++ unsetWithinItems vars rest
termination_by structural items => items

def unsetWithinFields (vars : Table String) : List (String × Value) → List String
  | [] => []
  | (_, v) :: rest => unsetWithin vars v ++ unsetWithinFields vars rest
termination_by structural fields => fields

end

mutual

/-- The calls that are nested to put the values of variables into a value. -/
def substitutionCalls (stack : Stack) : Value → Nat
  | .text _ => 2 + stack.leaf
  | .list items => 2 + substitutionCallsItems stack items
  | .object fields => 2 + substitutionCallsFields stack fields
  | _ => 1
termination_by structural v => v

def substitutionCallsItems (stack : Stack) : List Value → Nat
  | [] => 0
  | v :: rest => max (substitutionCalls stack v) (substitutionCallsItems stack rest)
termination_by structural items => items

def substitutionCallsFields (stack : Stack) : List (String × Value) → Nat
  | [] => 0
  | (_, v) :: rest => max (substitutionCalls stack v) (substitutionCallsFields stack rest)
termination_by structural fields => fields

end

/-! ## The single settings -/

/-- A setting that is absent, good, or bad. -/
inductive Reading (α : Type) where
  | absent
  | good (value : α)
  | bad
deriving Repr

namespace Reading

/-- The value read, or a default. -/
def getD {α : Type} (default : α) : Reading α → α
  | .good value => value
  | _ => default

/-- The warning for a bad setting. -/
def warning {α : Type} (text : String) : Reading α → List String
  | .bad => [text]
  | _ => []

end Reading

/-- A text that is not empty. -/
def readText : Option Value → Reading String
  | none => .absent
  | some .null => .absent
  | some (.text s) => if s = "" then .bad else .good s
  | some _ => .bad

/-- A list of texts, from which all else and empty texts are left out. -/
def readFolders : Option Value → Reading (List String)
  | none => .absent
  | some .null => .absent
  | some (.list items) => .good (items.filterMap fun
    | .text s => if s = "" then none else some s
    | _ => none)
  | some _ => .bad

/-- A positive integer. -/
def readLimit : Option Value → Reading Int
  | none => .absent
  | some .null => .absent
  | some (.int n) => if 0 < n then .good n else .bad
  | some _ => .bad

/-- The settings that an object declares. -/
def ofFields (environment : Table String) (root : Path) (fields : List (String × Value)) :
    Settings :=
  let vars := knownVariables environment root
  let data := substituteFields vars fields
  let schemaPath := readText (Table.get? data "schemaPath")
  let folders := readFolders (Table.get? data "contextFolders")
  let runtime := readText (Table.get? data "defaultRuntime")
  let limit := readLimit (Table.get? data "workspaceSearchLimit")
  { root := root
    schemaPath :=
      match schemaPath with
      | .good path => some (root.join (Path.ofString path))
      | _ => none
    contextFolders := folders.getD Script.defaultFolders
    defaultRuntime :=
      match runtime with
      | .good id => some id
      | _ => none
    searchLimit := limit.getD defaultSearchLimit
    warnings :=
      (unsetWithinFields vars fields).map unsetWarning
        ++ schemaPath.warning "schemaPath must be a non-empty string"
        ++ folders.warning "contextFolders must be a list of folder names"
        ++ runtime.warning "defaultRuntime must be a runtime id string"
        ++ limit.warning "workspaceSearchLimit must be a positive integer" }

/-! ## The settings file -/

/-- Why settings cannot even be replaced by defaults. -/
inductive Fault where
  /-- The file is nested too deeply to be read, or its values to have variables put in. -/
  | tooDeep
  | access (path : String) (cause : AccessError)
deriving Repr, DecidableEq

def Fault.message : Fault → String
  | .tooDeep => ReadError.tooDeep.message
  | .access path cause => cause.message path

/-- Settings and the problems with them.  Problems with reading the file are reported at
once. -/
structure Report where
  settings : Settings
  warnings : List String := []
  reported : List String := []
deriving Repr

/-- Defaults, because the file could not be read. -/
def unreadable (root : Path) (file cause : String) : Report :=
  let warning := "Failed to read " ++ file ++ ": " ++ cause
  { settings := { root := root }, warnings := [warning], reported := [warning] }

/-- The settings in the text of a settings file.  Variables are put into the whole object before
any setting is read. -/
def ofText (stack : Stack) (environment : Table String) (root : Path) (file text : String) :
    Except Fault Report :=
  match Json.readFile stack text with
  | .error .tooDeep => .error .tooDeep
  | .error cause => .ok (unreadable root file cause.message)
  | .ok (.object fields) =>
    if stack.frames < substitutionCalls stack (.object fields) then .error .tooDeep
    else
      let settings := ofFields environment root fields
      .ok { settings := settings, warnings := settings.warnings }
  | .ok _ =>
    .ok { settings := { root := root }, warnings := [file ++ " must contain a JSON object"] }

/-- The settings of the workspace at `root`; defaults when there is no settings file. -/
def load (stack : Stack) (tree : Tree) (cwd : Place) (environment : Table String) (root : Path) :
    Except Fault Report :=
  let file := (root.below [settingsFile]).toString
  match tree.exists? cwd file with
  | .error cause => .error (.access file cause)
  | .ok false => .ok { settings := { root := root } }
  | .ok true =>
    match tree.readText cwd file with
    | .error cause => .ok (unreadable root file (cause.message file))
    | .ok text => ofText stack environment root file text

end Settings

end MolangAssist
