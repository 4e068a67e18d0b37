import MolangAssist.Assist.Completion
import MolangAssist.Assist.Definition
import MolangAssist.Assist.Hover
import MolangAssist.Schema.Snapshot
import MolangAssist.Settings

/-!
# Editing sessions

A session holds one schema, the settings of its workspace and the documents that an editor has
open.  Only loading a workspace and opening or closing documents change it.
-/
namespace MolangAssist

open Assist Files Schema Text

/-- A document under the URI it was asked for, and where it is kept. -/
structure TextDocument where
  uri : String
  path : String
  text : String
deriving Repr, DecidableEq

/-- What a session knows. -/
structure Session where
  host : Host
  cwd : Place
  settings : Settings
  schema : Snapshot := .pending
  documents : Table TextDocument := []

/-- Why a workspace was not loaded. -/
inductive WorkspaceError where
  | rootUri (cause : UriError)
  | settings (fault : Settings.Fault)
  | badSchemaPath
deriving Repr, DecidableEq

def WorkspaceError.message : WorkspaceError → String
  | .rootUri cause => cause.message
  | .settings fault => fault.message
  | .badSchemaPath => AccessError.nulByte.message ""

/-- The two numbers of a position. -/
inductive Coordinate where
  | line
  | character
deriving Repr, DecidableEq

def Coordinate.title : Coordinate → String
  | .line => "line"
  | .character => "character"

/-- The largest line number and column of a request. -/
def maxCoordinate : Int := 2147483647

/-- Why a request has no answer. -/
inductive RequestError where
  | coordinate (which : Coordinate) (value : Int)
  | uri (cause : UriError)
  | document (path : String) (cause : Tree.TextError)
  | position (cause : PositionError)
  | search (cause : SearchError)
deriving Repr, DecidableEq

def RequestError.message : RequestError → String
  | .coordinate which value =>
    "Position." ++ which.title ++ " should be in range [0:" ++ toString maxCoordinate
      ++ "], but was " ++ toString value ++ "."
  | .uri cause => cause.message
  | .document path cause => cause.message path
  | .position cause => cause.message
  | .search cause => cause.message

namespace Session

/-- The name under which editors know the server. -/
def serverName : String := "molang-ls"

def serverVersion : String := "0.1.0"

/-- The requests and notifications that are answered. -/
def features : List String :=
  ["initialized", "textDocument/completion", "textDocument/definition", "textDocument/hover"]

/-- Typing one of these asks for completion. -/
def triggerCharacters : List String := ["."]

/-- A session in a directory, before anything is loaded. -/
def start (host : Host) (cwd : Place) : Session :=
  { host := host, cwd := cwd, settings := { root := cwd.path } }

/-- Loads the settings of a workspace and, unless one was tried before, a schema.  The schema
path of the settings counts only then. -/
def loadWorkspace (tree : Tree) (environment : Table String) (root : Path) (session : Session) :
    Session × Except WorkspaceError Unit :=
  let stack := session.host.stack
  match Settings.load stack tree session.cwd environment root with
  | .error fault => (session, .error (.settings fault))
  | .ok report =>
    let (schema, result) := session.schema.load stack tree session.cwd report.settings.schemaPath
    let session := { session with settings := report.settings, schema := schema }
    match result with
    | .done _ => (session, .ok ())
    | .badPath => (session, .error .badSchemaPath)

/-- The workspace root for a root URI; the current directory without one. -/
def rootOf (uris : UriReader) (cwd : Place) : Option String → Except UriError Path
  | none => .ok cwd.path
  | some uri => do
    let shown ← uris.filePath? uri
    match present? shown with
    | some path => .ok (Path.ofString path)
    | none => .ok cwd.path

/-- Starts over with an editor that has nothing open yet.  A root URI that is refused changes
nothing. -/
def initialized (tree : Tree) (environment : Table String) (rootUri : Option String)
    (session : Session) : Session × Except WorkspaceError Unit :=
  match rootOf session.host.uris session.cwd rootUri with
  | .error cause => (session, .error (.rootUri cause))
  | .ok root => loadWorkspace tree environment root { session with documents := [] }

/-- Two URIs with the same decoded form name one document. -/
def documentKey (uri : String) : String := String.ofList (percentDecode uri.toList)

/-- Opens a document, or replaces one that is open. -/
def openDocument (uri text : String) (session : Session) : Except UriError Session := do
  let path ← session.host.uris.documentPath uri
  let doc : TextDocument := ⟨uri, path, text⟩
  .ok { session with documents := Table.put session.documents (documentKey uri) doc }

/-- Closes a document. -/
def closeDocument (uri : String) (session : Session) : Session :=
  { session with documents := session.documents.filter (·.1 != documentKey uri) }

/-- Reads a document that is not open.  It is read at its path without redundant parts. -/
def readDocument (uris : UriReader) (tree : Tree) (cwd : Place) (uri : String) :
    Except RequestError TextDocument :=
  match uris.documentPath uri with
  | .error cause => .error (.uri cause)
  | .ok path =>
    let file := (Path.ofString path).toString
    match tree.readText cwd file with
    | .ok text => .ok ⟨uri, path, text⟩
    | .error cause => .error (.document file cause)

/-- The document with a URI: the open one, else the file. -/
def document (tree : Tree) (session : Session) (uri : String) :
    Except RequestError TextDocument :=
  match Table.get? session.documents (documentKey uri) with
  | some found => .ok found
  | none => readDocument session.host.uris tree session.cwd uri

/-- Checks a number of a position. -/
def checkCoordinate (which : Coordinate) (value : Int) : Except RequestError Unit :=
  if 0 ≤ value ∧ value ≤ maxCoordinate then .ok () else .error (.coordinate which value)

/-- The document that a request asks about.  The position is checked first. -/
def requested (tree : Tree) (session : Session) (uri : String) (line column : Int) :
    Except RequestError TextDocument := do
  checkCoordinate .line line
  checkCoordinate .character column
  session.document tree uri

/-- The runtime of a script: the inferred one, else the default if it is declared. -/
def runtimeFor? (session : Session) (text : String) (path : Option String) : Option String :=
  let doc := session.schema.document
  match Script.inferRuntime? doc text.toList path session.settings.contextFolders with
  | some runtime => some runtime
  | none => session.settings.defaultRuntime.filter (doc.runtimeNames.contains ·)

/-- The runtime of a document. -/
def documentRuntime? (session : Session) (doc : TextDocument) : Option String :=
  session.runtimeFor? doc.text (some doc.path)

/-- Answers a completion request. -/
def completion (tree : Tree) (session : Session) (uri : String) (line column : Int) :
    Except RequestError (List Item) := do
  let doc ← session.requested tree uri line column
  .ok (complete session.schema.document? doc.text.toList line column
    (session.documentRuntime? doc))

/-- Answers a hover request. -/
def hover (tree : Tree) (session : Session) (uri : String) (line column : Int) :
    Except RequestError (Option String) := do
  let doc ← session.requested tree uri line column
  match hover? session.schema.document? doc.text.toList line column
      (session.documentRuntime? doc) with
  | .ok shown => .ok shown
  | .error cause => .error (.position cause)

/-- Answers a definition request. -/
def definition (tree : Tree) (session : Session) (uri : String) (line column : Int) :
    Except RequestError (List Target) := do
  let doc ← session.requested tree uri line column
  let workspace : Workspace := ⟨session.host, tree, session.cwd, session.settings.root⟩
  match define (some workspace) session.settings.searchLimit doc.text.toList doc.uri line
      column with
  | .ok targets => .ok targets
  | .error (.search cause) => .error (.search cause)
  | .error (.uri cause) => .error (.uri cause)

end Session

end MolangAssist
