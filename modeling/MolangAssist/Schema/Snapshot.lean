import MolangAssist.Files.Tree
import MolangAssist.Json.Reader
import MolangAssist.Schema.Bundled
import MolangAssist.Schema.Decode

/-!
# The schema of a session

A session tries to load a schema once.  Whatever comes of it is final.
-/
namespace MolangAssist.Schema

open Files

/-- Why a schema file has no document. -/
inductive ParseError where
  | json (cause : Json.ReadError)
  | shape (cause : DecodeError)
deriving Repr, DecidableEq

def ParseError.message : ParseError → String
  | .json cause => cause.message
  | .shape cause => cause.message

/-- Why a schema was not loaded. -/
inductive LoadFailure where
  | notFound (path : String)
  | unreadable (path : String) (cause : Tree.TextError)
  | unusable (path : String) (cause : ParseError)
deriving Repr, DecidableEq

def LoadFailure.message : LoadFailure → String
  | .notFound path => "schema not found: " ++ path
  | .unreadable path cause => "failed to read schema " ++ path ++ ": " ++ cause.message path
  | .unusable path cause => "failed to parse schema " ++ path ++ ": " ++ cause.message

/-- The document in a text. -/
def Document.parse (stack : Stack) (text : String) : Except ParseError Document :=
  match Json.readFile stack text with
  | .error cause => .error (.json cause)
  | .ok value =>
    match Document.ofJson stack value with
    | .error cause => .error (.shape cause)
    | .ok doc => .ok doc

/-- The schema of a session. -/
inductive Snapshot where
  /-- Nothing was tried yet. -/
  | pending
  /-- The path was none at all, which no failure records. -/
  | broken
  | failed (why : LoadFailure)
  | held (doc : Document)
deriving Repr

namespace Snapshot

def document? : Snapshot → Option Document
  | .held doc => some doc
  | _ => none

/-- The document, an empty one if none is held. -/
def document (snapshot : Snapshot) : Document := snapshot.document?.getD {}

def failure? : Snapshot → Option LoadFailure
  | .failed why => some why
  | _ => none

def isLoaded (snapshot : Snapshot) : Bool := snapshot.document?.isSome

/-- Loads the file at a path, or the schema that comes with the library. -/
def attempt (stack : Stack) (tree : Tree) (cwd : Place) : Option Path → Snapshot
  | none => .held bundled
  | some path =>
    let name := path.toString
    match tree.readText cwd name with
    | .error (.access .nulByte) => .broken
    | .error (.access .notFound) => .failed (.notFound name)
    | .error cause => .failed (.unreadable name cause)
    | .ok text =>
      match Document.parse stack text with
      | .error cause => .failed (.unusable name cause)
      | .ok doc => .held doc

/-- What a request to load a schema came to. -/
inductive LoadResult where
  /-- Whether a document is held now. -/
  | done (loaded : Bool)
  /-- The path is none at all: it holds a zero byte or half a pair of surrogates. -/
  | badPath
deriving Repr, DecidableEq

/-- Loads a schema unless that was tried before. -/
def load (stack : Stack) (tree : Tree) (cwd : Place) (path : Option Path) :
    Snapshot → Snapshot × LoadResult
  | .pending =>
    match attempt stack tree cwd path with
    | .broken => (.broken, .badPath)
    | outcome => (outcome, .done outcome.isLoaded)
  | snapshot => (snapshot, .done snapshot.isLoaded)

end Snapshot

end MolangAssist.Schema
