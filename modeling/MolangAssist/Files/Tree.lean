import MolangAssist.Files.Path
import MolangAssist.Text.Quoted
import MolangAssist.Text.Utf8

/-!
# Trees of files

A file tree maps places to files and directories.  Paths are walked part by part as an operating
system does it: every part but the last has to be a directory, also one that a `..` leaves.
-/
namespace MolangAssist.Files

open Text

/-- What stands at a place. -/
inductive Node where
  | file (bytes : ByteArray)
  | directory

/-- Files and directories by place.  The root of the tree is always a directory. -/
structure Tree where
  entries : List (Place × Node) := []

/-- Why a path cannot be used. -/
inductive AccessError where
  | nulByte
  | notFound
  | notADirectory
  | isADirectory
  | nameTooLong
deriving Repr, DecidableEq

/-- The error as messages show it. -/
def AccessError.message (path : String) : AccessError → String
  | .nulByte => "embedded null byte"
  | .notFound => "[Errno 2] No such file or directory: " ++ quoted path
  | .notADirectory => "[Errno 20] Not a directory: " ++ quoted path
  | .isADirectory => "[Errno 21] Is a directory: " ++ quoted path
  | .nameTooLong => "[Errno 36] File name too long: " ++ quoted path

namespace Tree

/-- The node at a place. -/
def node? (tree : Tree) (place : Place) : Option Node :=
  if place.isEmpty then some .directory else tree.entries.lookup place

/-- Adds a directory and the directories above it. -/
def addDirectory (tree : Tree) (place : Place) : Tree :=
  (List.range place.length).foldl (fun tree n =>
    let above := place.take (n + 1)
    match tree.node? above with
    | some _ => tree
    | none => { entries := tree.entries ++ [(above, .directory)] }) tree

/-- Adds a file and the directories above it.  A file that stands there already is replaced. -/
def addFile (tree : Tree) (place : Place) (bytes : ByteArray) : Tree :=
  let tree := tree.addDirectory place.dropLast
  { entries := tree.entries.filter (·.1 != place) ++ [(place, .file bytes)] }

/-- The longest name of a file, in bytes. -/
def maxNameBytes : Nat := 255

/-- The longest path, in bytes. -/
def maxPathBytes : Nat := 4095

end Tree

/-- A path that an operating system refuses, for its length or for that of a part. -/
def Path.TooLong (path : Path) : Prop :=
  Tree.maxPathBytes < path.toString.utf8ByteSize ∨
    ∃ part ∈ path.parts, Tree.maxNameBytes < part.utf8ByteSize

instance (path : Path) : Decidable path.TooLong := inferInstanceAs (Decidable (_ ∨ _))

namespace Tree

/-- Walks on from a place.  An empty part or `.` asks for a directory and stays there. -/
def walk (tree : Tree) : Place → List String → Except AccessError Place
  | place, [] => .ok place
  | place, part :: rest =>
    match tree.node? place with
    | none => .error .notFound
    | some (.file _) => .error .notADirectory
    | some .directory =>
      if part = "" ∨ part = "." then walk tree place rest
      else if part = ".." then walk tree place.dropLast rest
      else if maxNameBytes < part.utf8ByteSize then .error .nameTooLong
      else
        match tree.node? (place ++ [part]) with
        | none => .error .notFound
        | some _ => walk tree (place ++ [part]) rest

/-- The place that a path leads to, and what stands there. -/
def find (tree : Tree) (cwd : Place) (path : String) : Except AccessError (Place × Node) :=
  let chars := path.toList
  if chars.contains (Char.ofNat 0) then .error .nulByte
  else if chars.isEmpty then .error .notFound
  else if maxPathBytes < path.utf8ByteSize then .error .nameTooLong
  else do
    let start := if chars.head? = some '/' then [] else cwd
    let place ← tree.walk start ((splitAt '/' chars).map String.ofList)
    match tree.node? place with
    | some node => .ok (place, node)
    | none => .error .notFound

/-- What stands at a path, if anything; only a name that is too long is an error. -/
def probe (tree : Tree) (cwd : Place) (path : String) :
    Except AccessError (Option (Place × Node)) :=
  match tree.find cwd path with
  | .ok found => .ok (some found)
  | .error .nameTooLong => .error .nameTooLong
  | .error _ => .ok none

/-- Whether anything stands at a path. -/
def exists? (tree : Tree) (cwd : Place) (path : String) : Except AccessError Bool := do
  let found ← tree.probe cwd path
  .ok found.isSome

/-- Whether a path leads to a file. -/
def isFile (tree : Tree) (cwd : Place) (path : String) : Except AccessError Bool := do
  match ← tree.probe cwd path with
  | some (_, .file _) => .ok true
  | _ => .ok false

/-- Why a text file is not read. -/
inductive TextError where
  | access (cause : AccessError)
  | notUtf8
deriving Repr, DecidableEq

def TextError.message (path : String) : TextError → String
  | .access cause => cause.message path
  | .notUtf8 => "<utf-8 decode error>"

/-- The text of a file. -/
def readText (tree : Tree) (cwd : Place) (path : String) : Except TextError String :=
  match tree.find cwd path with
  | .error cause => .error (.access cause)
  | .ok (_, .directory) => .error (.access .isADirectory)
  | .ok (_, .file bytes) =>
    match decodeFile? bytes with
    | some text => .ok text
    | none => .error .notUtf8

/-- The parts of a place that lead there from the directory `base`. -/
def relative? : (base place : Place) → Option (List String)
  | [], part :: parts => some (part :: parts)
  | b :: base, p :: place => if b = p then relative? base place else none
  | _, [] => none

/-- Everything below a place, seen from there. -/
def below (tree : Tree) (base : Place) : List (List String) :=
  tree.entries.filterMap fun entry => relative? base entry.1

/-- A place and the directories below it, seen from there. -/
def directories (tree : Tree) (base : Place) : List (List String) :=
  [] :: tree.entries.filterMap fun entry =>
    match entry.2 with
    | .directory => relative? base entry.1
    | .file _ => none

end Tree

end MolangAssist.Files
