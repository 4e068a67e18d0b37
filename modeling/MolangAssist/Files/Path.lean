import MolangAssist.Text.Scan

/-!
# Paths

A path is written with slashes.  Empty and `.` parts do not count; `..` parts are kept until a
path is resolved to a place, which has none.
-/
namespace MolangAssist.Files

open Text

/-- Where a path starts.  Exactly two leading slashes are told apart from one or many. -/
inductive Anchor where
  | here
  | root
  | doubleRoot
deriving Repr, DecidableEq

def Anchor.text : Anchor → String
  | .here => ""
  | .root => "/"
  | .doubleRoot => "//"

/-- A path as written, without redundant parts. -/
structure Path where
  anchor : Anchor
  parts : List String
deriving Repr, DecidableEq

/-- The parts of a normal absolute path: no `..`, no `.`, nothing empty. -/
abbrev Place := List String

/-- The parts between slashes that count. -/
def partsOf (text : List Char) : List String :=
  ((splitAt '/' text).filter fun part => part != [] && part != ['.']).map String.ofList

namespace Path

/-- Reads a path. -/
def ofString (text : String) : Path where
  anchor :=
    match (text.toList.takeWhile (· == '/')).length with
    | 0 => .here
    | 2 => .doubleRoot
    | _ => .root
  parts := partsOf text.toList

/-- Writes a path; the empty one is `.`. -/
def toString (path : Path) : String :=
  match path.anchor, path.parts with
  | .here, [] => "."
  | anchor, parts => anchor.text ++ "/".intercalate parts

def isAbsolute (path : Path) : Bool := path.anchor != .here

/-- The second path seen from the first; an absolute one stands for itself. -/
def join (path next : Path) : Path :=
  if next.isAbsolute then next else { path with parts := path.parts ++ next.parts }

/-- The path of an entry below this one. -/
def below (path : Path) (parts : List String) : Path := { path with parts := path.parts ++ parts }

end Path

/-- Goes to a part: up for `..`, which stays at the root, and down otherwise. -/
def Place.descend (place : Place) (part : String) : Place :=
  if part = ".." then place.dropLast else place ++ [part]

/-- The place of a path seen from the current directory. -/
def Path.resolve (cwd : Place) (path : Path) : Place :=
  path.parts.foldl Place.descend (if path.isAbsolute then [] else cwd)

/-- The path of a place. -/
def Place.path (place : Place) : Path := ⟨.root, place⟩

/-- A place as text. -/
def Place.toString (place : Place) : String := place.path.toString

/-- Places in order: part by part, each by its characters. -/
def Place.le : (a b : List String) → Bool
  | [], _ => true
  | _ :: _, [] => false
  | a :: as, b :: bs => if a = b then Place.le as bs else decide (a < b)

end MolangAssist.Files
