import MolangAssist.Files.Tree
import MolangAssist.Stack

/-!
# Name patterns

In a pattern `*` stands for any text, `?` for any character and a set in brackets for one of its
characters.  A set starting with `!` stands for all others; it may hold ranges, and a bracket
right at its start belongs to it.  A bracket without partner stands for itself.
-/
namespace MolangAssist.Files

/-- One item of a set. -/
inductive SetItem where
  | single (c : Char)
  | range (first last : Char)
deriving Repr, DecidableEq

def SetItem.accepts : SetItem → Char → Bool
  | .single d, c => c == d
  | .range first last, c => first ≤ c && c ≤ last

/-- One element of a pattern. -/
inductive Piece where
  | exactly (c : Char)
  | anyOne
  | anyText
  | oneOf (negated : Bool) (items : List SetItem)
deriving Repr, DecidableEq

/-- The items of a set; ranges that run downwards are empty and left out. -/
def itemsOf : List Char → List SetItem
  | [] => []
  | a :: '-' :: b :: rest => if a ≤ b then .range a b :: itemsOf rest else itemsOf rest
  | a :: rest => .single a :: itemsOf rest

/-- The set whose body stands between brackets.  An exclamation mark negates it, also when it
comes first only because empty ranges before it were left out.  If it was the start of a range
there, the dash and the end of the range stand for themselves. -/
def setOf : List Char → Piece
  | '!' :: body => .oneOf true (itemsOf body)
  | body =>
    match itemsOf body with
    | .single '!' :: items => .oneOf true items
    | .range '!' last :: items => .oneOf true (.single '-' :: .single last :: items)
    | items => .oneOf false items

/-- The body of a set whose opening bracket was just read. -/
def setBody? (s : List Char) : Option (List Char) :=
  let (mark, rest) :=
    match s with
    | '!' :: rest => (['!'], rest)
    | rest => ([], rest)
  let (first, rest) :=
    match rest with
    | ']' :: rest => ([']'], rest)
    | rest => ([], rest)
  if rest.contains ']' then some (mark ++ first ++ rest.takeWhile (· != ']')) else none

/-- The elements of a pattern of which the first `skip` characters are read already. -/
def piecesFrom : (skip : Nat) → List Char → List Piece
  | _, [] => []
  | skip + 1, _ :: cs => piecesFrom skip cs
  | 0, c :: cs =>
    match c with
    | '*' => .anyText :: piecesFrom 0 cs
    | '?' => .anyOne :: piecesFrom 0 cs
    | '[' =>
      match setBody? cs with
      | some body => setOf body :: piecesFrom (body.length + 1) cs
      | none => .exactly '[' :: piecesFrom 0 cs
    | c => .exactly c :: piecesFrom 0 cs

/-- Whether one character fits an element. -/
def Piece.accepts : Piece → Char → Bool
  | .exactly d, c => c == d
  | .anyOne, _ => true
  | .anyText, _ => true
  | .oneOf negated items, c => items.any (·.accepts c) != negated

/-- For each end of a text, whether one of its own ends is marked. -/
def markLonger : List Bool → List Bool
  | [] => []
  | mark :: marks =>
    let longer := markLonger marks
    (mark || longer.headD false) :: longer

/-- For each end of a text, whether an accepted character comes first and a marked end behind
it. -/
def markBefore (piece : Piece) : List Char → List Bool → List Bool
  | c :: cs, _ :: mark :: marks => (piece.accepts c && mark) :: markBefore piece cs (mark :: marks)
  | _, _ => [false]

/-- For each end of a text, from the whole text to the empty one, whether it fits a pattern. -/
def fittingEnds (text : List Char) : List Piece → List Bool
  | [] => text.map (fun _ => false) ++ [true]
  | .anyText :: pieces => markLonger (fittingEnds text pieces)
  | piece :: pieces => markBefore piece text (fittingEnds text pieces)

/-- Whether a whole text fits a pattern. -/
def fits (pieces : List Piece) (text : List Char) : Bool := (fittingEnds text pieces).headD false

/-- Why a search for a pattern fails. -/
inductive SearchError where
  /-- Two stars in a row are no pattern for one name. -/
  | doubleStar
  | access (path : String) (cause : AccessError)
  /-- Directories are nested too deeply. -/
  | tooDeep
deriving Repr, DecidableEq

def SearchError.message : SearchError → String
  | .doubleStar => "Invalid pattern: '**' can only be an entire path component"
  | .access path cause => cause.message path
  | .tooDeep => "<recursion error>"

/-- Whether two stars stand next to each other. -/
def hasDoubleStar (pattern : List Char) : Bool := Text.occursIn ['*', '*'] pattern

/-- Whether a pattern stands for itself only. -/
def isPlain (pattern : List Char) : Bool := pattern.all fun c => c != '*' && c != '?' && c != '['

/-- What a search looks up in each directory: a name, if the pattern is one, and else all that is
there.  A NUL character is in no name. -/
def nameOf (pattern : String) : List String :=
  if isPlain pattern.toList && !pattern.toList.contains (Char.ofNat 0) then [pattern] else []

/-- The files and directories below a root, at any depth, whose names fit a pattern, in order.
A root that is no directory has none.  The search goes through all directories, and it fails if
a path that it looks up is too long or if they are nested too deeply for the stack. -/
def Tree.search (tree : Tree) (stack : Stack) (cwd : Place) (root : Path) (pattern : String) :
    Except SearchError (List (List String)) :=
  if hasDoubleStar pattern.toList then .error .doubleStar
  else
    match tree.probe cwd root.toString with
    | .error cause => .error (.access root.toString cause)
    | .ok (some (place, .directory)) =>
      let lookUps := (tree.directories place).map fun parts => root.below (parts ++ nameOf pattern)
      match lookUps.find? fun path => decide path.TooLong with
      | some path => .error (.access path.toString .nameTooLong)
      | none =>
        if (tree.directories place).any fun parts => stack.frames < stack.search + parts.length then
          .error .tooDeep
        else
          let pieces := piecesFrom 0 pattern.toList
          let found := (tree.below place).filter fun parts =>
            match parts.getLast? with
            | some name => fits pieces name.toList
            | none => false
          .ok (found.mergeSort Place.le)
    | .ok _ => .ok []

end MolangAssist.Files
