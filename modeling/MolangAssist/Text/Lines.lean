import MolangAssist.Text.Scan

/-!
# Lines, offsets and positions

Lines end at line feeds and nowhere else.  Columns and offsets count characters.  Line numbers
and columns come from editors and may be any integer: a negative bound of a cut and a negative
line number count back from the end.
-/
namespace MolangAssist.Text

/-- The lines of a text; there is always one. -/
def lines (text : List Char) : List (List Char) := splitAt '\n' text

/-- The items before `stop`; a negative `stop` leaves out that many at the end. -/
def upTo {α : Type} (stop : Int) (items : List α) : List α :=
  if 0 ≤ stop then items.take stop.toNat else items.take (items.length - (-stop).toNat)

/-- Forces a column or offset into the range from zero to `size`. -/
def clamp (place : Int) (size : Nat) : Nat := min place.toNat size

/-- The line with the given number, empty when there is none. -/
def lineAt (text : List Char) (line : Int) : List Char :=
  if 0 ≤ line then ((lines text)[line.toNat]?).getD [] else []

/-- A line number so far below zero that counting back from the end passes the first line, or
that it is no machine integer any more. -/
inductive PositionError where
  | noSuchLine
  | outOfMachineRange
deriving Repr, DecidableEq

def PositionError.message : PositionError → String
  | .noSuchLine => "list index out of range"
  | .outOfMachineRange => "cannot fit 'int' into an index-sized integer"

/-- The least machine integer. -/
def minMachineInt : Int := Int64.minValue.toInt

/-- How many characters some lines take with the line feed behind each. -/
def extent : List (List Char) → Nat
  | [] => 0
  | line :: rest => line.length + 1 + extent rest

/-- The offset of a position.  Lines behind the last one lie at the end of the text, and
columns are forced into their line. -/
def offsetAt (text : List Char) (line column : Int) : Except PositionError Nat :=
  let all := lines text
  if (all.length : Int) ≤ line then .ok text.length
  else
    let index := if 0 ≤ line then line else line + all.length
    if line < minMachineInt then .error .outOfMachineRange
    else if index < 0 then .error .noSuchLine
    else
      .ok (extent (upTo line all) + clamp column ((all[index.toNat]?).getD []).length)

/-- The line and column of an offset: how many line feeds stand before it, and its distance
from the last of them. -/
def positionAt (text : List Char) (offset : Int) : Nat × Int :=
  let before := upTo offset text
  let lastLine := (before.reverse.takeWhile (· != '\n')).length
  (before.count '\n', offset - ((before.length - lastLine : Nat) : Int))

/-- The number of characters satisfying `p` right before `column`. -/
def runBefore (p : Char → Bool) (text : List Char) (column : Nat) : Nat :=
  ((text.take column).reverse.takeWhile p).length

/-- The word that a column of a line touches. -/
def wordAt (line : List Char) (column : Int) : List Char :=
  let place := clamp column line.length
  (line.drop (place - runBefore isWordChar line place)).takeWhile isWordChar

end MolangAssist.Text
