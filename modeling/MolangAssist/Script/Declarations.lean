import MolangAssist.Script.Chain

/-!
# Declarations and uses in scripts

Scripts declare functions as `fn('name', …)`, import other scripts as `import('space:path')` and
use names behind the word for a space.
-/
namespace MolangAssist.Script

open Text

/-- The opening of a declaration up to its quote. -/
def declarationOpening? (s : List Char) : Option (List Char) := do
  let s ← after? ['f', 'n'] s
  let s ← after? ['('] (skipBlanks s)
  after? ['\''] (skipBlanks s)

/-- A declaration, read up to the quote behind its name. -/
def declaration : Recogniser (List Char) := fun _ s => do
  let s ← declarationOpening? s
  quoteBody? s

/-- A declaration of the given name. -/
def declarationOf (name : List Char) : Recogniser Unit := fun _ s => do
  let s ← declarationOpening? s
  let s ← after? (name ++ ['\'']) s
  some ((), s)

/-- The names declared in a text, each listed where it is first declared. -/
def declaredNames (text : List Char) : List (List Char) :=
  firstOccurrences ((scan declaration text).map Hit.value)

/-- The offsets at which a name is declared. -/
def declarationOffsets (text name : List Char) : List Nat :=
  (scan (declarationOf name) text).map Hit.start

/-- A name behind one of the words and a dot, where no word character stands before. -/
def use (forms : List (List Char)) : Recogniser (List Char) := fun before s =>
  if before.any isWordChar then none
  else forms.findSome? fun form => do
    let s ← after? (form ++ ['.']) s
    name? s

/-- The names used behind a word or the long form of its space, each listed where it is first
used. -/
def usedNames (text word : List Char) : List (List Char) :=
  firstOccurrences ((scan (use (formsOf word)) text).map Hit.value)

/-- The call of a declared function that a column of a line touches. -/
def callAt? (line : List Char) (column : Int) : Option (List Char) :=
  ((scan (use (formsOf Space.function.short)) line).find? fun hit =>
    (hit.start : Int) ≤ column && column ≤ hit.stop).map Hit.value

/-- An import with its quoted text. -/
def importCall : Recogniser (List Char) := fun _ s => do
  let s ← after? ['i', 'm', 'p', 'o', 'r', 't'] s
  let s ← after? ['('] (skipBlanks s)
  let s ← after? ['\''] (skipBlanks s)
  let (quoted, s) ← quoteBody? s
  let s ← after? [')'] (skipBlanks s)
  some (quoted, s)

/-- The first import of a line, if a column touches it. -/
def importAt? (line : List Char) (column : Int) : Option (List Char) :=
  match firstHit? importCall line with
  | some hit =>
    if (hit.start : Int) ≤ column ∧ column ≤ hit.stop then some hit.value else none
  | none => none

end MolangAssist.Script
