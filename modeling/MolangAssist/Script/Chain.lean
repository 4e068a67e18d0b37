import MolangAssist.Text.Lines

/-!
# Dotted chains in scripts

A chain starts with the word for one of six spaces of names, five of which have a short and a
long form.  Behind it come names, each after a dot.
-/
namespace MolangAssist.Script

open Text

/-- The spaces of names. -/
inductive Space where
  | query
  | variable
  | temp
  | function
  | context
  | math
deriving Repr, DecidableEq

namespace Space

/-- All spaces, in the order in which they are offered. -/
def all : List Space := [.query, .variable, .temp, .function, .context, .math]

/-- The short word for a space. -/
def short : Space → List Char
  | .query => ['q']
  | .variable => ['v']
  | .temp => ['t']
  | .function => ['f']
  | .context => ['c']
  | .math => ['m', 'a', 't', 'h']

/-- The long word for a space, if it has one. -/
def long? : Space → Option (List Char)
  | .query => some ['q', 'u', 'e', 'r', 'y']
  | .variable => some ['v', 'a', 'r', 'i', 'a', 'b', 'l', 'e']
  | .temp => some ['t', 'e', 'm', 'p']
  | .function => some ['f', 'u', 'n', 'c', 't', 'i', 'o', 'n']
  | .context => some ['c', 'o', 'n', 't', 'e', 'x', 't']
  | .math => none

/-- The space that a word stands for. -/
def ofWord? (word : List Char) : Option Space :=
  all.find? fun space => space.short == word || space.long? == some word

end Space

/-- The short form of a word for a space; any other word stays as it is. -/
def shortForm (word : List Char) : List Char :=
  match Space.all.find? (fun space => space.long? == some word) with
  | some space => space.short
  | none => word

/-- The words that stand for the same space as a short word, that word first. -/
def formsOf (word : List Char) : List (List Char) :=
  word :: Space.all.filterMap fun space => if space.short = word then space.long? else none

/-- A space and the names behind it. -/
structure Chain where
  space : Space
  names : List (List Char)
deriving Repr, DecidableEq

/-- Leaves out one line feed at the end. -/
def dropFinalNewline (s : List Char) : List Char :=
  if s.getLast? = some '\n' then s.dropLast else s

/-- A whole text as a space and at least one name. -/
def splitChain? (s : List Char) : Option Chain :=
  match splitAt '.' (dropFinalNewline s) with
  | word :: name :: names =>
    if (name :: names).all isName then (Space.ofWord? word).map (⟨·, name :: names⟩) else none
  | _ => none

/-- The chain that starts first among some pieces: a word for a space with nothing but names
behind it. -/
def firstChain? : List (List Char) → Option Chain
  | [] => none
  | word :: names =>
    match Space.ofWord? word with
    | none => firstChain? names
    | some space => if names.all isName then some ⟨space, names⟩ else firstChain? names

/-- The characters of a dotted text at the end of a text. -/
def dottedEnd (text : List Char) : List Char := (text.reverse.takeWhile isChainChar).reverse

/-- The chain typed right before the cursor, ending in a dot.  It starts at the beginning of the
text or behind a character that belongs to no word. -/
def chainBefore? (textBefore : List Char) : Option Chain :=
  let pieces := splitAt '.' (dottedEnd (dropFinalNewline textBefore))
  if pieces.getLast? = some [] then firstChain? pieces.dropLast else none

/-- The dotted text around an offset: back over words and dots, forward to the end of the word.
It counts only if it has a dot. -/
def chainAround? (text : List Char) (offset : Int) : Option (List Char) :=
  let place := clamp offset text.length
  let back := runBefore isChainChar text place
  let forward := ((text.drop place).takeWhile isWordChar).length
  let chain := (text.drop (place - back)).take (back + forward)
  if chain.contains '.' then some chain else none

end MolangAssist.Script
