/-!
# The stack of the interpreter

Every call takes a frame of the stack, and a call for which none is left fails.  So a walk over
nested values fails if they are nested too deeply.  The calls that a walk nests are counted where
it is defined; beside them there are those that the library nests by itself.
-/
namespace MolangAssist

/-- How much of the stack is left, and what the library takes of it. -/
structure Stack where
  /-- The calls that may be nested where a file is loaded or a search starts. -/
  frames : Nat
  /-- The calls that the JSON reader nests beside one for each open list or object. -/
  reader : Nat
  /-- The calls that the library nests within a call that goes no further down. -/
  leaf : Nat
  /-- The calls that a search nests beside one for each directory on its way down. -/
  search : Nat
deriving Repr, DecidableEq

/-- What is left of the usual stack of 1000 frames when the program comes to load a file. -/
def Stack.usual : Stack := ⟨990, 4, 3, 9⟩

end MolangAssist
