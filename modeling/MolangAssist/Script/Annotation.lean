import MolangAssist.Text.Lines

/-!
# Context annotations

A comment `// @context id` near the top of a script names the runtime that runs it.
-/
namespace MolangAssist.Script

open Text

/-- The text behind the opening of an annotation and the blanks after it. -/
def annotationOpening? (s : List Char) : Option (List Char) := do
  let s ← after? ['/', '/'] s
  let s ← after? ['@', 'c', 'o', 'n', 't', 'e', 'x', 't'] (skipBlanks s)
  skipSomeBlanks? s

/-- An annotation and the id that it names. -/
def annotation : Recogniser (List Char) := fun _ s => do
  let s ← annotationOpening? s
  match s.takeWhile (fun c => !isBlank c) with
  | [] => none
  | id => some (id, s.dropWhile (fun c => !isBlank c))

/-- An annotation whose id is still being typed at the end of the text. -/
def openAnnotation : Recogniser Unit := fun _ s => do
  let s ← annotationOpening? s
  if s.any isBlank then none else some ((), [])

/-- The number of lines at the top of a script where annotations count. -/
def annotatedLines : Nat := 10

/-- The ids named near the top of a script: the first one of each line. -/
def annotations (text : List Char) : List (List Char) :=
  ((lines text).take annotatedLines).filterMap fun line =>
    (firstHit? annotation (trim line)).map Hit.value

/-- Whether an id is being typed at the end of a line. -/
def typesAnnotation (lineBefore : List Char) : Bool :=
  (firstHit? openAnnotation lineBefore).isSome

end MolangAssist.Script
