import MolangAssist.Json.Token
import MolangAssist.Stack

/-!
# Reading JSON

A pushdown machine reads tokens from left to right.  Its stack holds the lists and objects that
are still open, the innermost first.  A key that is repeated within an object keeps its first
place and takes its last value.
-/
namespace MolangAssist.Json

/-- An open list or object with what it holds so far, the last item first. -/
inductive Frame where
  | items (done : List Value)
  | fields (done : List (String × Value)) (key : String)
deriving Repr

/-- What the reader waits for. -/
inductive State where
  | value (stack : List Frame)
  | firstItem (stack : List Frame)
  | firstKey (stack : List Frame)
  | nextKey (done : List (String × Value)) (stack : List Frame)
  | colon (done : List (String × Value)) (key : String) (stack : List Frame)
  | separator (read : Value) (stack : List Frame)
deriving Repr

namespace State

/-- Whether a value may come next. -/
def takesValue : State → Bool
  | .value _ => true
  | .firstItem _ => true
  | _ => false

/-- Starts a value with the token. -/
def beginValue (limits : Limits) (stack : List Frame) : Token → Except ReadError State
  | .atom v => .ok (.separator v stack)
  | .text s => .ok (.separator (.text s) stack)
  | .openList =>
    if stack.length < limits.depth then .ok (.firstItem stack) else .error .tooDeep
  | .openObject =>
    if stack.length < limits.depth then .ok (.firstKey stack) else .error .tooDeep
  | _ => .error .malformed

/-- Takes one token. -/
def feed (limits : Limits) : State → Token → Except ReadError State
  | .value stack, token => beginValue limits stack token
  | .firstItem stack, .closeList => .ok (.separator (.list []) stack)
  | .firstItem stack, token => beginValue limits (.items [] :: stack) token
  | .firstKey stack, .closeObject => .ok (.separator (.object []) stack)
  | .firstKey stack, .text key => .ok (.colon [] key stack)
  | .nextKey done stack, .text key => .ok (.colon done key stack)
  | .colon done key stack, .colon => .ok (.value (.fields done key :: stack))
  | .separator v (.items done :: stack), .comma => .ok (.value (.items (v :: done) :: stack))
  | .separator v (.items done :: stack), .closeList =>
    .ok (.separator (.list (v :: done).reverse) stack)
  | .separator v (.fields done key :: stack), .comma => .ok (.nextKey ((key, v) :: done) stack)
  | .separator v (.fields done key :: stack), .closeObject =>
    .ok (.separator (.object (Table.overlay ((key, v) :: done).reverse)) stack)
  | _, _ => .error .malformed

/-- The value read, once nothing is open. -/
def result : State → Except ReadError Value
  | .separator v [] => .ok v
  | _ => .error .malformed

end State

/-- Reads the rest of a text of which the first `skip` characters are taken already.  A faulty
number is reported as such only where a value may stand. -/
def readFrom (limits : Limits) : (state : State) → (skip : Nat) → List Char →
    Except ReadError Value
  | state, _, [] => state.result
  | state, skip + 1, _ :: cs => readFrom limits state skip cs
  | state, 0, c :: cs =>
    if isSpace c then readFrom limits state 0 cs
    else
      match token limits (c :: cs) with
      | .error cause => .error (if state.takesValue then cause else .malformed)
      | .ok (t, used) =>
        match state.feed limits t with
        | .error cause => .error cause
        | .ok next => readFrom limits next (used - 1) cs

/-- The JSON value that a text holds. -/
def read (limits : Limits) (text : String) : Except ReadError Value :=
  readFrom limits (.value []) 0 text.toList

/-- The JSON value in the text of a file.  Each list or object that is open takes a frame of the
stack. -/
def readFile (stack : Stack) (text : String) : Except ReadError Value :=
  if stack.frames < stack.reader then .error .tooDeep
  else read ⟨stack.frames - stack.reader, Text.maxDigits⟩ text

end MolangAssist.Json
