import MolangAssist.Json.Value
import MolangAssist.Schema.Document
import MolangAssist.Stack

/-!
# Schema documents from JSON

Only the root has to be an object.  Everything of a wrong shape below it is left out at the
smallest possible place, and its neighbours are kept.  The calls that read a document are nested
as its members are, so the stack may not be enough for it.
-/
namespace MolangAssist.Schema

open Text
open Json (Value)

/-- Why a JSON value is no schema document. -/
inductive DecodeError where
  | rootNotObject (kind : String)
  /-- Members are nested too deeply. -/
  | tooDeep
deriving Repr, DecidableEq

def DecodeError.message : DecodeError → String
  | .rootNotObject kind => "schema root must be an object, got " ++ kind
  | .tooDeep => "<recursion error>"

/-- The text under a key, if there is one. -/
def textField (fields : List (String × Value)) (key : String) : Option String :=
  (Table.get? fields key).bind Value.text?

/-- The entries of an object whose values are objects themselves, in order. -/
def objectEntries : Option Value → List (String × List (String × Value))
  | some (.object fields) => fields.filterMap fun
    | (name, .object inner) => some (name, inner)
    | _ => none
  | _ => []

def Param.ofFields (fields : List (String × Value)) : Param where
  name := textField fields "name"
  type := textField fields "type"
  optional :=
    match Table.get? fields "optional" with
    | some (.bool b) => b
    | _ => false
  description := textField fields "description"

/-- The parameters in a `params` list. -/
def paramsOf : Option Value → List Param
  | some (.list items) => items.filterMap fun
    | .object fields => some (Param.ofFields fields)
    | _ => none
  | _ => []

def Notes.ofFields (fields : List (String × Value)) : Notes where
  description := textField fields "description"
  source := textField fields "source"
  returns := textField fields "returns"
  params := paramsOf (Table.get? fields "params")

mutual

/-- The member that an object declares. -/
def decodeMember? : Value → Option Member
  | .object fields =>
    if textField fields "type" = some structTag then
      some (.struct (Notes.ofFields fields) (present? (textField fields "struct_type"))
        (decodeInline? fields))
    else some (.value (Notes.ofFields fields) (textField fields "type"))
  | _ => none
termination_by structural v => v

/-- The members under the key `functions`, if an object stands there. -/
def decodeInline? : List (String × Value) → Option Members
  | [] => none
  | (key, v) :: rest => if key = "functions" then decodeMap? v else decodeInline? rest
termination_by structural fields => fields

/-- The members that the entries of an object declare. -/
def decodeMap? : Value → Option Members
  | .object fields => some (decodeMembers fields)
  | _ => none
termination_by structural v => v

/-- The members among some entries; entries that are no objects are left out. -/
def decodeMembers : List (String × Value) → Members
  | [] => []
  | (name, v) :: rest =>
    match decodeMember? v with
    | some member => (name, member) :: decodeMembers rest
    | none => decodeMembers rest
termination_by structural fields => fields

end

/-- The members under a key, none if no object stands there. -/
def membersField (fields : List (String × Value)) (key : String) : Members :=
  ((Table.get? fields key).bind decodeMap?).getD []

def MemberGroup.ofFields (fields : List (String × Value)) : MemberGroup where
  members := membersField fields "functions"
  description := textField fields "description"

def Runtime.ofFields (fields : List (String × Value)) : Runtime where
  query := membersField fields "query"
  description := textField fields "description"
  category := textField fields "category"

def Composition.ofFields (fields : List (String × Value)) : Composition where
  registries :=
    match Table.get? fields "registries" with
    | some (.list items) => items.filterMap Value.text?
    | _ => []
  customFunctions := membersField fields "custom_functions"
  description := textField fields "description"

/-- The definitions under a key, each read by `read`. -/
def definitions {α : Type} (fields : List (String × Value)) (key : String)
    (read : List (String × Value) → α) : Table α :=
  (objectEntries (Table.get? fields key)).map fun entry => (entry.1, read entry.2)

/-- The schema document that the fields of a root declare. -/
def Document.ofFields (fields : List (String × Value)) : Document where
  structs := definitions fields "structs" MemberGroup.ofFields
  functionSets := definitions fields "function_sets" MemberGroup.ofFields
  runtimes := definitions fields "runtimes" Runtime.ofFields
  compositions := definitions fields "structCompositions" Composition.ofFields

/-! ## Nested calls -/

/-- The calls below that of a member for what it declares about itself. -/
def Notes.calls (stack : Stack) (notes : Notes) : Nat :=
  stack.leaf + (if notes.params.isEmpty then 0 else 1)

mutual

/-- The calls that are nested to read a member. -/
def Member.calls (stack : Stack) : Member → Nat
  | .value notes _ => 1 + notes.calls stack
  | .struct notes _ inline => 1 + max (notes.calls stack) (inlineCalls stack inline)
termination_by structural m => m

def inlineCalls (stack : Stack) : Option (List (String × Member)) → Nat
  | none => 0
  | some members => 2 + membersCalls stack members
termination_by structural inline => inline

/-- The most calls that are nested to read one of some members. -/
def membersCalls (stack : Stack) : List (String × Member) → Nat
  | [] => 0
  | (_, m) :: rest => max (Member.calls stack m) (membersCalls stack rest)
termination_by structural members => members

end

/-- The calls that are nested to read a definition with some members. -/
def definitionCalls (stack : Stack) (members : Members) : Nat :=
  1 + max stack.leaf (2 + membersCalls stack members)

/-- The most calls that are nested to read one of some definitions. -/
def tableCalls {α : Type} (stack : Stack) (members : α → Members) : Table α → Nat
  | [] => 0
  | (_, a) :: rest => max (definitionCalls stack (members a)) (tableCalls stack members rest)

/-- The calls that are nested to read a document. -/
def Document.calls (stack : Stack) (doc : Document) : Nat :=
  1 + max stack.leaf (1 +
    max (max (tableCalls stack MemberGroup.members doc.structs)
        (tableCalls stack MemberGroup.members doc.functionSets))
      (max (tableCalls stack Runtime.query doc.runtimes)
        (tableCalls stack Composition.customFunctions doc.compositions)))

/-- The schema document that a JSON value declares, if the stack is enough to read it. -/
def Document.ofJson (stack : Stack) : Value → Except DecodeError Document
  | .object fields =>
    let doc := Document.ofFields fields
    if stack.frames < doc.calls stack then .error .tooDeep else .ok doc
  | other => .error (.rootNotObject other.kindName)

end MolangAssist.Schema
