import MolangAssist.Assist.Markup
import MolangAssist.Schema.Resolution
import MolangAssist.Script.Annotation
import MolangAssist.Script.Declarations

/-!
# Completion

What may be typed at a position: runtime ids in an annotation, members behind a chain, names
that the script itself uses or declares, and elsewhere keywords and the words for spaces.
-/
namespace MolangAssist.Assist

open Schema Script Text

/-- What an item stands for, which editors show as an icon. -/
inductive ItemKind where
  | method
  | function
  | field
  | variable
  | struct
  | module
  | property
  | keyword
  | constant
deriving Repr, DecidableEq

/-- The number of a kind in the Language Server Protocol. -/
def ItemKind.code : ItemKind → Nat
  | .method => 2
  | .function => 3
  | .field => 5
  | .variable => 6
  | .struct => 7
  | .module => 9
  | .property => 10
  | .keyword => 14
  | .constant => 21

/-- One offer. -/
structure Item where
  label : String
  kind : ItemKind
  detail : Option String := none
  documentation : Option String := none
  sortText : Option String := none
  insertText : Option String := none
  /-- The inserted text has tab stops. -/
  isSnippet : Bool := false
  command : Option String := none
deriving Repr, DecidableEq

/-- The kind of a member by its type tag. -/
def kindOf (member : Member) : ItemKind :=
  match member.tag with
  | some "Number" => .field
  | some "String" => .variable
  | some "Struct" => .struct
  | some "Unit" => .method
  | some "Void" => .method
  | _ => .function

/-- A tab stop that shows a parameter's name. -/
def placeholder (index : Nat) (p : Param) : String :=
  "$\x7b" ++ toString index ++ ":" ++ (present? p.name).getD ("arg" ++ toString index) ++ "\x7d"

/-- The tab stops of some parameters, numbered from `index`. -/
def placeholders : (index : Nat) → List Param → List String
  | _, [] => []
  | index, p :: ps => placeholder index p :: placeholders (index + 1) ps

/-- A call of a member with a tab stop for each parameter. -/
def callSnippet (name : String) (params : List Param) : String :=
  name ++ "(" ++ ", ".intercalate (placeholders 1 params) ++ ")"

/-- The offer of a member; `rank` comes first in its sort key. -/
def memberItem (name : String) (member : Member) (rank : String) : Item where
  label := name
  kind := kindOf member
  detail := some (detail member)
  documentation := some (briefDoc name member)
  sortText := some (rank ++ name)
  insertText := if member.isCallable then some (callSnippet name member.notes.params) else none
  isSnippet := member.isCallable

def memberItems (members : Members) (rank : String) : List Item :=
  members.map fun entry => memberItem entry.1 entry.2 rank

/-- Keywords and the words for spaces. -/
def bareItems : List Item :=
  keywords.map (fun keyword =>
    { label := keyword, kind := .keyword, sortText := some ("0" ++ keyword) })
  ++ Space.all.map (fun space =>
    let word := String.ofList space.short
    { label := word, kind := .module, detail := some "prefix", insertText := some (word ++ "."),
      sortText := some ("1" ++ word), command := some "editor.action.triggerSuggest" })

/-- The runtime ids. -/
def runtimeItems (doc : Document) : List Item :=
  doc.runtimeNames.map fun name =>
    { label := name, kind := .constant, detail := some "runtime context",
      sortText := some ("0" ++ name) }

/-- The members behind a query chain.  At its start, structs come before values and those before
the general functions. -/
def queryItems (doc : Document) (names : List String) (runtime : Option String) : List Item :=
  match names with
  | [] =>
    (doc.queryVariables runtime).map (fun entry =>
      memberItem entry.1 entry.2 (if entry.2.isStruct then "0" else "1"))
    ++ memberItems doc.generalFunctions "2"
  | names =>
    match doc.resolve? runtime names with
    | some resolution => memberItems resolution.members "0"
    | none => []

/-- The names that the script uses behind a word, as items. -/
def usedItems (text : List Char) (space : Space) (kind : ItemKind) (detail : String) :
    List Item :=
  (usedNames text space.short).map fun name =>
    { label := String.ofList name, kind := kind, detail := some detail }

/-- The functions that the script declares. -/
def declaredItems (text : List Char) : List Item :=
  (declaredNames text).map fun name =>
    { label := String.ofList name, kind := .function, detail := some "fn()",
      insertText := some (String.ofList name ++ "($0)"), isSnippet := true }

/-- The names of a runtime's query variables. -/
def contextItems (doc : Document) (runtime : Option String) : List Item :=
  match present? runtime with
  | some id => (doc.runtimeQuery id).map fun entry =>
    { label := entry.1, kind := .property, detail := some "Context" }
  | none => []

/-- What may follow a chain. -/
def chainItems (doc : Document) (text : List Char) (chain : Chain) (runtime : Option String) :
    List Item :=
  match chain.space with
  | .query => queryItems doc (chain.names.map String.ofList) runtime
  | .math => if chain.names.isEmpty then memberItems doc.mathFunctions "0" else []
  | .temp => usedItems text .temp .variable "Temp"
  | .variable => usedItems text .variable .field "Variable"
  | .function => declaredItems text
  | .context => contextItems doc runtime

/-- The offers at a position of a script that runs in the given runtime; none without a
schema. -/
def complete (schema : Option Document) (text : List Char) (line column : Int)
    (runtime : Option String) : List Item :=
  match schema with
  | none => []
  | some doc =>
    let before := upTo column (lineAt text line)
    if typesAnnotation before then runtimeItems doc
    else
      match chainBefore? before with
      | none => bareItems
      | some chain => chainItems doc text chain runtime

end MolangAssist.Assist
