import MolangAssist.Assist.Markup
import MolangAssist.Schema.Resolution
import MolangAssist.Script.Chain

/-!
# Hover

The documentation of what stands at a position: the member that a chain names, or a keyword.
-/
namespace MolangAssist.Assist

open Schema Script Text

/-- The documentation of the member that a chain names. -/
def chainDoc? (doc : Document) (chain : Chain) (runtime : Option String) : Option String :=
  let names := chain.names.map String.ofList
  match chain.space with
  | .math =>
    match names with
    | name :: _ => (Table.get? doc.mathFunctions name).map (fullDoc ("math." ++ name))
    | [] => none
  | .query => (doc.member? runtime names).map (fullDoc ("q." ++ ".".intercalate names))
  | _ => none

/-- The Markdown to show at a position; nothing without a schema. -/
def hover? (schema : Option Document) (text : List Char) (line column : Int)
    (runtime : Option String) : Except PositionError (Option String) :=
  match schema with
  | none => .ok none
  | some doc =>
    match offsetAt text line column with
    | .error cause => .error cause
    | .ok offset =>
      match chainAround? text offset with
      | none =>
        .ok (Table.get? keywordDocs (String.ofList (wordAt (lineAt text line) column)))
      | some chain =>
        match splitChain? chain with
        | some chain => .ok (chainDoc? doc chain runtime)
        | none => .ok none

end MolangAssist.Assist
