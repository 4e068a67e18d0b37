import MolangAssist.Schema.Member

/-!
# Documentation texts

Members and keywords are documented in Markdown.
-/
namespace MolangAssist.Assist

open Schema Text

/-- What each keyword is good for. -/
def keywordDocs : Table String := [
  ("fn", "`fn('name', (params) -> \x7b body \x7d)`"
    ++ "\n\nDefines a named function that can be called with `f.name()`."),
  ("if", "`if (condition) \x7b then \x7d else \x7b otherwise \x7d`"
    ++ "\n\nConditional execution. Returns the value of the executed branch."),
  ("else", "Part of an `if/else` statement."),
  ("switch",
    "`switch(value, case1, \x7b result1 \x7d, case2, \x7b result2 \x7d, \x7b default \x7d)`"
      ++ "\n\nPattern matching on a value."),
  ("while", "`while(condition, \x7b body \x7d)`"
    ++ "\n\nLoop that executes body while condition is truthy."),
  ("struct", "`struct()`\n\nCreates a structured data object."),
  ("import", "`import('namespace:path')`"
    ++ "\n\nImports a MoLang script from `data/\x7bnamespace\x7d/molang/\x7bpath\x7d.molang`."),
  ("return", "Returns a value from the current function or script."),
  ("break", "Breaks out of the current loop."),
  ("continue", "Skips to the next iteration of the current loop."),
  ("for", "`for (init; condition; step) \x7b body \x7d`"
    ++ "\n\nLoop with initialization, condition, and step."),
  ("default", "Default case in a switch statement.")]

/-- All keywords, those without documentation last. -/
def keywords : List String := Table.names keywordDocs ++ ["true", "false"]

/-- A member's name, parameters and type; `unknown` stands for a type that is not known. -/
def signature (name : String) (member : Member) (unknown : String) : String :=
  let returns := if member.displayType = "" then unknown else member.displayType
  let params := if member.isCallable then "(" ++ member.paramSignature ++ ")" else ""
  name ++ params ++ " → " ++ returns

/-- The type of a member and, in parentheses, the struct type it refers to. -/
def detail (member : Member) : String :=
  match present? member.structType? with
  | some structType => member.displayType ++ " (" ++ structType ++ ")"
  | none => member.displayType

/-- One line of a parameter list. -/
def paramLine (p : Param) : String :=
  "- `" ++ (present? p.name).getD "?" ++ "`: " ++ p.type.getD ""
    ++ (if p.optional then " *(optional)*" else "")
    ++ (match present? p.description with
        | some description => " - " ++ description
        | none => "")

/-- A signature set as code. -/
def codeBlock (signature : String) : String := "```molang\n" ++ signature ++ "\n```"

/-- The description and source of a member, as paragraphs. -/
def noteParagraphs (member : Member) : List String :=
  (present? member.notes.description).toList
    ++ ((present? member.notes.source).map fun source => "*Source: " ++ source ++ "*").toList

/-- The struct type and the parameters of a member, as paragraphs. -/
def detailParagraphs (member : Member) : List String :=
  ((present? member.structType?).map fun type => "*Struct type: `" ++ type ++ "`*").toList
    ++ (if member.isCallable then
          ["\n".intercalate ("**Parameters:**" :: "" :: member.notes.params.map paramLine)]
        else [])

/-- Documentation of a member in a list: signature, description and source. -/
def briefDoc (name : String) (member : Member) : String :=
  "\n\n".intercalate (codeBlock (signature name member "") :: noteParagraphs member)

/-- Documentation of a member on its own, which adds the struct type and every parameter. -/
def fullDoc (name : String) (member : Member) : String :=
  "\n\n".intercalate (codeBlock (signature name member "Unknown") ::
    (noteParagraphs member ++ detailParagraphs member))

end MolangAssist.Assist
