import MolangAssist.Schema.Document

/-!
# Members of a struct type

A struct type offers its own members, then those of the function sets that its composition
lists, then the composition's own functions.  A name is taken from the first of these that
has it.
-/
namespace MolangAssist.Schema

open Text

namespace Document

/-- The members that a struct type draws on, the most specific first. -/
def sourcesFor (doc : Document) (structType : String) : List Members :=
  let own :=
    match Table.get? doc.structs structType with
    | some group => [group.members]
    | none => []
  let composed :=
    match Table.get? doc.compositions structType with
    | some composition =>
      (composition.registries.filterMap (Table.get? doc.functionSets)).map MemberGroup.members
        ++ [composition.customFunctions]
    | none => []
  own ++ composed

/-- All members of a struct type; none without a type. -/
def functionsFor (doc : Document) (structType : Option String) : Members :=
  match present? structType with
  | some type => Table.mergeRanked (doc.sourcesFor type)
  | none => []

/-- The members of a struct member with members of its own: those win over the members of the
type it refers to. -/
def inlineMembers (doc : Document) (inline : Members) (structType : Option String) : Members :=
  Table.mergeRanked [inline, doc.functionsFor structType]

/-- The roots of chains in a runtime.  Without a runtime all of them count together; then a name
stands where it was first declared, with its last declaration. -/
def queryVariables (doc : Document) (context : Option String) : Members :=
  match present? context with
  | some id => doc.runtimeQuery id
  | none => Table.overlay (doc.runtimes.flatMap fun entry => doc.runtimeQuery entry.1)

/-- The name of the struct that holds the mathematical functions. -/
def mathName : String := "math"

/-- The mathematical functions. -/
def mathFunctions (doc : Document) : Members :=
  match Table.get? doc.structs mathName with
  | some group => group.members
  | none => []

/-- The functions that every runtime offers beside its query variables. -/
def generalFunctions (doc : Document) : Members :=
  match Table.get? doc.functionSets "generalFunctions" with
  | some group => group.members
  | none => []

end Document

end MolangAssist.Schema
