import MolangAssist.Schema.Member

/-!
# Schema documents

A schema document declares struct types, sets of functions, runtimes with their query variables,
and compositions, which say what function sets a struct type draws on.
-/
namespace MolangAssist.Schema

/-- A struct type or a set of functions. -/
structure MemberGroup where
  members : Members := []
  description : Option String := none
deriving Repr

/-- A runtime offers its query variables as the roots of chains. -/
structure Runtime where
  query : Members := []
  description : Option String := none
  category : Option String := none
deriving Repr

/-- What a struct type offers beside its own members. -/
structure Composition where
  registries : List String := []
  customFunctions : Members := []
  description : Option String := none
deriving Repr

/-- A whole schema. -/
structure Document where
  structs : Table MemberGroup := []
  functionSets : Table MemberGroup := []
  runtimes : Table Runtime := []
  compositions : Table Composition := []
deriving Repr, Inhabited

namespace Document

/-- The ids of the runtimes in declaration order. -/
def runtimeNames (doc : Document) : List String := Table.names doc.runtimes

/-- The query variables of a runtime, none when the runtime is unknown. -/
def runtimeQuery (doc : Document) (context : String) : Members :=
  match Table.get? doc.runtimes context with
  | some runtime => runtime.query
  | none => []

end Document

end MolangAssist.Schema
