import MolangAssist.Schema.Composition

/-!
# Resolving chains

A chain is walked from its root, one name at a time.  The root is a query variable or else a
struct type by name.  A walk remembers where it stands: the member reached, the struct type to
look names up in, and the members that the last member carries itself, which count for the
next name only.
-/
namespace MolangAssist.Schema

open Text

/-- What a chain leads to: its last member, unless the chain is a bare struct name, and the
members from there on. -/
structure Resolution where
  entry : Option Member
  members : Members
deriving Repr

/-- Where a walk along a chain stands. -/
inductive Walk where
  /-- At a value, where a chain ends. -/
  | atValue (member : Member)
  /-- At a struct. -/
  | atStruct (entry : Option Member) (structType : Option String) (staged : Option Members)
deriving Repr

namespace Walk

/-- Goes on to the member with the given name.  A struct member that leads nowhere is no
place to go. -/
def step (doc : Document) : Walk → String → Option Walk
  | .atValue _, _ => none
  | .atStruct _ structType staged, name =>
    match Table.get? (staged.getD (doc.functionsFor structType)) name with
    | none => none
    | some (.value notes tag) => some (.atValue (.value notes tag))
    | some (.struct notes structType inline) =>
      if (Member.struct notes structType inline).isDeadEnd then none
      else
        some (.atStruct (some (.struct notes structType inline)) structType
          (inline.map (doc.inlineMembers · structType)))

/-- Ends a walk. -/
def finish (doc : Document) : Walk → Resolution
  | .atValue member => ⟨some member, []⟩
  | .atStruct entry _ (some staged) => ⟨entry, staged⟩
  | .atStruct (some (.struct notes own (some inline))) _ none =>
    ⟨some (.struct notes own (some inline)), doc.inlineMembers inline own⟩
  | .atStruct entry structType none => ⟨entry, doc.functionsFor structType⟩

end Walk

namespace Document

/-- The start of a walk: a query variable of the runtime, else a struct type.  A struct variable
without a type is looked up under its own name. -/
def root? (doc : Document) (context : Option String) (name : String) : Option Walk :=
  match Table.get? (doc.queryVariables context) name with
  | some (.value notes tag) => some (.atValue (.value notes tag))
  | some (.struct notes structType inline) =>
    some (.atStruct (some (.struct notes structType inline))
      (some ((present? structType).getD name)) none)
  | none =>
    match Table.get? doc.structs name with
    | some _ => some (.atStruct none (some name) none)
    | none => none

/-- Resolves a chain of names in a runtime, or in all of them when none is given. -/
def resolve? (doc : Document) (context : Option String) : List String → Option Resolution
  | [] => none
  | root :: names => do
    let start ← doc.root? context root
    let reached ← names.foldlM (Walk.step doc) start
    some (reached.finish doc)

/-- The member that a whole chain names, for documentation.  The mathematical functions as such
have none. -/
def member? (doc : Document) (context : Option String) (path : List String) : Option Member :=
  match path with
  | [] => none
  | [name] =>
    if name = mathName then none else Table.get? (doc.queryVariables context) name
  | path =>
    match doc.resolve? context path.dropLast, path.getLast? with
    | some resolution, some name => Table.get? resolution.members name
    | _, _ => none

end Document

end MolangAssist.Schema
