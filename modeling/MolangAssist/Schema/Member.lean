import MolangAssist.Table
import MolangAssist.Text.Characters

/-!
# Members

A member is what a name in a dotted chain stands for: a plain value, where a chain ends, or a
struct, from which it goes on.  A struct member refers to a struct type by name, carries members
of its own, or both.
-/
namespace MolangAssist.Schema

open Text

/-- A parameter of a callable member. -/
structure Param where
  name : Option String := none
  type : Option String := none
  optional : Bool := false
  description : Option String := none
deriving Repr, DecidableEq

/-- The parameter as signatures show it. -/
def Param.label (p : Param) : String :=
  (present? p.name).getD "?"
    ++ (match present? p.type with
        | some type => ": " ++ type
        | none => "")
    ++ (if p.optional then "?" else "")

/-- What every member may declare about itself. -/
structure Notes where
  description : Option String := none
  source : Option String := none
  returns : Option String := none
  params : List Param := []
deriving Repr, DecidableEq

/-- The type tag of struct members. -/
def structTag : String := "Struct"

/-- A name's meaning within a chain. -/
inductive Member where
  | value (notes : Notes) (tag : Option String)
  | struct (notes : Notes) (structType : Option String) (inline : Option (List (String × Member)))
deriving Repr

namespace Member

def notes : Member → Notes
  | .value notes _ => notes
  | .struct notes _ _ => notes

/-- The declared type tag. -/
def tag : Member → Option String
  | .value _ tag => tag
  | .struct _ _ _ => some structTag

/-- The struct type that a struct member refers to. -/
def structType? : Member → Option String
  | .value _ _ => none
  | .struct _ structType _ => structType

def isStruct : Member → Bool
  | .value _ _ => false
  | .struct _ _ _ => true

/-- A member with parameters is called. -/
def isCallable (m : Member) : Bool := !m.notes.params.isEmpty

/-- The type shown for a member: what it returns, else its tag. -/
def displayType (m : Member) : String :=
  match present? m.notes.returns, present? m.tag with
  | some returns, _ => returns
  | none, some tag => tag
  | none, none => ""

/-- A struct member that neither refers to a type nor carries members leads nowhere. -/
def isDeadEnd : Member → Bool
  | .value _ _ => false
  | .struct _ structType inline => (present? structType).isNone && inline.isNone

/-- The labels of the parameters, separated by commas. -/
def paramSignature (m : Member) : String :=
  ", ".intercalate (m.notes.params.map Param.label)

end Member

/-- Members by name. -/
abbrev Members := Table Member

end MolangAssist.Schema
