import MolangAssist.Table

/-!
# JSON values

Objects keep the order of their keys.  Numbers without fraction and exponent are exact integers;
all others are kept as they were written, since nothing here computes with them.
-/
namespace MolangAssist.Json

/-- A JSON value. -/
inductive Value where
  | null
  | bool (b : Bool)
  | int (n : Int)
  | real (literal : String)
  | text (s : String)
  | list (items : List Value)
  | object (fields : List (String × Value))
deriving Repr, Inhabited

namespace Value

/-- The value under a key, if this is an object that has the key. -/
def get? : Value → String → Option Value
  | .object fields, key => Table.get? fields key
  | _, _ => none

/-- A text, if this is one. -/
def text? : Value → Option String
  | .text s => some s
  | _ => none

/-- The kind of a value as error messages name it. -/
def kindName : Value → String
  | .null => "NoneType"
  | .bool _ => "bool"
  | .int _ => "int"
  | .real _ => "float"
  | .text _ => "str"
  | .list _ => "list"
  | .object _ => "object"

end Value

end MolangAssist.Json
