import MolangAssist.Proofs.Schema.WellFormed

/-!
# Shapes of JSON values

What may stand where in a schema document is a table: the keys of each kind of record, and the
shape of the value under each key. `clean?` removes from a value whatever the table does not
provide for, at the smallest place.
-/
namespace MolangAssist.Schema

open Json (Value)

/-- The kinds of objects with fixed keys. -/
inductive RecordKind where
  | document
  | group
  | runtime
  | composition
  | member
  | param
deriving Repr, DecidableEq

inductive Shape where
  | text
  /-- A text that is not empty. -/
  | reference
  /-- A truth value that is true. -/
  | yes
  | list (item : Shape)
  /-- An object with arbitrary keys. -/
  | map (entry : Shape)
  /-- An object with the keys of a record. -/
  | record (kind : RecordKind)
deriving Repr, DecidableEq

/-- The keys of a record and the shapes behind them. What a member refers to and what it carries
belong to structs only, which its type tells. -/
def RecordKind.shapes (fields : List (String × Value)) : RecordKind → Table Shape
  | .document =>
    [("structs", .map (.record .group)), ("function_sets", .map (.record .group)),
      ("runtimes", .map (.record .runtime)), ("structCompositions", .map (.record .composition))]
  | .group => [("functions", .map (.record .member)), ("description", .text)]
  | .runtime =>
    [("query", .map (.record .member)), ("description", .text), ("category", .text)]
  | .composition =>
    [("registries", .list .text), ("custom_functions", .map (.record .member)),
      ("description", .text)]
  | .member =>
    [("type", .text), ("description", .text), ("source", .text), ("returns", .text),
      ("params", .list (.record .param))] ++
    if textField fields "type" = some structTag then
      [("struct_type", .reference), ("functions", .map (.record .member))]
    else []
  | .param => [("name", .text), ("type", .text), ("optional", .yes), ("description", .text)]

mutual

/-- A value without its parts of a wrong shape; nothing if the value itself has one. -/
def clean? : Shape → Value → Option Value
  | .text, .text s => some (.text s)
  | .reference, .text s => if s = "" then none else some (.text s)
  | .yes, .bool b => if b then some (.bool b) else none
  | .list item, .list items => some (.list (cleanItems item items))
  | .map entry, .object fields => some (.object (cleanFields (fun _ => some entry) fields))
  | .record kind, .object fields =>
    some (.object (cleanFields (Table.get? (kind.shapes fields)) fields))
  | _, _ => none
termination_by structural _ v => v

def cleanItems (item : Shape) : List Value → List Value
  | [] => []
  | v :: rest =>
    match clean? item v with
    | some kept => kept :: cleanItems item rest
    | none => cleanItems item rest
termination_by structural items => items

/-- The entries of an object, each in the shape for its key; a key without a shape is dropped. -/
def cleanFields (shapeAt : String → Option Shape) : List (String × Value) → List (String × Value)
  | [] => []
  | (key, v) :: rest =>
    match (shapeAt key).bind fun shape => clean? shape v with
    | some kept => (key, kept) :: cleanFields shapeAt rest
    | none => cleanFields shapeAt rest
termination_by structural fields => fields

end

/-- The entries of a record in good shape. -/
def cleanRecord (kind : RecordKind) (fields : List (String × Value)) : List (String × Value) :=
  cleanFields (Table.get? (kind.shapes fields)) fields

theorem cleanItems_eq (item : Shape) (items : List Value) :
    cleanItems item items = items.filterMap (clean? item) := by
  induction items with
  | nil => rfl
  | cons v rest ih =>
    rw [cleanItems]
    cases hv : clean? item v <;> simp [hv, ih]

theorem cleanFields_eq (shapeAt : String → Option Shape) (fields : List (String × Value)) :
    cleanFields shapeAt fields = fields.filterMap fun field =>
      ((shapeAt field.1).bind (clean? · field.2)).map (Prod.mk field.1) := by
  induction fields with
  | nil => rfl
  | cons field rest ih =>
    rw [cleanFields, List.filterMap_cons]
    cases (shapeAt field.1).bind (clean? · field.2) with
    | none => exact ih
    | some kept => exact congrArg ((field.1, kept) :: ·) ih

theorem get?_cleanFields {fields : List (String × Value)} (hfields : Table.Distinct fields)
    (shapeAt : String → Option Shape) (key : String) :
    Table.get? (cleanFields shapeAt fields) key =
      (Table.get? fields key).bind fun v => (shapeAt key).bind (clean? · v) := by
  rw [cleanFields_eq]
  exact hfields.get?_filterMap (fun key v => (shapeAt key).bind (clean? · v)) key

/-- Whatever `read` takes from a value in good shape it takes from the raw one, if that holds of
the value under the key. -/
theorem bind_get?_cleanFields {β : Type} {fields : List (String × Value)}
    (hfields : Table.Distinct fields) {shapeAt : String → Option Shape} {key : String}
    {shape : Shape} (hshape : shapeAt key = some shape) {read : Value → Option β}
    (hread : ∀ v, Table.get? fields key = some v → (clean? shape v).bind read = read v) :
    (Table.get? (cleanFields shapeAt fields) key).bind read =
      (Table.get? fields key).bind read := by
  rw [get?_cleanFields hfields]
  cases hv : Table.get? fields key with
  | none => rfl
  | some v => simpa [hshape] using hread v hv

end MolangAssist.Schema
