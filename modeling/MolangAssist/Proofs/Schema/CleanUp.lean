import Mathlib.Data.List.Basic
import MolangAssist.Proofs.Schema.Shapes
import MolangAssist.Proofs.Schema.Writing

/-!
# Decoding after a clean-up

A document is decoded alike from an object and from what a clean-up leaves of it, so a fragment of
a wrong shape has no influence on anything decoded around it. Every decoder is brought into one of
three forms, for lists, maps and records, and each form has its own step.
-/
namespace MolangAssist.Schema

open Text
open Json (Value)

/-! ## Reading lists and maps -/

def listItems? : Value → Option (List Value)
  | .list items => some items
  | _ => none

/-- What `read` makes of the items of a list. -/
def readItems {α : Type} (read : Value → Option α) (v : Value) : Option (List α) :=
  (listItems? v).map fun items => items.filterMap read

/-- What `read` makes of the entries of an object. -/
def readEntries {α : Type} (read : Value → Option α) (v : Value) : Option (Table α) :=
  (objectFields? v).map fun entries =>
    entries.filterMap fun entry => (read entry.2).map (Prod.mk entry.1)

/-- What `read` makes of the entries of a value, if that is an object. -/
def readObject {α : Type} (read : List (String × Value) → α) (v : Value) : Option α :=
  (objectFields? v).map read

def yes? : Value → Option Unit
  | .bool true => some ()
  | _ => none

theorem decodeMap?_eq : decodeMap? = readEntries decodeMember? := by
  funext v
  cases v with
  | object fields => exact congrArg some (decodeMembers_eq fields)
  | _ => rfl

theorem definitions_eq_readEntries {α : Type} (fields : List (String × Value)) (key : String)
    (read : List (String × Value) → α) :
    definitions fields key read =
      ((Table.get? fields key).bind (readEntries (readObject read))).getD [] := by
  rw [definitions_eq]
  cases Table.get? fields key with
  | none => rfl
  | some raw => cases raw <;> rfl

theorem paramsOf_eq (raw : Option Value) :
    paramsOf raw = (raw.bind (readItems (readObject Param.ofFields))).getD [] := by
  cases raw with
  | none => rfl
  | some v =>
    cases v with
    | list items =>
      rw [paramsOf]
      congr 1
      funext item
      cases item <;> rfl
    | _ => rfl

theorem registries_eq (fields : List (String × Value)) :
    (Composition.ofFields fields).registries =
      ((Table.get? fields "registries").bind (readItems Value.text?)).getD [] := by
  simp only [Composition.ofFields]
  cases Table.get? fields "registries" with
  | none => rfl
  | some v => cases v <;> rfl

theorem optional_eq (fields : List (String × Value)) :
    (Param.ofFields fields).optional =
      ((Table.get? fields "optional").bind yes?).isSome := by
  simp only [Param.ofFields]
  cases Table.get? fields "optional" with
  | none => rfl
  | some v =>
    cases v with
    | bool b => cases b <;> rfl
    | _ => rfl

/-! ## Decoding after a clean-up -/

theorem clean?_list_bind {α : Type} {item : Shape} {read : Value → Option α} {v : Value}
    (hitems : ∀ items, v = .list items → ∀ w ∈ items, (clean? item w).bind read = read w) :
    (clean? (.list item) v).bind (readItems read) = readItems read v := by
  cases v with
  | list items =>
    have hread : (items.filterMap (clean? item)).filterMap read = items.filterMap read := by
      rw [List.filterMap_filterMap]
      exact List.filterMap_congr fun w hw => hitems items rfl w hw
    simpa [clean?, readItems, listItems?, cleanItems_eq] using hread
  | _ => rfl

theorem clean?_map_bind {α : Type} {entry : Shape} {read : Value → Option α} {v : Value}
    (hentries : ∀ fields, v = .object fields → ∀ field ∈ fields,
      (clean? entry field.2).bind read = read field.2) :
    (clean? (.map entry) v).bind (readEntries read) = readEntries read v := by
  cases v with
  | object fields =>
    have hread : (cleanFields (fun _ => some entry) fields).filterMap
        (fun field => (read field.2).map (Prod.mk field.1)) =
          fields.filterMap fun field => (read field.2).map (Prod.mk field.1) := by
      rw [cleanFields_eq, List.filterMap_filterMap]
      refine List.filterMap_congr fun field hfield => ?_
      rw [← hentries fields rfl field hfield, Option.bind_some]
      cases clean? entry field.2 <;> rfl
    exact congrArg some hread
  | _ => rfl

theorem clean?_record_bind {α : Type} {kind : RecordKind} {read : List (String × Value) → α}
    {v : Value} (hv : v.DistinctKeys)
    (hread : ∀ fields, (Value.object fields).DistinctKeys →
      read (cleanRecord kind fields) = read fields) :
    (clean? (.record kind) v).bind (readObject read) = readObject read v := by
  cases v with
  | object fields => exact congrArg some (hread fields hv)
  | _ => rfl

theorem textField_cleanFields {fields : List (String × Value)} (hfields : Table.Distinct fields)
    {shapeAt : String → Option Shape} {key : String} (hshape : shapeAt key = some .text) :
    textField (cleanFields shapeAt fields) key = textField fields key :=
  bind_get?_cleanFields hfields hshape fun v _ => by cases v <;> rfl

theorem present?_textField_cleanFields {fields : List (String × Value)}
    (hfields : Table.Distinct fields) {shapeAt : String → Option Shape} {key : String}
    (hshape : shapeAt key = some .reference) :
    present? (textField (cleanFields shapeAt fields) key) = present? (textField fields key) := by
  rw [textField, textField, get?_cleanFields hfields, hshape]
  cases Table.get? fields key with
  | none => rfl
  | some v =>
    cases v with
    | text s => by_cases hs : s = "" <;> simp [clean?, hs, Value.text?, present?, Option.filter]
    | _ => rfl

theorem Param.ofFields_cleanRecord {fields : List (String × Value)}
    (hfields : (Value.object fields).DistinctKeys) :
    Param.ofFields (cleanRecord .param fields) = Param.ofFields fields := by
  have hdistinct := hfields.proper.distinct
  have hname : textField (cleanRecord .param fields) "name" = textField fields "name" :=
    textField_cleanFields hdistinct rfl
  have htype : textField (cleanRecord .param fields) "type" = textField fields "type" :=
    textField_cleanFields hdistinct rfl
  have hdescription : textField (cleanRecord .param fields) "description" =
      textField fields "description" := textField_cleanFields hdistinct rfl
  have hyes : (Table.get? (cleanRecord .param fields) "optional").bind yes? =
      (Table.get? fields "optional").bind yes? := by
    have hshape : Table.get? (RecordKind.shapes fields .param) "optional" = some .yes := rfl
    refine bind_get?_cleanFields hdistinct hshape fun v _ => ?_
    cases v with
    | bool b => cases b <;> rfl
    | _ => rfl
  have hoptional := optional_eq (cleanRecord .param fields)
  rw [hyes, ← optional_eq] at hoptional
  rw [Param.ofFields, Param.ofFields, Param.mk.injEq]
  exact ⟨hname, htype, hoptional, hdescription⟩

theorem paramsOf_cleanFields {fields : List (String × Value)}
    (hfields : (Value.object fields).DistinctKeys) {shapeAt : String → Option Shape}
    (hshape : shapeAt "params" = some (.list (.record .param))) :
    paramsOf (Table.get? (cleanFields shapeAt fields) "params") =
      paramsOf (Table.get? fields "params") := by
  rw [paramsOf_eq, paramsOf_eq]
  congr 1
  refine bind_get?_cleanFields hfields.proper.distinct hshape fun v hv => ?_
  refine clean?_list_bind fun items hlist item hitem => ?_
  have hdistinct : (Value.list items).DistinctKeys := hlist ▸ hfields.get? hv
  cases hdistinct with
  | list hitems =>
    exact clean?_record_bind (hitems item hitem) fun inner => Param.ofFields_cleanRecord

theorem Notes.ofFields_cleanRecord {fields : List (String × Value)}
    (hfields : (Value.object fields).DistinctKeys) :
    Notes.ofFields (cleanRecord .member fields) = Notes.ofFields fields := by
  have hdistinct := hfields.proper.distinct
  rw [Notes.ofFields, Notes.ofFields, Notes.mk.injEq]
  exact ⟨textField_cleanFields hdistinct rfl, textField_cleanFields hdistinct rfl,
    textField_cleanFields hdistinct rfl, paramsOf_cleanFields hfields rfl⟩

/-- Cleaning the type away would change the kind of a member, but a type is a text. -/
theorem textField_type_cleanRecord {fields : List (String × Value)}
    (hfields : (Value.object fields).DistinctKeys) :
    textField (cleanRecord .member fields) "type" = textField fields "type" :=
  textField_cleanFields hfields.proper.distinct rfl

/-- The induction goes over the value, since a member is decoded from an object and what it carries
from an object inside that one. -/
theorem decode_clean? {v : Value} (hv : v.DistinctKeys) :
    (clean? (.record .member) v).bind decodeMember? = decodeMember? v ∧
      (clean? (.map (.record .member)) v).bind decodeMap? = decodeMap? v := by
  induction hv with
  | null => exact ⟨rfl, rfl⟩
  | bool b => exact ⟨rfl, rfl⟩
  | int n => exact ⟨rfl, rfl⟩
  | real literal => exact ⟨rfl, rfl⟩
  | text s => exact ⟨rfl, rfl⟩
  | list hitems ih => exact ⟨rfl, rfl⟩
  | @object fields hkeys hfields ih =>
    have hdistinct : (Value.object fields).DistinctKeys := .object hkeys hfields
    constructor
    · change decodeMember? (.object (cleanRecord .member fields)) = _
      rw [decodeMember?, decodeMember?, textField_type_cleanRecord hdistinct,
        Notes.ofFields_cleanRecord hdistinct]
      by_cases htag : textField fields "type" = some structTag
      · have htype : Table.get? (RecordKind.shapes fields .member) "struct_type" =
            some .reference := by simp [RecordKind.shapes, htag, Table.get?_cons]
        have hinline : Table.get? (RecordKind.shapes fields .member) "functions" =
            some (.map (.record .member)) := by simp [RecordKind.shapes, htag, Table.get?_cons]
        rw [if_pos htag, if_pos htag, decodeInline?_eq, decodeInline?_eq, cleanRecord,
          present?_textField_cleanFields hkeys htype,
          bind_get?_cleanFields hkeys hinline fun raw hraw =>
            (ih _ (Table.mem_of_get? hraw)).2]
      · rw [if_neg htag, if_neg htag]
    · rw [decodeMap?_eq]
      refine clean?_map_bind fun entries hentries entry hentry => ?_
      cases hentries
      exact (ih entry hentry).1

theorem membersField_cleanFields {fields : List (String × Value)}
    (hfields : (Value.object fields).DistinctKeys) {shapeAt : String → Option Shape}
    {key : String} (hshape : shapeAt key = some (.map (.record .member))) :
    membersField (cleanFields shapeAt fields) key = membersField fields key := by
  rw [membersField, membersField, bind_get?_cleanFields hfields.proper.distinct hshape fun v hv =>
    (decode_clean? (hfields.get? hv)).2]

theorem MemberGroup.ofFields_cleanRecord {fields : List (String × Value)}
    (hfields : (Value.object fields).DistinctKeys) :
    MemberGroup.ofFields (cleanRecord .group fields) = MemberGroup.ofFields fields := by
  rw [MemberGroup.ofFields, MemberGroup.ofFields, MemberGroup.mk.injEq]
  exact ⟨membersField_cleanFields hfields rfl,
    textField_cleanFields hfields.proper.distinct rfl⟩

theorem Runtime.ofFields_cleanRecord {fields : List (String × Value)}
    (hfields : (Value.object fields).DistinctKeys) :
    Runtime.ofFields (cleanRecord .runtime fields) = Runtime.ofFields fields := by
  have hdistinct := hfields.proper.distinct
  rw [Runtime.ofFields, Runtime.ofFields, Runtime.mk.injEq]
  exact ⟨membersField_cleanFields hfields rfl, textField_cleanFields hdistinct rfl,
    textField_cleanFields hdistinct rfl⟩

theorem Composition.ofFields_cleanRecord {fields : List (String × Value)}
    (hfields : (Value.object fields).DistinctKeys) :
    Composition.ofFields (cleanRecord .composition fields) = Composition.ofFields fields := by
  have hdistinct := hfields.proper.distinct
  have htexts : (Table.get? (cleanRecord .composition fields) "registries").bind
      (readItems Value.text?) =
        (Table.get? fields "registries").bind (readItems Value.text?) := by
    have hshape : Table.get? (RecordKind.shapes fields .composition) "registries" =
      some (.list .text) := rfl
    refine bind_get?_cleanFields hdistinct hshape fun v _ => ?_
    exact clean?_list_bind fun items _ item _ => by cases item <;> rfl
  have hregistries := registries_eq (cleanRecord .composition fields)
  rw [htexts, ← registries_eq] at hregistries
  rw [Composition.ofFields, Composition.ofFields, Composition.mk.injEq]
  exact ⟨hregistries, membersField_cleanFields hfields rfl, textField_cleanFields hdistinct rfl⟩

theorem definitions_cleanFields {α : Type} {fields : List (String × Value)}
    (hfields : (Value.object fields).DistinctKeys) {shapeAt : String → Option Shape}
    {key : String} {kind : RecordKind} (hshape : shapeAt key = some (.map (.record kind)))
    {read : List (String × Value) → α}
    (hread : ∀ inner, (Value.object inner).DistinctKeys →
      read (cleanRecord kind inner) = read inner) :
    definitions (cleanFields shapeAt fields) key read = definitions fields key read := by
  rw [definitions_eq_readEntries, definitions_eq_readEntries]
  congr 1
  refine bind_get?_cleanFields hfields.proper.distinct hshape fun v hv => ?_
  refine clean?_map_bind fun entries hobject entry hentry => ?_
  have hentries : (Value.object entries).DistinctKeys := hobject ▸ hfields.get? hv
  exact clean?_record_bind (hentries.proper.entries entry hentry) hread

theorem Document.ofFields_cleanRecord {fields : List (String × Value)}
    (hfields : (Value.object fields).DistinctKeys) :
    Document.ofFields (cleanRecord .document fields) = Document.ofFields fields := by
  rw [Document.ofFields, Document.ofFields, Document.mk.injEq]
  exact ⟨definitions_cleanFields hfields rfl fun _ => MemberGroup.ofFields_cleanRecord,
    definitions_cleanFields hfields rfl fun _ => MemberGroup.ofFields_cleanRecord,
    definitions_cleanFields hfields rfl fun _ => Runtime.ofFields_cleanRecord,
    definitions_cleanFields hfields rfl fun _ => Composition.ofFields_cleanRecord⟩

end MolangAssist.Schema
