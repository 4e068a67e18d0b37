import MolangAssist.Proofs.Tables
import MolangAssist.Schema.Decode

/-!
# Well-formed schema documents

Decoding gives documents of a certain shape: a reference to a struct type is never empty, a value
never has the tag of structs, and no name is declared twice in one place.
-/
namespace MolangAssist.Json.Value

/-- No object inside the value has a key twice. -/
inductive DistinctKeys : Value → Prop
  | null : DistinctKeys .null
  | bool (b : Bool) : DistinctKeys (.bool b)
  | int (n : Int) : DistinctKeys (.int n)
  | real (literal : String) : DistinctKeys (.real literal)
  | text (s : String) : DistinctKeys (.text s)
  | list {items : List Value} (hitems : ∀ item ∈ items, DistinctKeys item) :
      DistinctKeys (.list items)
  | object {fields : List (String × Value)} (hkeys : Table.Distinct fields)
      (hfields : ∀ field ∈ fields, DistinctKeys field.2) : DistinctKeys (.object fields)

theorem DistinctKeys.proper {fields : List (String × Value)}
    (h : DistinctKeys (.object fields)) : Table.Proper DistinctKeys fields := by
  cases h with
  | object hkeys hfields => exact ⟨hkeys, hfields⟩

theorem DistinctKeys.get? {fields : List (String × Value)} {key : String} {v : Value}
    (h : DistinctKeys (.object fields)) (hget : Table.get? fields key = some v) :
    DistinctKeys v := h.proper.entries (key, v) (Table.mem_of_get? hget)

end MolangAssist.Json.Value

namespace MolangAssist.Schema

open Text
open Json (Value)

/-- At no depth does a reference to a struct type stand empty, a value have the tag of structs or
a name stand twice among the members that a member carries. -/
inductive Member.WellFormed : Member → Prop
  | value {notes : Notes} {tag : Option String} (htag : tag ≠ some structTag) :
      WellFormed (.value notes tag)
  | struct {notes : Notes} {structType : Option String} (htype : structType ≠ some "") :
      WellFormed (.struct notes structType none)
  | carrying {notes : Notes} {structType : Option String} {inline : Members}
      (htype : structType ≠ some "") (hnames : Table.Distinct inline)
      (hinline : ∀ entry ∈ inline, WellFormed entry.2) :
      WellFormed (.struct notes structType (some inline))

/-- The four collections declare no name twice, and neither do the member maps in them, whose
members are all well-formed. -/
structure Document.WellFormed (doc : Document) : Prop where
  structs : Table.Proper (fun group => Table.Proper Member.WellFormed group.members) doc.structs
  functionSets :
    Table.Proper (fun group => Table.Proper Member.WellFormed group.members) doc.functionSets
  runtimes : Table.Proper (fun runtime => Table.Proper Member.WellFormed runtime.query)
    doc.runtimes
  compositions :
    Table.Proper (fun composition => Table.Proper Member.WellFormed composition.customFunctions)
      doc.compositions

/-! ## What is decoded is well-formed -/

theorem decodeInline?_eq (fields : List (String × Value)) :
    decodeInline? fields = (Table.get? fields "functions").bind decodeMap? := by
  induction fields with
  | nil => rfl
  | cons field rest ih =>
    rw [decodeInline?, Table.get?_cons]
    by_cases hkey : field.1 = "functions"
    · simp [hkey]
    · simp [hkey, Ne.symm hkey, ih]

theorem decodeMembers_eq (fields : List (String × Value)) :
    decodeMembers fields =
      fields.filterMap fun field => (decodeMember? field.2).map (Prod.mk field.1) := by
  induction fields with
  | nil => rfl
  | cons field rest ih =>
    rw [decodeMembers]
    cases hfield : decodeMember? field.2 with
    | none => simp [hfield, ih]
    | some member => simp [hfield, ih]

theorem present?_ne_empty (text : Option String) : present? text ≠ some "" := by
  intro hempty
  have hkept := (Option.filter_eq_some_iff.mp hempty).2
  simp at hkept

theorem present?_of_ne_empty {text : Option String} (htext : text ≠ some "") :
    present? text = text := by
  cases text with
  | none => rfl
  | some s =>
    have hs : s ≠ "" := fun hempty => htext (congrArg some hempty)
    simp [present?, hs]

/-- The induction goes over the value. A member is decoded from an object, and the members that it
carries from an object one level down, so both statements are carried along. -/
theorem wellFormed_of_decode {v : Value} (hv : v.DistinctKeys) :
    (∀ member, decodeMember? v = some member → member.WellFormed) ∧
      ∀ members, decodeMap? v = some members → Table.Proper Member.WellFormed members := by
  induction hv with
  | null => simp [decodeMember?, decodeMap?]
  | bool b => simp [decodeMember?, decodeMap?]
  | int n => simp [decodeMember?, decodeMap?]
  | real literal => simp [decodeMember?, decodeMap?]
  | text s => simp [decodeMember?, decodeMap?]
  | list hitems ih => simp [decodeMember?, decodeMap?]
  | @object fields hkeys hfields ih =>
    constructor
    · intro member hmember
      rw [decodeMember?] at hmember
      split at hmember
      · cases hmember
        have htype := present?_ne_empty (textField fields "struct_type")
        rw [decodeInline?_eq]
        cases hinline : (Table.get? fields "functions").bind decodeMap? with
        | none => exact .struct htype
        | some inline =>
          obtain ⟨raw, hraw, hdecoded⟩ := Option.bind_eq_some_iff.mp hinline
          have hproper := (ih _ (Table.mem_of_get? hraw)).2 inline hdecoded
          exact .carrying htype hproper.distinct hproper.entries
      · next htag =>
        cases hmember
        exact .value htag
    · intro members hmembers
      rw [decodeMap?] at hmembers
      cases hmembers
      rw [decodeMembers_eq]
      have hraw : Table.Proper (fun raw => ∀ member, decodeMember? raw = some member →
          member.WellFormed) fields := ⟨hkeys, fun field hfield => (ih field hfield).1⟩
      exact hraw.filterMap decodeMember? fun raw member hdecode => hdecode member

theorem proper_membersField {fields : List (String × Value)}
    (hfields : (Value.object fields).DistinctKeys) (key : String) :
    Table.Proper Member.WellFormed (membersField fields key) := by
  rw [membersField]
  cases hmembers : (Table.get? fields key).bind decodeMap? with
  | none => exact Table.Proper.nil _
  | some members =>
    obtain ⟨raw, hraw, hdecoded⟩ := Option.bind_eq_some_iff.mp hmembers
    exact (wellFormed_of_decode (hfields.get? hraw)).2 members hdecoded

/-- The entries of an object, if this is one. -/
def objectFields? : Value → Option (List (String × Value))
  | .object fields => some fields
  | _ => none

theorem objectFields?_eq_some {v : Value} {fields : List (String × Value)}
    (hv : objectFields? v = some fields) : v = .object fields := by
  cases v with
  | object inner => exact congrArg Value.object (Option.some.inj hv)
  | _ => cases hv

theorem definitions_eq {α : Type} (fields : List (String × Value)) (key : String)
    (read : List (String × Value) → α) :
    definitions fields key read =
      (((Table.get? fields key).bind objectFields?).getD []).filterMap fun entry =>
        ((objectFields? entry.2).map read).map (Prod.mk entry.1) := by
  rw [definitions]
  cases hraw : Table.get? fields key with
  | none => rfl
  | some raw =>
    cases raw with
    | object inner =>
      simp only [objectEntries, Option.bind_some, objectFields?, Option.getD_some,
        List.map_filterMap]
      congr 1
      funext entry
      obtain ⟨name, v⟩ := entry
      cases v <;> rfl
    | _ => rfl

theorem proper_definitions {α : Type} {fields : List (String × Value)}
    (hfields : (Value.object fields).DistinctKeys) (key : String)
    {read : List (String × Value) → α} {p : α → Prop}
    (hread : ∀ inner, (Value.object inner).DistinctKeys → p (read inner)) :
    Table.Proper p (definitions fields key read) := by
  rw [definitions_eq]
  have hinner : Table.Proper Value.DistinctKeys
      (((Table.get? fields key).bind objectFields?).getD []) := by
    cases hcollection : (Table.get? fields key).bind objectFields? with
    | none => exact Table.Proper.nil _
    | some inner =>
      obtain ⟨raw, hraw, hobject⟩ := Option.bind_eq_some_iff.mp hcollection
      have hdistinct := hfields.get? hraw
      rw [objectFields?_eq_some hobject] at hdistinct
      exact hdistinct.proper
  refine hinner.filterMap (fun raw => (objectFields? raw).map read) ?_
  intro raw a hraw ha
  obtain ⟨inner, hobject, rfl⟩ := Option.map_eq_some_iff.mp ha
  rw [objectFields?_eq_some hobject] at hraw
  exact hread inner hraw

theorem wellFormed_ofFields {fields : List (String × Value)}
    (hfields : (Value.object fields).DistinctKeys) : (Document.ofFields fields).WellFormed := by
  refine ⟨?_, ?_, ?_, ?_⟩ <;>
    exact proper_definitions hfields _ fun inner hinner => proper_membersField hinner _

end MolangAssist.Schema
