import Mathlib.Data.List.Forall2
import MolangAssist.Proofs.Schema.CleanUp

/-!
# Fragments of a good shape

Decoding keeps what has a good shape: whatever a clean-up leaves of an object stands in the decoded
document when that is written out again.
-/
namespace MolangAssist.Json.Value

/-- Everything in the first value stands at the same place in the second one. -/
inductive Within : Value → Value → Prop
  | refl (v : Value) : Within v v
  | list {items others : List Value} (hitems : List.Forall₂ Within items others) :
      Within (.list items) (.list others)
  | object {fields others : List (String × Value)}
      (hkeys : ∀ key, (Table.get? fields key).isSome → (Table.get? others key).isSome)
      (hvalues : ∀ key v w, Table.get? fields key = some v → Table.get? others key = some w →
        Within v w) :
      Within (.object fields) (.object others)

theorem Within.object_of {fields others : List (String × Value)}
    (hfields : ∀ key v, Table.get? fields key = some v →
      ∃ w, Table.get? others key = some w ∧ Within v w) :
    Within (.object fields) (.object others) := by
  constructor
  · intro key hkey
    obtain ⟨v, hv⟩ := Option.isSome_iff_exists.mp hkey
    obtain ⟨w, hw, _⟩ := hfields key v hv
    rw [hw]
    rfl
  · intro key v w hv hw
    obtain ⟨w', hw', hwithin⟩ := hfields key v hv
    rw [hw'] at hw
    cases hw
    exact hwithin

end MolangAssist.Json.Value

namespace MolangAssist.Schema

open Text
open Json (Value)

/-! ## One shape -/

/-- A value has the shape if and only if `read` takes it, and then whatever is left of it after a
clean-up stands in what `write` makes of it. -/
def Keeps {α : Type} (shape : Shape) (read : Value → Option α) (write : α → Value)
    (v : Value) : Prop :=
  Option.Rel (fun kept a => Value.Within kept (write a)) (clean? shape v) (read v)

theorem Keeps.exists {α : Type} {shape : Shape} {read : Value → Option α} {write : α → Value}
    {v kept : Value} (hkeeps : Keeps shape read write v) (hclean : clean? shape v = some kept) :
    ∃ a, read v = some a ∧ kept.Within (write a) := by
  rw [Keeps, hclean] at hkeeps
  generalize read v = found at hkeeps ⊢
  cases hkeeps with
  | some hwithin => exact ⟨_, rfl, hwithin⟩

theorem keeps_text (v : Value) : Keeps .text Value.text? .text v := by
  cases v with
  | text s => exact .some (.refl (.text s))
  | _ => exact .none

theorem keeps_reference (v : Value) :
    Keeps .reference (fun raw => present? raw.text?) .text v := by
  cases v with
  | text s =>
    by_cases hs : s = ""
    · subst hs
      exact .none
    · have hkept : present? (some s) = some s := present?_of_ne_empty (by simpa using hs)
      simp only [Keeps, clean?, if_neg hs, Value.text?, hkept]
      exact .some (.refl (.text s))
  | _ => exact .none

theorem keeps_yes (v : Value) : Keeps .yes yes? (fun _ => .bool true) v := by
  cases v with
  | bool b =>
    cases b with
    | true => exact .some (.refl (.bool true))
    | false => exact .none
  | _ => exact .none

theorem forall₂_filterMap {α β γ : Type} {r : β → γ → Prop} {f : α → Option β} {g : α → Option γ}
    {items : List α} (hitems : ∀ item ∈ items, Option.Rel r (f item) (g item)) :
    List.Forall₂ r (items.filterMap f) (items.filterMap g) := by
  induction items with
  | nil => exact .nil
  | cons item rest ih =>
    have hrest := ih fun other hother => hitems other (List.mem_cons_of_mem item hother)
    have hitem := hitems item List.mem_cons_self
    rw [List.filterMap_cons, List.filterMap_cons]
    generalize f item = left at hitem ⊢
    generalize g item = right at hitem ⊢
    cases hitem with
    | none => exact hrest
    | some hr => exact .cons hr hrest

theorem keeps_list {α : Type} {item : Shape} {read : Value → Option α} {write : α → Value}
    {v : Value} (hitems : ∀ items, v = .list items → ∀ w ∈ items, Keeps item read write w) :
    Keeps (.list item) (readItems read) (fun kept => .list (kept.map write)) v := by
  cases v with
  | list items =>
    refine .some (.list ?_)
    rw [cleanItems_eq, List.forall₂_map_right_iff]
    exact forall₂_filterMap (hitems items rfl)
  | _ => exact .none

theorem keeps_map {α : Type} {entry : Shape} {read : Value → Option α} {write : α → Value}
    {v : Value} (hv : v.DistinctKeys)
    (hentries : ∀ fields, v = .object fields → ∀ field ∈ fields,
      Keeps entry read write field.2) :
    Keeps (.map entry) (readEntries read)
      (fun table => .object (table.map fun kept => (kept.1, write kept.2))) v := by
  cases v with
  | object fields =>
    refine .some (.object_of fun key kept hkept => ?_)
    rw [get?_cleanFields hv.proper.distinct] at hkept
    obtain ⟨raw, hraw, hclean⟩ := Option.bind_eq_some_iff.mp hkept
    have hentry := hentries fields rfl (key, raw) (Table.mem_of_get? hraw)
    obtain ⟨a, hread, hwithin⟩ := hentry.exists hclean
    refine ⟨write a, ?_, hwithin⟩
    rw [Table.get?_map, hv.proper.distinct.get?_filterMap (fun _ => read) key, hraw,
      Option.bind_some, hread, Option.map_some]
  | _ => exact .none

theorem keeps_record {α : Type} {kind : RecordKind} {read : List (String × Value) → α}
    {write : α → Value} {v : Value} (hv : v.DistinctKeys)
    (hrecord : ∀ fields, (Value.object fields).DistinctKeys →
      (Value.object (cleanRecord kind fields)).Within (write (read fields))) :
    Keeps (.record kind) (readObject read) write v := by
  cases v with
  | object fields => exact .some (hrecord fields hv)
  | _ => exact .none

/-! ## One key of a record -/

/-- What a clean-up leaves under a key stands under that key in other entries. -/
def Kept (fields others : List (String × Value)) (entry : String × Shape) : Prop :=
  ∀ raw kept, Table.get? fields entry.1 = some raw → clean? entry.2 raw = some kept →
    ∃ w, Table.get? others entry.1 = some w ∧ kept.Within w

theorem Kept.of_keeps {α : Type} {fields others : List (String × Value)} {key : String}
    {shape : Shape} {read : Value → Option α} {write : α → Value}
    (hkeeps : ∀ raw, Table.get? fields key = some raw → Keeps shape read write raw)
    (hwritten : ∀ a, (Table.get? fields key).bind read = some a →
      Table.get? others key = some (write a)) : Kept fields others (key, shape) := by
  intro raw kept hraw hclean
  obtain ⟨a, hread, hwithin⟩ := (hkeeps raw hraw).exists hclean
  exact ⟨write a, hwritten a (by rw [hraw, Option.bind_some, hread]), hwithin⟩

theorem Kept.text {fields others : List (String × Value)} {key : String}
    (hwritten : Table.get? others key = (textField fields key).map .text) :
    Kept fields others (key, .text) := by
  refine .of_keeps (fun raw _ => keeps_text raw) fun s hs => ?_
  rw [hwritten, textField, hs, Option.map_some]

theorem within_cleanRecord {kind : RecordKind} {fields others : List (String × Value)}
    (hfields : Table.Distinct fields)
    (hkept : ∀ entry ∈ kind.shapes fields, Kept fields others entry) :
    (Value.object (cleanRecord kind fields)).Within (.object others) := by
  refine .object_of fun key kept hget => ?_
  rw [cleanRecord, get?_cleanFields hfields] at hget
  obtain ⟨raw, hraw, hshaped⟩ := Option.bind_eq_some_iff.mp hget
  obtain ⟨shape, hshape, hclean⟩ := Option.bind_eq_some_iff.mp hshaped
  exact hkept (key, shape) (Table.mem_of_get? hshape) raw kept hraw hclean

/-! ## The records of a document -/

theorem Param.within_cleanRecord {fields : List (String × Value)}
    (hfields : (Value.object fields).DistinctKeys) :
    (Value.object (cleanRecord .param fields)).Within
      (.object (Param.ofFields fields).toFields) := by
  refine Schema.within_cleanRecord hfields.proper.distinct ?_
  simp only [RecordKind.shapes, List.forall_mem_cons, List.not_mem_nil, false_implies,
    implies_true, and_true]
  refine ⟨.text ?_, .text ?_, ?_, .text ?_⟩
  · simp [Param.toFields, Param.ofFields, Table.get?_append, Table.get?_cons, get?_textEntry]
  · simp [Param.toFields, Param.ofFields, Table.get?_append, Table.get?_cons, get?_textEntry]
  · refine .of_keeps (fun raw _ => keeps_yes raw) fun _ hyes => ?_
    have hoptional : (Param.ofFields fields).optional = true := by rw [optional_eq, hyes]; rfl
    simp [Param.toFields, hoptional, Table.get?_append, Table.get?_cons, get?_textEntry]
  · simp [Param.toFields, Param.ofFields, Table.get?_append, Table.get?_cons, get?_textEntry]

/-- The notes of a member are kept in any entries that have them at their end and none of their
keys before. -/
theorem kept_notes {fields front : List (String × Value)}
    (hfields : (Value.object fields).DistinctKeys)
    (hfresh : ∀ key ∈ ["description", "source", "returns", "params"],
      Table.get? front key = none) :
    ∀ entry ∈ [("description", Shape.text), ("source", .text), ("returns", .text),
      ("params", .list (.record .param))],
      Kept fields (front ++ (Notes.ofFields fields).toFields) entry := by
  simp only [List.forall_mem_cons, List.not_mem_nil, false_implies, implies_true,
    and_true] at hfresh ⊢
  obtain ⟨hdescription, hsource, hreturns, hparams⟩ := hfresh
  refine ⟨.text ?_, .text ?_, .text ?_, ?_⟩
  · simp [Notes.toFields, Notes.ofFields, Table.get?_append, Table.get?_cons, get?_textEntry,
      hdescription]
  · simp [Notes.toFields, Notes.ofFields, Table.get?_append, Table.get?_cons, get?_textEntry,
      hsource]
  · simp [Notes.toFields, Notes.ofFields, Table.get?_append, Table.get?_cons, get?_textEntry,
      hreturns]
  · have hkeeps : ∀ raw, Table.get? fields "params" = some raw →
        Keeps (.list (.record .param)) (readItems (readObject Param.ofFields))
          (fun params => .list (params.map fun p => .object p.toFields)) raw := by
      intro raw hraw
      refine keeps_list fun items hlist item hitem => ?_
      have hdistinct : (Value.list items).DistinctKeys := hlist ▸ hfields.get? hraw
      cases hdistinct with
      | list hitems => exact keeps_record (hitems item hitem) fun _ => Param.within_cleanRecord
    refine .of_keeps hkeeps fun params hread => ?_
    have hnotes : (Notes.ofFields fields).params = params := by
      rw [Notes.ofFields, paramsOf_eq, hread, Option.getD_some]
    simp [Notes.toFields, hnotes, Table.get?_append, Table.get?_cons, get?_textEntry, hparams]

theorem value_within_cleanRecord {fields : List (String × Value)}
    (hfields : (Value.object fields).DistinctKeys)
    (htag : textField fields "type" ≠ some structTag) :
    (Value.object (cleanRecord .member fields)).Within
      (Member.value (Notes.ofFields fields) (textField fields "type")).toJson := by
  rw [Member.toJson]
  refine within_cleanRecord hfields.proper.distinct ?_
  rw [RecordKind.shapes, if_neg htag, List.append_nil, List.forall_mem_cons]
  refine ⟨.text ?_, kept_notes hfields (by simp [get?_textEntry])⟩
  simp [Notes.toFields, Table.get?_append, Table.get?_cons, get?_textEntry]

theorem struct_within_cleanRecord {fields : List (String × Value)}
    (hfields : (Value.object fields).DistinctKeys)
    (htag : textField fields "type" = some structTag)
    (hinline : ∀ raw, Table.get? fields "functions" = some raw →
      Keeps (.map (.record .member)) decodeMap?
        (fun members => .object (memberFields members)) raw) :
    (Value.object (cleanRecord .member fields)).Within
      (Member.struct (Notes.ofFields fields) (present? (textField fields "struct_type"))
        (decodeInline? fields)).toJson := by
  rw [Member.toJson]
  refine within_cleanRecord hfields.proper.distinct ?_
  rw [RecordKind.shapes, if_pos htag, List.forall_mem_append, List.forall_mem_cons]
  refine ⟨⟨.text ?_, kept_notes hfields ?_⟩, ?_⟩
  · simp [htag, textEntry, Table.get?_cons]
  · simp [get?_textEntry, get?_inlineEntry, Table.get?_append]
  · simp only [List.forall_mem_cons, List.not_mem_nil, false_implies, implies_true, and_true]
    constructor
    · refine .of_keeps (fun raw _ => keeps_reference raw) fun s hs => ?_
      have htype : present? (textField fields "struct_type") = some s := by
        rw [textField, ← hs]
        cases Table.get? fields "struct_type" <;> rfl
      simp [htype, textEntry, Table.get?_cons]
    · refine .of_keeps hinline fun members hmembers => ?_
      simp [decodeInline?_eq, hmembers, Table.get?_append, get?_textEntry, get?_inlineEntry]

/-- The induction goes over the value, as for decoding. -/
theorem keeps_members {v : Value} (hv : v.DistinctKeys) :
    Keeps (.record .member) decodeMember? Member.toJson v ∧
      Keeps (.map (.record .member)) decodeMap?
        (fun members => .object (memberFields members)) v := by
  induction hv with
  | null => exact ⟨.none, .none⟩
  | bool b => exact ⟨.none, .none⟩
  | int n => exact ⟨.none, .none⟩
  | real literal => exact ⟨.none, .none⟩
  | text s => exact ⟨.none, .none⟩
  | list hitems ih => exact ⟨.none, .none⟩
  | @object fields hkeys hfields ih =>
    have hdistinct : (Value.object fields).DistinctKeys := .object hkeys hfields
    constructor
    · by_cases htag : textField fields "type" = some structTag
      · rw [Keeps, decodeMember?, if_pos htag]
        refine .some (struct_within_cleanRecord hdistinct htag fun raw hraw => ?_)
        exact (ih _ (Table.mem_of_get? hraw)).2
      · rw [Keeps, decodeMember?, if_neg htag]
        exact .some (value_within_cleanRecord hdistinct htag)
    · simp only [decodeMap?_eq, memberFields_eq_map]
      refine keeps_map hdistinct fun entries hobject entry hentry => ?_
      cases hobject
      exact (ih entry hentry).1

theorem Kept.members {fields others : List (String × Value)} {key : String}
    (hfields : (Value.object fields).DistinctKeys)
    (hwritten : Table.get? others key =
      some (.object (memberFields (membersField fields key)))) :
    Kept fields others (key, .map (.record .member)) := by
  refine .of_keeps (fun raw hraw => (keeps_members (hfields.get? hraw)).2) fun members hread => ?_
  rw [hwritten, membersField, hread, Option.getD_some]

theorem MemberGroup.within_cleanRecord {fields : List (String × Value)}
    (hfields : (Value.object fields).DistinctKeys) :
    (Value.object (cleanRecord .group fields)).Within
      (.object (MemberGroup.ofFields fields).toFields) := by
  refine Schema.within_cleanRecord hfields.proper.distinct ?_
  simp only [RecordKind.shapes, List.forall_mem_cons, List.not_mem_nil, false_implies,
    implies_true, and_true]
  refine ⟨.members hfields rfl, .text ?_⟩
  simp [MemberGroup.toFields, MemberGroup.ofFields, Table.get?_cons, get?_textEntry]

theorem Runtime.within_cleanRecord {fields : List (String × Value)}
    (hfields : (Value.object fields).DistinctKeys) :
    (Value.object (cleanRecord .runtime fields)).Within
      (.object (Runtime.ofFields fields).toFields) := by
  refine Schema.within_cleanRecord hfields.proper.distinct ?_
  simp only [RecordKind.shapes, List.forall_mem_cons, List.not_mem_nil, false_implies,
    implies_true, and_true]
  refine ⟨.members hfields rfl, .text ?_, .text ?_⟩
  · simp [Runtime.toFields, Runtime.ofFields, Table.get?_append, Table.get?_cons, get?_textEntry]
  · simp [Runtime.toFields, Runtime.ofFields, Table.get?_append, Table.get?_cons, get?_textEntry]

theorem Composition.within_cleanRecord {fields : List (String × Value)}
    (hfields : (Value.object fields).DistinctKeys) :
    (Value.object (cleanRecord .composition fields)).Within
      (.object (Composition.ofFields fields).toFields) := by
  refine Schema.within_cleanRecord hfields.proper.distinct ?_
  simp only [RecordKind.shapes, List.forall_mem_cons, List.not_mem_nil, false_implies,
    implies_true, and_true]
  refine ⟨?_, .members hfields ?_, .text ?_⟩
  · refine .of_keeps (fun raw _ => keeps_list fun _ _ item _ => keeps_text item) ?_
    intro names hread
    have hregistries : (Composition.ofFields fields).registries = names := by
      rw [registries_eq, hread, Option.getD_some]
    simp [Composition.toFields, hregistries, Table.get?_cons]
  · simp [Composition.toFields, Composition.ofFields, Table.get?_cons]
  · simp [Composition.toFields, Composition.ofFields, Table.get?_cons, get?_textEntry]

theorem Kept.definitions {α : Type} {fields others : List (String × Value)} {key : String}
    {kind : RecordKind} {read : List (String × Value) → α} {write : α → List (String × Value)}
    (hfields : (Value.object fields).DistinctKeys)
    (hrecord : ∀ inner, (Value.object inner).DistinctKeys →
      (Value.object (cleanRecord kind inner)).Within (.object (write (read inner))))
    (hwritten : Table.get? others key = some (.object
      ((Schema.definitions fields key read).map fun entry => (entry.1, .object (write entry.2))))) :
    Kept fields others (key, .map (.record kind)) := by
  have hkeeps : ∀ raw, Table.get? fields key = some raw →
      Keeps (.map (.record kind)) (readEntries (readObject read))
        (fun table => .object (table.map fun entry => (entry.1, .object (write entry.2)))) raw := by
    intro raw hraw
    have hdistinct := hfields.get? hraw
    have hentries : ∀ entries, raw = .object entries → ∀ entry ∈ entries,
        Keeps (.record kind) (readObject read) (fun a => .object (write a)) entry.2 := by
      intro entries hobject entry hentry
      rw [hobject] at hdistinct
      exact keeps_record (hdistinct.proper.entries entry hentry) hrecord
    exact keeps_map hdistinct hentries
  refine .of_keeps hkeeps fun table hread => ?_
  rw [hwritten, definitions_eq_readEntries, hread, Option.getD_some]

theorem Document.within_cleanRecord {fields : List (String × Value)}
    (hfields : (Value.object fields).DistinctKeys) :
    (Value.object (cleanRecord .document fields)).Within
      (.object (Document.ofFields fields).toFields) := by
  refine Schema.within_cleanRecord hfields.proper.distinct ?_
  simp only [RecordKind.shapes, List.forall_mem_cons, List.not_mem_nil, false_implies,
    implies_true, and_true]
  refine ⟨.definitions hfields (fun _ => MemberGroup.within_cleanRecord) ?_,
    .definitions hfields (fun _ => MemberGroup.within_cleanRecord) ?_,
    .definitions hfields (fun _ => Runtime.within_cleanRecord) ?_,
    .definitions hfields (fun _ => Composition.within_cleanRecord) ?_⟩ <;>
    simp [Document.toFields, Document.ofFields, definitionEntry, Table.get?_cons]

end MolangAssist.Schema
