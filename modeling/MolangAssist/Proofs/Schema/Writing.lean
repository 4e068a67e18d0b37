import MolangAssist.Proofs.Schema.DecodingDepth

/-!
# Writing schema documents

Every well-formed document is declared by some object, which `Document.toFields` writes down. So
the decoded documents are exactly the well-formed ones that the stack is enough for.
-/
namespace MolangAssist.Schema

open Text
open Json (Value)

def textEntry (key : String) : Option String → List (String × Value)
  | some text => [(key, .text text)]
  | none => []

def Param.toFields (p : Param) : List (String × Value) :=
  textEntry "name" p.name ++ textEntry "type" p.type ++ [("optional", .bool p.optional)] ++
    textEntry "description" p.description

def Notes.toFields (notes : Notes) : List (String × Value) :=
  textEntry "description" notes.description ++ textEntry "source" notes.source ++
    textEntry "returns" notes.returns ++
    [("params", .list (notes.params.map fun p => .object p.toFields))]

mutual

def Member.toJson : Member → Value
  | .value notes tag => .object (textEntry "type" tag ++ notes.toFields)
  | .struct notes structType inline =>
    .object (textEntry "type" (some structTag) ++ textEntry "struct_type" structType ++
      inlineEntry inline ++ notes.toFields)
termination_by structural member => member

/-- A member that carries no members has no such entry; one that carries an empty map has. -/
def inlineEntry : Option (List (String × Member)) → List (String × Value)
  | none => []
  | some members => [("functions", .object (memberFields members))]
termination_by structural inline => inline

def memberFields : List (String × Member) → List (String × Value)
  | [] => []
  | (name, member) :: rest => (name, member.toJson) :: memberFields rest
termination_by structural members => members

end

def MemberGroup.toFields (group : MemberGroup) : List (String × Value) :=
  [("functions", .object (memberFields group.members))] ++
    textEntry "description" group.description

def Runtime.toFields (runtime : Runtime) : List (String × Value) :=
  [("query", .object (memberFields runtime.query))] ++
    textEntry "description" runtime.description ++ textEntry "category" runtime.category

def Composition.toFields (composition : Composition) : List (String × Value) :=
  [("registries", .list (composition.registries.map .text)),
    ("custom_functions", .object (memberFields composition.customFunctions))] ++
    textEntry "description" composition.description

/-- A collection of definitions, each written by `write`. -/
def definitionEntry {α : Type} (key : String) (write : α → List (String × Value))
    (table : Table α) : List (String × Value) :=
  [(key, .object (table.map fun entry => (entry.1, .object (write entry.2))))]

def Document.toFields (doc : Document) : List (String × Value) :=
  definitionEntry "structs" MemberGroup.toFields doc.structs ++
    definitionEntry "function_sets" MemberGroup.toFields doc.functionSets ++
    definitionEntry "runtimes" Runtime.toFields doc.runtimes ++
    definitionEntry "structCompositions" Composition.toFields doc.compositions

/-! ## What is written is decoded again -/

theorem get?_textEntry (key : String) (text : Option String) (name : String) :
    Table.get? (textEntry key text) name =
      if name = key then text.map Value.text else none := by
  cases text <;> simp [textEntry, Table.get?_cons]

theorem bind_text?_map_text (text : Option String) :
    (text.map Value.text).bind Value.text? = text := by
  cases text <;> rfl

theorem Param.ofFields_toFields (p : Param) : Param.ofFields p.toFields = p := by
  simp [Param.ofFields, Param.toFields, textField, Table.get?_append, Table.get?_cons,
    get?_textEntry, bind_text?_map_text]

theorem paramsOf_toFields (params : List Param) :
    paramsOf (some (.list (params.map fun p => .object p.toFields))) = params := by
  induction params with
  | nil => rfl
  | cons p rest ih =>
    simp only [paramsOf, List.map_cons, List.filterMap_cons, Param.ofFields_toFields] at ih ⊢
    rw [ih]

/-- The notes of a member are read back from any object that has their entries at its end and
none of their keys before. -/
theorem Notes.ofFields_append_toFields (fields : List (String × Value)) (notes : Notes)
    (hfresh : ∀ key ∈ ["description", "source", "returns", "params"],
      Table.get? fields key = none) :
    Notes.ofFields (fields ++ notes.toFields) = notes := by
  have hdescription := hfresh "description" (by simp)
  have hsource := hfresh "source" (by simp)
  have hreturns := hfresh "returns" (by simp)
  have hparams := hfresh "params" (by simp)
  simp [Notes.ofFields, Notes.toFields, textField, Table.get?_append, Table.get?_cons,
    get?_textEntry, bind_text?_map_text, hdescription, hsource, hreturns, hparams,
    paramsOf_toFields]

theorem memberFields_eq_map (members : List (String × Member)) :
    memberFields members = members.map fun entry => (entry.1, entry.2.toJson) := by
  induction members with
  | nil => rfl
  | cons entry rest ih => rw [memberFields, ih, List.map_cons]

theorem decodeMembers_memberFields {members : List (String × Member)}
    (hmembers : ∀ entry ∈ members, decodeMember? entry.2.toJson = some entry.2) :
    decodeMembers (memberFields members) = members := by
  induction members with
  | nil => rfl
  | cons entry rest ih =>
    have hrest := ih fun other hother => hmembers other (List.mem_cons_of_mem entry hother)
    rw [memberFields, decodeMembers, hmembers entry List.mem_cons_self, hrest]

theorem decodeMember?_value (notes : Notes) {tag : Option String} (htag : tag ≠ some structTag) :
    decodeMember? (Member.value notes tag).toJson = some (.value notes tag) := by
  have htype : textField (textEntry "type" tag ++ notes.toFields) "type" = tag := by
    simp [textField, Notes.toFields, Table.get?_append, Table.get?_cons, get?_textEntry,
      bind_text?_map_text]
  have hnotes : Notes.ofFields (textEntry "type" tag ++ notes.toFields) = notes := by
    apply Notes.ofFields_append_toFields
    simp [get?_textEntry]
  rw [Member.toJson, decodeMember?, htype, if_neg htag, hnotes]

theorem get?_inlineEntry (inline : Option Members) (name : String) :
    Table.get? (inlineEntry inline) name =
      if name = "functions" then inline.map fun members => .object (memberFields members)
      else none := by
  cases inline <;> simp [inlineEntry, Table.get?_cons]

theorem decodeMember?_struct (notes : Notes) {structType : Option String}
    (htype : structType ≠ some "") {inline : Option Members}
    (hinline : ∀ members ∈ inline, decodeMembers (memberFields members) = members) :
    decodeMember? (Member.struct notes structType inline).toJson =
      some (.struct notes structType inline) := by
  obtain ⟨fields, hfields⟩ : ∃ fields, fields = textEntry "type" (some structTag) ++
    textEntry "struct_type" structType ++ inlineEntry inline ++ notes.toFields := ⟨_, rfl⟩
  have htag : textField fields "type" = some structTag := by
    simp [hfields, textField, textEntry, Table.get?_cons, Value.text?]
  have hreference : textField fields "struct_type" = structType := by
    simp [hfields, textField, Notes.toFields, Table.get?_append, Table.get?_cons, get?_textEntry,
      get?_inlineEntry, bind_text?_map_text]
  have hfunctions : Table.get? fields "functions" =
      inline.map fun members => .object (memberFields members) := by
    simp [hfields, Notes.toFields, Table.get?_append, Table.get?_cons, get?_textEntry,
      get?_inlineEntry]
  have hcarried : decodeInline? fields = inline := by
    rw [decodeInline?_eq, hfunctions]
    cases inline with
    | none => rfl
    | some members => simp [decodeMap?, hinline members rfl]
  have hnotes : Notes.ofFields fields = notes := by
    rw [hfields]
    apply Notes.ofFields_append_toFields
    simp [Table.get?_append, get?_textEntry, get?_inlineEntry]
  rw [Member.toJson, ← hfields, decodeMember?, if_pos htag, hnotes, hreference, hcarried,
    present?_of_ne_empty htype]

theorem decodeMember?_toJson {member : Member} (hmember : member.WellFormed) :
    decodeMember? member.toJson = some member := by
  induction hmember with
  | value htag => exact decodeMember?_value _ htag
  | struct htype => exact decodeMember?_struct _ htype (by simp)
  | carrying htype hnames hinline ih =>
    apply decodeMember?_struct _ htype
    rintro members ⟨⟩
    exact decodeMembers_memberFields ih

theorem membersField_of_get? {fields : List (String × Value)} {key : String} {members : Members}
    (hmembers : Table.Proper Member.WellFormed members)
    (hget : Table.get? fields key = some (.object (memberFields members))) :
    membersField fields key = members := by
  have hread := decodeMembers_memberFields fun entry hentry =>
    decodeMember?_toJson (hmembers.entries entry hentry)
  simp [membersField, hget, decodeMap?, hread]

theorem MemberGroup.ofFields_toFields {group : MemberGroup}
    (hgroup : Table.Proper Member.WellFormed group.members) :
    MemberGroup.ofFields group.toFields = group := by
  have hmembers : membersField group.toFields "functions" = group.members :=
    membersField_of_get? hgroup (by simp [MemberGroup.toFields, Table.get?_cons])
  have hdescription : textField group.toFields "description" = group.description := by
    simp [textField, MemberGroup.toFields, Table.get?_cons, get?_textEntry, bind_text?_map_text]
  rw [MemberGroup.ofFields, hmembers, hdescription]

theorem Runtime.ofFields_toFields {runtime : Runtime}
    (hruntime : Table.Proper Member.WellFormed runtime.query) :
    Runtime.ofFields runtime.toFields = runtime := by
  have hquery : membersField runtime.toFields "query" = runtime.query :=
    membersField_of_get? hruntime (by simp [Runtime.toFields, Table.get?_cons])
  have hdescription : textField runtime.toFields "description" = runtime.description := by
    simp [textField, Runtime.toFields, Table.get?_append, Table.get?_cons, get?_textEntry,
      bind_text?_map_text]
  have hcategory : textField runtime.toFields "category" = runtime.category := by
    simp [textField, Runtime.toFields, Table.get?_append, Table.get?_cons, get?_textEntry,
      bind_text?_map_text]
  rw [Runtime.ofFields, hquery, hdescription, hcategory]

theorem Composition.ofFields_toFields {composition : Composition}
    (hcomposition : Table.Proper Member.WellFormed composition.customFunctions) :
    Composition.ofFields composition.toFields = composition := by
  have hregistries : Table.get? composition.toFields "registries" =
      some (.list (composition.registries.map .text)) := by
    simp [Composition.toFields, Table.get?_cons]
  have hread : (composition.registries.map Value.text).filterMap Value.text? =
      composition.registries := by
    rw [List.filterMap_map]
    exact List.filterMap_some
  have hfunctions : membersField composition.toFields "custom_functions" =
      composition.customFunctions :=
    membersField_of_get? hcomposition (by simp [Composition.toFields, Table.get?_cons])
  have hdescription : textField composition.toFields "description" =
      composition.description := by
    simp [textField, Composition.toFields, Table.get?_cons, get?_textEntry, bind_text?_map_text]
  simp only [Composition.ofFields, hregistries, hread, hfunctions, hdescription]

theorem definitions_of_get? {α : Type} {fields : List (String × Value)} {key : String}
    {read : List (String × Value) → α} {write : α → List (String × Value)} {p : α → Prop}
    {table : Table α} (htable : Table.Proper p table)
    (hread : ∀ a, p a → read (write a) = a)
    (hget : Table.get? fields key =
      some (.object (table.map fun entry => (entry.1, .object (write entry.2))))) :
    definitions fields key read = table := by
  rw [definitions_eq, hget]
  simp only [Option.bind_some, objectFields?, Option.getD_some, List.filterMap_map]
  have hentries := htable.entries
  clear hget htable
  induction table with
  | nil => rfl
  | cons entry rest ih =>
    have hentry := hread entry.2 (hentries entry List.mem_cons_self)
    have hrest := ih fun other hother => hentries other (List.mem_cons_of_mem entry hother)
    simp [hentry] at hrest ⊢
    exact hrest

theorem Document.ofFields_toFields {doc : Document} (hdoc : doc.WellFormed) :
    Document.ofFields doc.toFields = doc := by
  have hstructs : definitions doc.toFields "structs" MemberGroup.ofFields = doc.structs :=
    definitions_of_get? hdoc.structs (fun _ => MemberGroup.ofFields_toFields) (by
      simp [Document.toFields, definitionEntry, Table.get?_cons])
  have hsets : definitions doc.toFields "function_sets" MemberGroup.ofFields =
      doc.functionSets :=
    definitions_of_get? hdoc.functionSets (fun _ => MemberGroup.ofFields_toFields) (by
      simp [Document.toFields, definitionEntry, Table.get?_cons])
  have hruntimes : definitions doc.toFields "runtimes" Runtime.ofFields = doc.runtimes :=
    definitions_of_get? hdoc.runtimes (fun _ => Runtime.ofFields_toFields) (by
      simp [Document.toFields, definitionEntry, Table.get?_cons])
  have hcompositions : definitions doc.toFields "structCompositions" Composition.ofFields =
      doc.compositions :=
    definitions_of_get? hdoc.compositions (fun _ => Composition.ofFields_toFields) (by
      simp [Document.toFields, definitionEntry, Table.get?_cons])
  rw [Document.ofFields, hstructs, hsets, hruntimes, hcompositions]

/-! ## What is written has distinct keys -/

/-- The keys of some entries are among the given ones, in their order, and the values are good. -/
structure FieldsWithin (keys : List String) (fields : List (String × Value)) : Prop where
  names : (Table.names fields).Sublist keys
  values : ∀ field ∈ fields, field.2.DistinctKeys

namespace FieldsWithin

theorem object {keys : List String} {fields : List (String × Value)}
    (hfields : FieldsWithin keys fields) (hkeys : keys.Nodup) :
    (Value.object fields).DistinctKeys := .object (hfields.names.nodup hkeys) hfields.values

theorem append {first second : List String} {fields rest : List (String × Value)}
    (hfields : FieldsWithin first fields) (hrest : FieldsWithin second rest) :
    FieldsWithin (first ++ second) (fields ++ rest) := by
  refine ⟨?_, ?_⟩
  · rw [Table.names, List.map_append]
    exact hfields.names.append hrest.names
  · intro field hfield
    rcases List.mem_append.mp hfield with hfield | hfield
    · exact hfields.values field hfield
    · exact hrest.values field hfield

theorem single (key : String) {v : Value} (hv : v.DistinctKeys) : FieldsWithin [key] [(key, v)] :=
  ⟨List.Sublist.refl [key], by simpa using hv⟩

theorem text (key : String) (text : Option String) :
    FieldsWithin [key] (textEntry key text) := by
  cases text with
  | none => exact ⟨List.nil_sublist [key], by simp [textEntry]⟩
  | some s => exact single key (.text s)

end FieldsWithin

theorem distinctKeys_param (p : Param) : (Value.object p.toFields).DistinctKeys :=
  ((((FieldsWithin.text "name" _).append (.text "type" _)).append
    (.single "optional" (.bool _))).append (.text "description" _)).object (by decide)

theorem fieldsWithin_notes (notes : Notes) :
    FieldsWithin ["description", "source", "returns", "params"] notes.toFields := by
  have hparams : (Value.list (notes.params.map fun p => .object p.toFields)).DistinctKeys := by
    refine .list fun item hitem => ?_
    obtain ⟨p, _, rfl⟩ := List.mem_map.mp hitem
    exact distinctKeys_param p
  exact (((FieldsWithin.text "description" _).append (.text "source" _)).append
    (.text "returns" _)).append (.single "params" hparams)

theorem distinctKeys_memberFields {members : Members} (hnames : Table.Distinct members)
    (hmembers : ∀ entry ∈ members, entry.2.toJson.DistinctKeys) :
    (Value.object (memberFields members)).DistinctKeys := by
  rw [memberFields_eq_map]
  refine .object ?_ ?_
  · simpa [Table.Distinct, Table.names, List.map_map, Function.comp_def] using hnames
  · intro field hfield
    obtain ⟨entry, hentry, rfl⟩ := List.mem_map.mp hfield
    exact hmembers entry hentry

theorem distinctKeys_struct (notes : Notes) (structType : Option String)
    {inline : Option Members}
    (hinline : FieldsWithin ["functions"] (inlineEntry inline)) :
    (Member.struct notes structType inline).toJson.DistinctKeys := by
  rw [Member.toJson]
  exact ((((FieldsWithin.text "type" _).append (.text "struct_type" _)).append hinline).append
    (fieldsWithin_notes notes)).object (by decide)

theorem distinctKeys_toJson {member : Member} (hmember : member.WellFormed) :
    member.toJson.DistinctKeys := by
  induction hmember with
  | @value notes tag htag =>
    rw [Member.toJson]
    exact ((FieldsWithin.text "type" tag).append (fieldsWithin_notes notes)).object (by decide)
  | struct htype => exact distinctKeys_struct _ _ ⟨List.nil_sublist _, by simp [inlineEntry]⟩
  | carrying htype hnames hinline ih =>
    exact distinctKeys_struct _ _ (.single "functions" (distinctKeys_memberFields hnames ih))

theorem distinctKeys_members {members : Members}
    (hmembers : Table.Proper Member.WellFormed members) :
    (Value.object (memberFields members)).DistinctKeys :=
  distinctKeys_memberFields hmembers.distinct fun entry hentry =>
    distinctKeys_toJson (hmembers.entries entry hentry)

theorem MemberGroup.distinctKeys_toFields {group : MemberGroup}
    (hgroup : Table.Proper Member.WellFormed group.members) :
    (Value.object group.toFields).DistinctKeys :=
  ((FieldsWithin.single "functions" (distinctKeys_members hgroup)).append
    (.text "description" _)).object (by decide)

theorem Runtime.distinctKeys_toFields {runtime : Runtime}
    (hruntime : Table.Proper Member.WellFormed runtime.query) :
    (Value.object runtime.toFields).DistinctKeys :=
  (((FieldsWithin.single "query" (distinctKeys_members hruntime)).append
    (.text "description" _)).append (.text "category" _)).object (by decide)

theorem Composition.distinctKeys_toFields {composition : Composition}
    (hcomposition : Table.Proper Member.WellFormed composition.customFunctions) :
    (Value.object composition.toFields).DistinctKeys := by
  have hregistries : (Value.list (composition.registries.map .text)).DistinctKeys := by
    refine .list fun item hitem => ?_
    obtain ⟨name, _, rfl⟩ := List.mem_map.mp hitem
    exact .text name
  exact (((FieldsWithin.single "registries" hregistries).append
    (.single "custom_functions" (distinctKeys_members hcomposition))).append
      (.text "description" _)).object (by decide)

theorem fieldsWithin_definitionEntry {α : Type} (key : String)
    {write : α → List (String × Value)} {p : α → Prop} {table : Table α}
    (htable : Table.Proper p table) (hwrite : ∀ a, p a → (Value.object (write a)).DistinctKeys) :
    FieldsWithin [key] (definitionEntry key write table) := by
  apply FieldsWithin.single
  refine .object ?_ ?_
  · simpa [Table.Distinct, Table.names, List.map_map, Function.comp_def] using htable.distinct
  · intro field hfield
    obtain ⟨entry, hentry, rfl⟩ := List.mem_map.mp hfield
    exact hwrite entry.2 (htable.entries entry hentry)

theorem Document.distinctKeys_toFields {doc : Document} (hdoc : doc.WellFormed) :
    (Value.object doc.toFields).DistinctKeys := by
  have hstructs := fieldsWithin_definitionEntry "structs" hdoc.structs
    fun _ => MemberGroup.distinctKeys_toFields
  have hsets := fieldsWithin_definitionEntry "function_sets" hdoc.functionSets
    fun _ => MemberGroup.distinctKeys_toFields
  have hruntimes := fieldsWithin_definitionEntry "runtimes" hdoc.runtimes
    fun _ => Runtime.distinctKeys_toFields
  have hcompositions := fieldsWithin_definitionEntry "structCompositions" hdoc.compositions
    fun _ => Composition.distinctKeys_toFields
  exact (((hstructs.append hsets).append hruntimes).append hcompositions).object (by decide)

/-- An object with distinct keys declares a well-formed document, which is decoded from it if the
stack is enough. The documents decoded from such objects are the well-formed ones that the stack is
enough for, each of them and nothing else; it takes three calls for every level of maps that members
carry. -/
theorem Document.range_ofJson (stack : Stack) :
    (∀ fields, (Value.object fields).DistinctKeys →
      (Document.ofFields fields).WellFormed ∧
      Document.ofJson stack (.object fields) =
        if stack.frames < (Document.ofFields fields).calls stack then .error .tooDeep
        else .ok (Document.ofFields fields)) ∧
    (∀ doc, (∃ fields, (Value.object fields).DistinctKeys ∧
        Document.ofJson stack (.object fields) = .ok doc) ↔
      doc.WellFormed ∧ doc.calls stack ≤ stack.frames) ∧
    ∀ doc : Document, 3 * doc.levels ≤ doc.calls stack ∧
      doc.calls stack ≤ 3 * doc.levels + (stack.leaf + 7) := by
  refine ⟨fun fields hfields => ⟨wellFormed_ofFields hfields, rfl⟩, fun doc => ⟨?_, ?_⟩,
    fun doc => ⟨doc.le_calls stack, doc.calls_le stack⟩⟩
  · rintro ⟨fields, hfields, hdoc⟩
    rw [Document.ofJson] at hdoc
    split at hdoc
    · cases hdoc
    · next hroom =>
      cases hdoc
      exact ⟨wellFormed_ofFields hfields, Nat.not_lt.mp hroom⟩
  · rintro ⟨hdoc, hroom⟩
    refine ⟨doc.toFields, doc.distinctKeys_toFields hdoc, ?_⟩
    rw [Document.ofJson, Document.ofFields_toFields hdoc, if_neg (Nat.not_lt.mpr hroom)]

/-- The usual stack is not enough for a well-formed document with 360 levels. -/
theorem Document.not_decoded_deepDocument :
    (deepDocument 360).WellFormed ∧
      ¬∃ fields, (Value.object fields).DistinctKeys ∧
        Document.ofJson .usual (.object fields) = .ok (deepDocument 360) := by
  refine ⟨wellFormed_deepDocument 360, ?_⟩
  rintro ⟨fields, -, hdoc⟩
  have hcalls : Stack.usual.frames < (deepDocument 360).calls .usual :=
    lt_calls_deepDocument (by decide)
  rw [Document.ofJson] at hdoc
  split at hdoc
  · cases hdoc
  · next hroom =>
    rw [Except.ok.inj hdoc] at hroom
    exact hroom hcalls

end MolangAssist.Schema
