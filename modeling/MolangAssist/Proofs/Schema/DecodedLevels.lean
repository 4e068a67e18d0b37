import MolangAssist.Proofs.Schema.KeptFragments

/-!
# The levels of a decoded document

Each map in a schema document, from the collections of definitions down to what members carry at
any depth, is decoded from one raw map. Its names are those of the objects in there, and an entry
depends on the raw value under its name alone.
-/
namespace MolangAssist.Schema

open Json (Value)

theorem distinctKeys_of_value_get? {v w : Value} {key : String} (hv : v.DistinctKeys)
    (hget : v.get? key = some w) : w.DistinctKeys := by
  cases v with
  | object fields => exact hv.get? hget
  | _ => cases hget

theorem distinctKeys_cons {key : String} {v : Value} {rest : List (String × Value)}
    (hfresh : key ∉ Table.names rest) (hv : v.DistinctKeys)
    (hrest : (Value.object rest).DistinctKeys) :
    (Value.object ((key, v) :: rest)).DistinctKeys := by
  refine .object (List.nodup_cons.mpr ⟨hfresh, hrest.proper.distinct⟩) ?_
  exact List.forall_mem_cons.mpr ⟨hv, hrest.proper.entries⟩

/-- The names of the objects among the entries of a raw map, in order. -/
def objectNames (raw : Option Value) : List String :=
  Table.names (((raw.bind objectFields?).getD []).filter fun entry =>
    (objectFields? entry.2).isSome)

/-- A table has the names of the objects in a raw map, in their order, and `read` makes each entry
out of the raw value under its name. -/
structure ReadFrom {α : Type} (read : Value → Option α) (raw : Option Value)
    (table : Table α) : Prop where
  names : Table.names table = objectNames raw
  get? : ∀ name, Table.get? table name = (raw.bind fun v => v.get? name).bind read

theorem readFrom_readEntries {α : Type} {read : Value → Option α}
    (hread : ∀ v, (read v).isSome = (objectFields? v).isSome) {raw : Option Value}
    (hraw : ∀ v, raw = some v → v.DistinctKeys) :
    ReadFrom read raw ((raw.bind (readEntries read)).getD []) := by
  cases raw with
  | none => exact ⟨rfl, fun name => rfl⟩
  | some v =>
    cases v with
    | object fields =>
      refine ⟨?_, fun name => ?_⟩
      · have hobjects : (fun entry : String × Value => (read entry.2).isSome) =
            fun entry => (objectFields? entry.2).isSome := funext fun entry => hread entry.2
        exact (Table.names_filterMap read fields).trans (by rw [hobjects]; rfl)
      · exact (hraw _ rfl).proper.distinct.get?_filterMap (fun _ => read) name
    | _ => exact ⟨rfl, fun name => rfl⟩

theorem isSome_decodeMember? (v : Value) :
    (decodeMember? v).isSome = (objectFields? v).isSome := by
  cases v with
  | object fields =>
    rw [decodeMember?]
    split <;> rfl
  | _ => rfl

theorem inline_of_decodeMember? {fields : List (String × Value)} {notes : Notes}
    {structType : Option String} {inline : Option Members}
    (hmember : decodeMember? (.object fields) = some (.struct notes structType inline)) :
    inline = decodeInline? fields := by
  rw [decodeMember?] at hmember
  split at hmember
  · injection hmember with hstruct
    injection hstruct with _ _ hinline
    exact hinline.symm
  · cases hmember

theorem readFrom_definitions {α : Type} {fields : List (String × Value)}
    (hfields : (Value.object fields).DistinctKeys) (key : String)
    (read : List (String × Value) → α) :
    ReadFrom (readObject read) (Table.get? fields key) (definitions fields key read) := by
  rw [definitions_eq_readEntries]
  exact readFrom_readEntries (fun v => Option.isSome_map) fun v hv => hfields.get? hv

theorem readFrom_decodeMap? {raw : Option Value} (hraw : ∀ v, raw = some v → v.DistinctKeys) :
    ReadFrom decodeMember? raw ((raw.bind decodeMap?).getD []) := by
  rw [decodeMap?_eq]
  exact readFrom_readEntries isSome_decodeMember? hraw

/-- A raw map of members, and the members decoded from it, anywhere in a document. -/
inductive MemberLevel (fields : List (String × Value)) (doc : Document) :
    Option Value → Members → Prop
  | struct {name : String} {inner : List (String × Value)} {group : MemberGroup}
      (hraw : (Table.get? fields "structs").bind (·.get? name) = some (.object inner))
      (hgroup : Table.get? doc.structs name = some group) :
      MemberLevel fields doc (Table.get? inner "functions") group.members
  | functionSet {name : String} {inner : List (String × Value)} {group : MemberGroup}
      (hraw : (Table.get? fields "function_sets").bind (·.get? name) = some (.object inner))
      (hgroup : Table.get? doc.functionSets name = some group) :
      MemberLevel fields doc (Table.get? inner "functions") group.members
  | runtime {name : String} {inner : List (String × Value)} {runtime : Runtime}
      (hraw : (Table.get? fields "runtimes").bind (·.get? name) = some (.object inner))
      (hruntime : Table.get? doc.runtimes name = some runtime) :
      MemberLevel fields doc (Table.get? inner "query") runtime.query
  | composition {name : String} {inner : List (String × Value)} {composition : Composition}
      (hraw : (Table.get? fields "structCompositions").bind (·.get? name) = some (.object inner))
      (hcomposition : Table.get? doc.compositions name = some composition) :
      MemberLevel fields doc (Table.get? inner "custom_functions") composition.customFunctions
  | carried {raw : Option Value} {members : Members} {name : String}
      {inner : List (String × Value)} {notes : Notes} {structType : Option String}
      {carried : Members} (hlevel : MemberLevel fields doc raw members)
      (hraw : raw.bind (·.get? name) = some (.object inner))
      (hmember : Table.get? members name = some (.struct notes structType (some carried))) :
      MemberLevel fields doc (Table.get? inner "functions") carried

/-- The definition under a name is read from the raw object under it, and so are its members. -/
theorem readFrom_of_definition {α : Type} {fields inner : List (String × Value)}
    (hfields : (Value.object fields).DistinctKeys) {key membersKey name : String}
    {read : List (String × Value) → α} {a : α} {membersOf : α → Members}
    (hmembers : ∀ raw, membersOf (read raw) = membersField raw membersKey)
    (hraw : (Table.get? fields key).bind (·.get? name) = some (.object inner))
    (ha : Table.get? (definitions fields key read) name = some a) :
    (∀ v, Table.get? inner membersKey = some v → v.DistinctKeys) ∧
      ReadFrom decodeMember? (Table.get? inner membersKey) (membersOf a) := by
  obtain ⟨collection, hcollection, hentry⟩ := Option.bind_eq_some_iff.mp hraw
  have hinner : (Value.object inner).DistinctKeys :=
    distinctKeys_of_value_get? (hfields.get? hcollection) hentry
  have hvalues : ∀ v, Table.get? inner membersKey = some v → v.DistinctKeys :=
    fun v hv => hinner.get? hv
  rw [(readFrom_definitions hfields key read).get?, hraw] at ha
  have hread : read inner = a := Option.some.inj ha
  rw [← hread, hmembers]
  exact ⟨hvalues, readFrom_decodeMap? hvalues⟩

/-- The induction goes down the levels; that keys are distinct comes down with it. -/
theorem MemberLevel.readFrom {fields : List (String × Value)}
    (hfields : (Value.object fields).DistinctKeys) {raw : Option Value} {members : Members}
    (hlevel : MemberLevel fields (Document.ofFields fields) raw members) :
    (∀ v, raw = some v → v.DistinctKeys) ∧ ReadFrom decodeMember? raw members := by
  induction hlevel with
  | struct hraw hgroup => exact readFrom_of_definition hfields (fun _ => rfl) hraw hgroup
  | functionSet hraw hgroup => exact readFrom_of_definition hfields (fun _ => rfl) hraw hgroup
  | runtime hraw hruntime => exact readFrom_of_definition hfields (fun _ => rfl) hraw hruntime
  | composition hraw hcomposition =>
    exact readFrom_of_definition hfields (fun _ => rfl) hraw hcomposition
  | @carried raw members name inner notes structType carried _ hraw hmember ih =>
    obtain ⟨hdistinct, hread⟩ := ih
    obtain ⟨v, hv, hentry⟩ := Option.bind_eq_some_iff.mp hraw
    have hinner : (Value.object inner).DistinctKeys :=
      distinctKeys_of_value_get? (hdistinct v hv) hentry
    have hvalues : ∀ w, Table.get? inner "functions" = some w → w.DistinctKeys :=
      fun w hw => hinner.get? hw
    rw [hread.get?, hraw, Option.bind_some] at hmember
    have hinline : (Table.get? inner "functions").bind decodeMap? = some carried := by
      rw [← decodeInline?_eq, ← inline_of_decodeMember? hmember]
    have hcarried := readFrom_decodeMap? hvalues
    rw [hinline, Option.getD_some] at hcarried
    exact ⟨hvalues, hcarried⟩

/-- Decoding drops fragments of a wrong shape and nothing else. It fails only at a root that is no
object, or if the stack is not enough for what an object declares. A clean-up does not change what
comes of it, and all that it leaves is in the document. The names at every level are those of the
raw objects, whose values are decoded one by one. -/
theorem Document.ofJson_drops_wrong_shapes (stack : Stack) :
    (∀ v, (∃ why, Document.ofJson stack v = .error why) ↔
      (∀ fields, v ≠ .object fields) ∨
        ∃ fields, v = .object fields ∧ stack.frames < (Document.ofFields fields).calls stack) ∧
    ∀ fields, (Value.object fields).DistinctKeys →
      let doc := Document.ofFields fields
      (doc.calls stack ≤ stack.frames → Document.ofJson stack (.object fields) = .ok doc) ∧
      Document.ofJson stack (.object (cleanRecord .document fields)) =
        Document.ofJson stack (.object fields) ∧
      (Value.object (cleanRecord .document fields)).Within (.object doc.toFields) ∧
      ReadFrom (readObject MemberGroup.ofFields) (Table.get? fields "structs") doc.structs ∧
      ReadFrom (readObject MemberGroup.ofFields) (Table.get? fields "function_sets")
        doc.functionSets ∧
      ReadFrom (readObject Runtime.ofFields) (Table.get? fields "runtimes") doc.runtimes ∧
      ReadFrom (readObject Composition.ofFields) (Table.get? fields "structCompositions")
        doc.compositions ∧
      ∀ raw members, MemberLevel fields doc raw members → ReadFrom decodeMember? raw members := by
  constructor
  · intro v
    cases v with
    | object fields =>
      by_cases hdeep : stack.frames < (Document.ofFields fields).calls stack <;>
        simp [Document.ofJson, hdeep]
    | _ => simp [Document.ofJson]
  · intro fields hfields doc
    refine ⟨fun hroom => if_neg (Nat.not_lt.mpr hroom), ?_,
      Document.within_cleanRecord hfields,
      readFrom_definitions hfields _ _, readFrom_definitions hfields _ _,
      readFrom_definitions hfields _ _, readFrom_definitions hfields _ _,
      fun raw members hlevel => (hlevel.readFrom hfields).2⟩
    simp only [Document.ofJson, Document.ofFields_cleanRecord hfields]

/-- A schema with something wrong at every level: a collection, a definition, a member, a text and
a key, and a value with members. -/
def brokenPokemon : List (String × Value) :=
  [("structs", .object
      [("pokemon", .object
        [("functions", .object
          [("level", .object [("type", .text "Number"), ("source", .int 3),
            ("functions", .object [])]),
           ("junk", .int 1)]),
         ("note", .null)]),
       ("broken", .list [])]),
    ("runtimes", .text "none")]

theorem Document.ofJson_drops_wrong_shapes_brokenPokemon :
    cleanRecord .document brokenPokemon = [("structs", .object [("pokemon", .object
        [("functions", .object [("level", .object [("type", .text "Number")])])])])] ∧
      ∃ doc, Document.ofJson .usual (.object brokenPokemon) = .ok doc ∧
        Document.ofJson .usual (.object (cleanRecord .document brokenPokemon)) = .ok doc ∧
        Table.names doc.structs = ["pokemon"] := by
  have hempty : (Value.object []).DistinctKeys := .object List.nodup_nil (by simp)
  have hlevel : (Value.object [("type", .text "Number"), ("source", .int 3),
      ("functions", .object [])]).DistinctKeys :=
    distinctKeys_cons (by decide) (.text _) <| distinctKeys_cons (by decide) (.int _) <|
      distinctKeys_cons (by decide) hempty hempty
  have hmembers : (Value.object [("level", .object [("type", .text "Number"), ("source", .int 3),
      ("functions", .object [])]), ("junk", .int 1)]).DistinctKeys :=
    distinctKeys_cons (by decide) hlevel <| distinctKeys_cons (by decide) (.int _) hempty
  have hfields : (Value.object brokenPokemon).DistinctKeys := by
    refine distinctKeys_cons (by decide) ?_ (distinctKeys_cons (by decide) (.text _) hempty)
    refine distinctKeys_cons (by decide) ?_
      (distinctKeys_cons (by decide) (.list (by simp)) hempty)
    exact distinctKeys_cons (by decide) hmembers (distinctKeys_cons (by decide) .null hempty)
  obtain ⟨hdecoded, hclean, _, hstructs, _⟩ :=
    (Document.ofJson_drops_wrong_shapes .usual).2 brokenPokemon hfields
  have hdoc := hdecoded (by decide)
  exact ⟨rfl, _, hdoc, hclean.trans hdoc, hstructs.names⟩

/-- An object may declare a document that the usual stack is not enough for. -/
theorem Document.ofJson_fails_on_deepDocument :
    (Value.object (deepDocument 360).toFields).DistinctKeys ∧
      Document.ofJson .usual (.object (deepDocument 360).toFields) = .error .tooDeep := by
  have hdoc := wellFormed_deepDocument 360
  have hcalls : Stack.usual.frames < (deepDocument 360).calls .usual :=
    lt_calls_deepDocument (by decide)
  refine ⟨Document.distinctKeys_toFields hdoc, ?_⟩
  rw [Document.ofJson, Document.ofFields_toFields hdoc, if_pos hcalls]

end MolangAssist.Schema
