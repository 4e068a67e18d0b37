import MolangAssist.Proofs.Schema.ChainCoherence
import MolangAssist.Proofs.Schema.ChainMeaning

/-!
# Fallback members

The custom functions of a composition rank last. So a schema that declares more of them, under new
names, gives every chain that could be resolved before the member it had, and every member that
could be found before is found unchanged.
-/
namespace MolangAssist.Schema

namespace Document

/-- The larger schema differs in compositions only. A type that has one keeps its function sets
and its custom functions, to which others may be added. A type that has none may get one, of custom
functions or of any kind, since the type's own members rank before all of it. -/
structure FallbackExtension (doc larger : Document) : Prop where
  structs : larger.structs = doc.structs
  functionSets : larger.functionSets = doc.functionSets
  runtimes : larger.runtimes = doc.runtimes
  composed : ∀ type composition, Table.get? doc.compositions type = some composition →
    ∃ grown, Table.get? larger.compositions type = some grown ∧
      grown.registries = composition.registries ∧
      Table.ExtendedBy composition.customFunctions grown.customFunctions

namespace FallbackExtension

variable {doc larger : Document}

theorem root?_eq (hlarger : FallbackExtension doc larger) (context : Option String)
    (root : String) : larger.root? context root = doc.root? context root := by
  simp only [root?, queryVariables, runtimeQuery, hlarger.structs, hlarger.runtimes]

theorem extendedBy_sourcesFor (hlarger : FallbackExtension doc larger) (type : String) :
    Table.ExtendedBy (Table.mergeRanked (doc.sourcesFor type))
      (Table.mergeRanked (larger.sourcesFor type)) := by
  simp only [sourcesFor, hlarger.structs, hlarger.functionSets]
  -- the members of the type itself come first in both schemas, so only what follows them counts
  apply Table.ExtendedBy.mergeRanked_append
  cases hcomposition : Table.get? doc.compositions type with
  | some composition =>
    obtain ⟨grown, hgrown, hregistries, hfunctions⟩ :=
      hlarger.composed type composition hcomposition
    simp only [hgrown, hregistries]
    exact hfunctions.mergeRanked_singleton.mergeRanked_append _
  | none => exact fun name entry hget => nomatch hget

theorem extendedBy_functionsFor (hlarger : FallbackExtension doc larger)
    (structType : Option String) :
    Table.ExtendedBy (doc.functionsFor structType) (larger.functionsFor structType) := by
  rw [functionsFor, functionsFor]
  cases Text.present? structType with
  | none => exact Table.ExtendedBy.refl []
  | some type => exact hlarger.extendedBy_sourcesFor type

theorem extendedBy_inlined (hlarger : FallbackExtension doc larger) (inline : Members)
    (structType : Option String) :
    Table.ExtendedBy (Table.mergeRanked [inline, doc.functionsFor structType])
      (Table.mergeRanked [inline, larger.functionsFor structType]) :=
  (hlarger.extendedBy_functionsFor structType).mergeRanked_singleton.mergeRanked_append [inline]

theorem extendedBy_membersBehind (hlarger : FallbackExtension doc larger) (member : Member) :
    Table.ExtendedBy (doc.membersBehind member) (larger.membersBehind member) := by
  match member with
  | .value _ _ => exact Table.ExtendedBy.refl []
  | .struct _ structType none => exact hlarger.extendedBy_functionsFor structType
  | .struct _ structType (some inline) => exact hlarger.extendedBy_inlined inline structType

theorem extendedBy_rootListing (hlarger : FallbackExtension doc larger) (root : String)
    (member : Member) :
    Table.ExtendedBy (doc.rootListing root member) (larger.rootListing root member) := by
  match member with
  | .value _ _ => exact Table.ExtendedBy.refl []
  | .struct _ _ none => exact hlarger.extendedBy_functionsFor _
  | .struct _ structType (some inline) => exact hlarger.extendedBy_inlined inline structType

/-- At a root, the next name is looked up among the same members or more, and as many are listed. -/
theorem extendedBy_root (hlarger : FallbackExtension doc larger) {context : Option String}
    {name : String} {walk : Walk} (hroot : doc.root? context name = some walk) :
    Table.ExtendedBy (walk.scope doc) (walk.scope larger) ∧
      ∃ members', walk.finish larger = ⟨(walk.finish doc).entry, members'⟩ ∧
        Table.ExtendedBy (walk.finish doc).members members' := by
  rcases root?_cases hroot with ⟨member, _, rfl⟩ | ⟨_, _, rfl⟩
  · rw [Walk.finish_ofRoot, Walk.finish_ofRoot]
    refine ⟨?_, _, rfl, hlarger.extendedBy_rootListing name member⟩
    cases member with
    | value notes tag => exact Table.ExtendedBy.refl []
    | struct notes structType inline => exact hlarger.extendedBy_functionsFor _
  · have hfunctions := hlarger.extendedBy_functionsFor (some name)
    exact ⟨hfunctions, _, rfl, hfunctions⟩

/-- No name of a descent is diverted. The induction goes over the names; each of them is looked up
in a scope that is larger than it was, and leads to the member to which it led. -/
theorem extendedBy_descend? (hlarger : FallbackExtension doc larger) {names : List String}
    {scope scope' : Members} (hscope : Table.ExtendedBy scope scope') {entry : Option Member}
    {members : Members} (hreached : doc.descend? scope names = some ⟨entry, members⟩) :
    ∃ members', larger.descend? scope' names = some ⟨entry, members'⟩ ∧
      Table.ExtendedBy members members' := by
  induction names generalizing scope scope' with
  | nil => cases hreached
  | cons name rest ih =>
    rw [descend?_cons] at hreached
    obtain ⟨member, hmember, hstep⟩ := Option.bind_eq_some_iff.mp hreached
    rw [descend?_cons, hscope name member hmember, Option.bind_some]
    by_cases hdead : member.isDeadEnd = true
    · rw [if_pos hdead] at hstep
      cases hstep
    · rw [if_neg hdead] at hstep ⊢
      by_cases hrest : rest = []
      · rw [if_pos hrest] at hstep ⊢
        cases hstep
        exact ⟨_, rfl, hlarger.extendedBy_membersBehind member⟩
      · rw [if_neg hrest] at hstep ⊢
        exact ih (hlarger.extendedBy_membersBehind member) hstep

theorem extendedBy_resolve? (hlarger : FallbackExtension doc larger) {context : Option String}
    {path : List String} {entry : Option Member} {members : Members}
    (hreached : doc.resolve? context path = some ⟨entry, members⟩) :
    ∃ members', larger.resolve? context path = some ⟨entry, members'⟩ ∧
      Table.ExtendedBy members members' := by
  match path with
  | [] => cases hreached
  | [name] =>
    rw [resolve?_eq_walkTo?] at hreached ⊢
    obtain ⟨walk, hwalk, hfinish⟩ := Option.map_eq_some_iff.mp hreached
    have hroot : doc.root? context name = some walk := by simpa [walkTo?] using hwalk
    obtain ⟨_, members', hfinish', hmembers⟩ := hlarger.extendedBy_root hroot
    have hwalk' : larger.walkTo? context [name] = some walk := by
      simp [walkTo?, hlarger.root?_eq, hroot]
    rw [hfinish] at hfinish' hmembers
    exact ⟨members', by rw [hwalk', Option.map_some, hfinish'], hmembers⟩
  | name :: next :: rest =>
    rw [resolve?_cons doc context name (List.cons_ne_nil next rest)] at hreached
    rw [resolve?_cons larger context name (List.cons_ne_nil next rest), hlarger.root?_eq]
    obtain ⟨walk, hroot, hdescent⟩ := Option.bind_eq_some_iff.mp hreached
    rw [hroot, Option.bind_some]
    exact hlarger.extendedBy_descend? (hlarger.extendedBy_root hroot).1 hdescent

theorem member?_eq_some (hlarger : FallbackExtension doc larger) {context : Option String}
    {path : List String} {member : Member} (hmember : doc.member? context path = some member) :
    larger.member? context path = some member := by
  rcases List.eq_nil_or_concat path with rfl | ⟨init, name, rfl⟩
  · cases hmember
  · rw [List.concat_eq_append] at hmember ⊢
    by_cases hinit : init = []
    · subst hinit
      rw [List.nil_append, member?_singleton] at hmember ⊢
      simpa only [queryVariables, runtimeQuery, hlarger.runtimes] using hmember
    · rw [member?_snoc doc context hinit] at hmember
      obtain ⟨here, hhere, hget⟩ := Option.bind_eq_some_iff.mp hmember
      obtain ⟨members', hhere', hmembers⟩ := hlarger.extendedBy_resolve? hhere
      rw [member?_snoc larger context hinit, hhere', Option.bind_some]
      exact hmembers name member hget

end FallbackExtension

/-- Custom functions under new names are a conservative extension of a schema. -/
theorem resolve?_of_fallbackExtension {doc larger : Document}
    (hlarger : FallbackExtension doc larger) (context : Option String) (path : List String) :
    (∀ entry members, doc.resolve? context path = some ⟨entry, members⟩ →
      ∃ members', larger.resolve? context path = some ⟨entry, members'⟩ ∧
        ∀ name ∈ Table.names members, Table.get? members' name = Table.get? members name) ∧
    ∀ member, doc.member? context path = some member →
      larger.member? context path = some member := by
  refine ⟨fun entry members hreached => ?_, fun member => hlarger.member?_eq_some⟩
  obtain ⟨members', hreached', hmembers⟩ := hlarger.extendedBy_resolve? hreached
  exact ⟨members', hreached', fun name hname => hmembers.get?_eq hname⟩

/-- A schema with one composition. -/
def composedPokemon : Document where
  structs := [("pokemon", { members := [("owner", .struct {} (some "player") none)] }),
    ("player", { members := [("name", .value {} (some "String"))] })]
  functionSets := [("entityFunctions", { members := [("x", .value {} (some "Number"))] })]
  compositions := [("pokemon", { registries := ["entityFunctions"]
                                 customFunctions := [("uuid", .value {} (some "String"))] })]

/-- The same schema with more custom functions, three of which take names that are found in
higher ranks, and with a composition for another type. -/
def composedMore : Document :=
  { composedPokemon with compositions := [
    ("player", { customFunctions := [("name", .value {} none), ("rank", .value {} none)] }),
    ("pokemon", { registries := ["entityFunctions"]
                  customFunctions := [("x", .value {} none), ("owner", .value {} none),
                    ("uuid", .value {} (some "String")), ("nick", .value {} none)] })] }

theorem resolve?_of_fallbackExtension_composedMore :
    FallbackExtension composedPokemon composedMore ∧
      composedPokemon.resolve? none ["pokemon", "owner"] =
        some ⟨some (.struct {} (some "player") none), [("name", .value {} (some "String"))]⟩ ∧
      (∃ members', composedMore.resolve? none ["pokemon", "owner"] =
          some ⟨some (.struct {} (some "player") none), members'⟩ ∧
        Table.get? members' "name" = some (.value {} (some "String"))) ∧
      composedMore.member? none ["pokemon", "x"] = some (.value {} (some "Number")) := by
  have hlarger : FallbackExtension composedPokemon composedMore := by
    refine ⟨rfl, rfl, rfl, ?_⟩
    intro type composition hcomposition
    obtain ⟨⟩ | ⟨_, ⟨⟩⟩ := Table.mem_of_get? hcomposition
    refine ⟨_, rfl, rfl, ?_⟩
    intro name entry hget
    obtain ⟨⟩ | ⟨_, ⟨⟩⟩ := Table.mem_of_get? hget
    rfl
  have hreached : composedPokemon.resolve? none ["pokemon", "owner"] =
    some ⟨some (.struct {} (some "player") none), [("name", .value {} (some "String"))]⟩ := rfl
  obtain ⟨members', hreached', hmembers⟩ :=
    (resolve?_of_fallbackExtension hlarger none ["pokemon", "owner"]).1 _ _ hreached
  refine ⟨hlarger, hreached, ⟨members', hreached', hmembers "name" (by decide)⟩, ?_⟩
  exact (resolve?_of_fallbackExtension hlarger none ["pokemon", "x"]).2 _ rfl

end Document

end MolangAssist.Schema
