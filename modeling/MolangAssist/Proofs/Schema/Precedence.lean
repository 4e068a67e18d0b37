import MolangAssist.Proofs.RankedTables
import MolangAssist.Proofs.Schema.Walk
import MolangAssist.Proofs.Schema.WellFormed

/-!
# Ranks of members

The members listed for a struct member that carries members itself are merged in two stages: first
those of its type, then these behind its own. The result is one flat ranking in four tiers: carried
members, own members of the type, its function sets in order, and the functions of its composition.
-/
namespace MolangAssist.Schema

open Text

namespace Document

/-! ## Tiers -/

def ownMembers (doc : Document) (type : String) : Members :=
  (Table.get? doc.structs type).elim [] MemberGroup.members

/-- The members of the function sets that the composition of a type lists, as far as they are
declared. -/
def registryMembers (doc : Document) (type : String) : List Members :=
  ((Table.get? doc.compositions type).elim [] Composition.registries).filterMap fun name =>
    (Table.get? doc.functionSets name).map MemberGroup.members

def customMembers (doc : Document) (type : String) : Members :=
  (Table.get? doc.compositions type).elim [] Composition.customFunctions

/-- The tiers of a struct member that carries members and refers to a type. A tier that nothing
declares is empty. -/
def tiers (doc : Document) (inline : Members) (type : String) : List Members :=
  inline :: doc.ownMembers type :: doc.registryMembers type ++ [doc.customMembers type]

/-- Sources that are not declared are left out, tiers are empty then. -/
theorem flatten_sourcesFor (doc : Document) (type : String) :
    (doc.sourcesFor type).flatten =
      (doc.ownMembers type :: doc.registryMembers type ++ [doc.customMembers type]).flatten := by
  rw [sourcesFor, ownMembers, registryMembers, customMembers]
  cases Table.get? doc.structs type <;> cases Table.get? doc.compositions type <;>
    simp [List.map_filterMap]

/-- The two stages of merging make one. -/
theorem mergeRanked_functionsFor (doc : Document) (inline : Members) {type : String}
    (htype : type ≠ "") :
    Table.mergeRanked [inline, doc.functionsFor (some type)] =
      Table.mergeRanked (doc.tiers inline type) := by
  have hpresent : present? (some type) = some type :=
    present?_of_ne_empty fun hempty => htype (Option.some.inj hempty)
  have hflat : (doc.tiers inline type).flatten = inline ++ (doc.sourcesFor type).flatten := by
    rw [tiers, flatten_sourcesFor, List.cons_append, List.flatten_cons]
  rw [functionsFor, hpresent, Table.mergeRanked_pair]
  simp only [Table.mergeRanked]
  rw [Table.keepFirst_append_keepFirst, hflat]

/-- A name comes from the first tier that has it. -/
theorem get?_tiers (doc : Document) (inline : Members) (type name : String) :
    Table.get? (Table.mergeRanked (doc.tiers inline type)) name =
      (Table.get? inline name).or ((Table.get? (doc.ownMembers type) name).or
        (((doc.registryMembers type).findSome? (Table.get? · name)).or
          (Table.get? (doc.customMembers type) name))) := by
  have hcons : ∀ (source : Members) (rest : List Members),
      (source :: rest).findSome? (Table.get? · name) =
        (Table.get? source name).or (rest.findSome? (Table.get? · name)) := by
    intro source rest
    rw [List.findSome?_cons]
    cases Table.get? source name <;> rfl
  rw [Table.get?_mergeRanked, tiers, List.cons_append, List.cons_append, hcons, hcons,
    List.findSome?_append, List.findSome?_singleton]

/-! ## Members that a walk comes to -/

variable {doc : Document}

/-- All members of a list are well-formed. -/
def AllWellFormed (members : Members) : Prop := ∀ entry ∈ members, entry.2.WellFormed

theorem allWellFormed_mergeRanked {sources : List Members}
    (hsources : ∀ source ∈ sources, AllWellFormed source) :
    AllWellFormed (Table.mergeRanked sources) := by
  intro entry hentry
  obtain ⟨source, hsource, hmem⟩ := Table.mem_of_mem_mergeRanked hentry
  exact hsources source hsource entry hmem

theorem allWellFormed_sourcesFor (hdoc : doc.WellFormed) (type : String) :
    ∀ source ∈ doc.sourcesFor type, AllWellFormed source := by
  intro source hsource
  rw [sourcesFor, List.mem_append] at hsource
  rcases hsource with hown | hcomposed
  · cases hgroup : Table.get? doc.structs type with
    | none => simp [hgroup] at hown
    | some group =>
      have hsame : source = group.members := by simpa [hgroup] using hown
      rw [hsame]
      exact (hdoc.structs.entries _ (Table.mem_of_get? hgroup)).entries
  · cases hcomposition : Table.get? doc.compositions type with
    | none => simp [hcomposition] at hcomposed
    | some composition =>
      simp only [hcomposition, List.mem_append, List.mem_singleton, List.mem_map,
        List.mem_filterMap] at hcomposed
      rcases hcomposed with ⟨group, ⟨name, _, hgroup⟩, rfl⟩ | rfl
      · exact (hdoc.functionSets.entries _ (Table.mem_of_get? hgroup)).entries
      · exact (hdoc.compositions.entries _ (Table.mem_of_get? hcomposition)).entries

theorem allWellFormed_functionsFor (hdoc : doc.WellFormed) (structType : Option String) :
    AllWellFormed (doc.functionsFor structType) := by
  rw [functionsFor]
  split
  · exact allWellFormed_mergeRanked (allWellFormed_sourcesFor hdoc _)
  · simp [AllWellFormed]

theorem allWellFormed_runtimeQuery (hdoc : doc.WellFormed) (id : String) :
    AllWellFormed (doc.runtimeQuery id) := by
  rw [runtimeQuery]
  split
  · next runtime hruntime => exact (hdoc.runtimes.entries _ (Table.mem_of_get? hruntime)).entries
  · simp [AllWellFormed]

theorem wellFormed_of_variable (hdoc : doc.WellFormed) {context : Option String} {root : String}
    {member : Member} (hvariable : Table.get? (doc.queryVariables context) root = some member) :
    member.WellFormed := by
  rw [queryVariables] at hvariable
  split at hvariable
  · exact allWellFormed_runtimeQuery hdoc _ _ (Table.mem_of_get? hvariable)
  · have hmem := Table.mem_of_mem_overlay (Table.mem_of_get? hvariable)
    obtain ⟨runtime, _, hquery⟩ := List.mem_flatMap.mp hmem
    exact allWellFormed_runtimeQuery hdoc _ _ hquery

theorem allWellFormed_membersBehind (hdoc : doc.WellFormed) {member : Member}
    (hmember : member.WellFormed) : AllWellFormed (doc.membersBehind member) := by
  cases hmember with
  | value htag => simp [AllWellFormed, membersBehind]
  | struct htype => exact allWellFormed_functionsFor hdoc _
  | carrying htype hnames hinline =>
    apply allWellFormed_mergeRanked
    simp only [List.mem_cons, List.not_mem_nil, or_false]
    rintro source (rfl | rfl)
    · exact hinline
    · exact allWellFormed_functionsFor hdoc _

/-- The invariant of a walk: the member it stands at and all members it can go on to are
well-formed. -/
structure SoundAt (doc : Document) (walk : Walk) : Prop where
  entry : ∀ member, (walk.finish doc).entry = some member → member.WellFormed
  scope : AllWellFormed (walk.scope doc)

theorem soundAt_ofMember (hdoc : doc.WellFormed) {member : Member} (hmember : member.WellFormed) :
    doc.SoundAt (Walk.ofMember doc member) where
  entry := by
    rw [Walk.finish_ofMember]
    rintro other ⟨⟩
    exact hmember
  scope := by
    rw [Walk.scope_ofMember]
    exact allWellFormed_membersBehind hdoc hmember

theorem soundAt_root? (hdoc : doc.WellFormed) {context : Option String} {root : String}
    {walk : Walk} (hroot : doc.root? context root = some walk) : doc.SoundAt walk := by
  rcases root?_cases hroot with ⟨member, hvariable, rfl⟩ | ⟨_, _, rfl⟩
  · refine ⟨?_, ?_⟩
    · rw [Walk.finish_ofRoot]
      rintro other ⟨⟩
      exact wellFormed_of_variable hdoc hvariable
    · cases member with
      | value notes tag => simp [AllWellFormed, Walk.ofRoot, Walk.scope]
      | struct notes structType inline => exact allWellFormed_functionsFor hdoc _
  · exact ⟨by simp [Walk.ofStruct, Walk.finish], allWellFormed_functionsFor hdoc _⟩

/-- Every walk along a chain keeps the invariant. -/
theorem soundAt_walkTo? (hdoc : doc.WellFormed) {context : Option String} {path : List String}
    {walk : Walk} (hwalk : doc.walkTo? context path = some walk) : doc.SoundAt walk := by
  induction path using List.reverseRecOn generalizing walk with
  | nil => cases hwalk
  | append_singleton init last ih =>
    by_cases hinit : init = []
    · subst hinit
      rw [List.nil_append, walkTo?] at hwalk
      exact soundAt_root? hdoc (by simpa using hwalk)
    · rw [walkTo?_snoc doc context hinit] at hwalk
      obtain ⟨here, hhere, hstep⟩ := Option.bind_eq_some_iff.mp hwalk
      obtain ⟨member, hmember, hnext⟩ := Option.bind_eq_some_iff.mp hstep
      have hsound : member.WellFormed := (ih hhere).scope _ (Table.mem_of_get? hmember)
      rw [Walk.ofMember?] at hnext
      split at hnext
      · cases hnext
      · cases hnext
        exact soundAt_ofMember hdoc hsound

theorem wellFormed_of_resolve? (hdoc : doc.WellFormed) {context : Option String}
    {path : List String} {member : Member} {members : Members}
    (hreached : doc.resolve? context path = some ⟨some member, members⟩) : member.WellFormed := by
  rw [resolve?_eq_walkTo?] at hreached
  obtain ⟨walk, hwalk, hfinish⟩ := Option.map_eq_some_iff.mp hreached
  exact (soundAt_walkTo? hdoc hwalk).entry member (by rw [hfinish])

/-! ## Listings -/

/-- What is listed for a struct member that carries members, at the root of a chain or behind
it. -/
theorem members_of_carrying {context : Option String} {path : List String} {notes : Notes}
    {structType : Option String} {inline members : Members}
    (hreached : doc.resolve? context path =
      some ⟨some (.struct notes structType (some inline)), members⟩) :
    members = Table.mergeRanked [inline, doc.functionsFor structType] := by
  rw [resolve?_eq_walkTo?] at hreached
  obtain ⟨walk, hwalk, hfinish⟩ := Option.map_eq_some_iff.mp hreached
  rcases walkTo?_cases hwalk with ⟨root, _, hroot⟩ | ⟨_, member, rfl⟩
  · rcases root?_cases hroot with ⟨member, _, rfl⟩ | ⟨_, _, rfl⟩
    · rw [Walk.finish_ofRoot] at hfinish
      cases hfinish
      rfl
    · cases hfinish
  · rw [Walk.finish_ofMember] at hfinish
    cases hfinish
    rfl

/-- Merging by rank keeps the first entry under each name, in the order of first mention, and is
flat. So a struct member that carries members lists four tiers in a fixed order. -/
theorem listing_by_rank :
    (∀ sources : List Members,
      let merged := Table.mergeRanked sources
      let mentioned := sources.flatMap Table.names
      Table.Distinct merged ∧
      (∀ name, name ∈ Table.names merged ↔ name ∈ mentioned) ∧
      (Table.names merged).Pairwise (fun a b => mentioned.idxOf a < mentioned.idxOf b) ∧
      ∀ name, Table.get? merged name = sources.findSome? (Table.get? · name)) ∧
    (∀ first second : List Members, Table.mergeRanked (first ++ second) =
      Table.mergeRanked [Table.mergeRanked first, Table.mergeRanked second]) ∧
    (∀ (before : List Members) (source : Members) (after : List Members), source ∈ before →
      Table.mergeRanked (before ++ source :: after) = Table.mergeRanked (before ++ after)) ∧
    ∀ (doc : Document) (context : Option String) (path : List String) (notes : Notes)
      (type : String) (inline members : Members), doc.WellFormed →
      doc.resolve? context path =
        some ⟨some (.struct notes (some type) (some inline)), members⟩ →
      members = Table.mergeRanked (inline :: doc.ownMembers type ::
        doc.registryMembers type ++ [doc.customMembers type]) ∧
      ∀ name, Table.get? members name =
        (Table.get? inline name).or ((Table.get? (doc.ownMembers type) name).or
          (((doc.registryMembers type).findSome? (Table.get? · name)).or
            (Table.get? (doc.customMembers type) name))) := by
  refine ⟨?_, Table.mergeRanked_append, ?_, ?_⟩
  · intro sources merged mentioned
    have hmentioned : mentioned = Table.names sources.flatten := by
      simp only [mentioned, Table.names, List.map_flatten, List.flatMap_def]
      rfl
    rw [hmentioned]
    exact ⟨Table.distinct_mergeRanked sources, fun _ => Table.mem_names_keepFirst,
      Table.names_keepFirst_pairwise _, Table.get?_mergeRanked sources⟩
  · intro before source after hsource
    exact Table.mergeRanked_again hsource after
  · intro doc context path notes type inline members hdoc hreached
    have htype : type ≠ "" := by
      rintro rfl
      cases wellFormed_of_resolve? hdoc hreached with
      | carrying hempty => exact hempty rfl
    have hmembers : members = Table.mergeRanked (doc.tiers inline type) := by
      rw [members_of_carrying hreached, mergeRanked_functionsFor doc inline htype]
    refine ⟨hmembers, fun name => ?_⟩
    rw [hmembers, get?_tiers]

/-- A type without a struct definition, whose composition lists one function set twice and another
one that is not declared. -/
def composedPlayer : Document where
  functionSets := [("talk", { members := [("tell", .value {} none), ("rank", .value {} none)] })]
  runtimes := [("event:A", { query :=
    [("player", .struct {} (some "player") (some [("name", .value {} none)]))] })]
  compositions := [("player",
    { registries := ["talk", "gone", "talk"]
      customFunctions := [("rank", .value {} (some "Number")), ("name", .value {} none),
        ("home", .value {} none)] })]

theorem wellFormed_composedPlayer : composedPlayer.WellFormed := by
  have hvalue : ∀ tag : Option String, tag ≠ some "Struct" → (Member.value {} tag).WellFormed :=
    fun tag htag => .value htag
  have hplayer : (Member.struct {} (some "player") (some [("name", .value {} none)])).WellFormed :=
    .carrying (by decide) (by decide) (by simp [hvalue])
  refine ⟨Table.Proper.nil _, ⟨by decide, ?_⟩, ⟨by decide, ?_⟩, ⟨by decide, ?_⟩⟩
  · simp only [composedPlayer, List.mem_singleton, forall_eq]
    exact ⟨by decide, by simp [hvalue]⟩
  · simp only [composedPlayer, List.mem_singleton, forall_eq]
    exact ⟨by decide, by simp [hplayer]⟩
  · simp only [composedPlayer, List.mem_singleton, forall_eq]
    exact ⟨by decide, by simp [hvalue]⟩

theorem listing_by_rank_composedPlayer :
    ∃ members, composedPlayer.resolve? (some "event:A") ["player"] =
        some ⟨some (.struct {} (some "player") (some [("name", .value {} none)])), members⟩ ∧
      members = Table.mergeRanked [[("name", .value {} none)], [],
        [("tell", .value {} none), ("rank", .value {} none)],
        [("tell", .value {} none), ("rank", .value {} none)],
        [("rank", .value {} (some "Number")), ("name", .value {} none), ("home", .value {} none)]] ∧
      Table.names members = ["name", "tell", "rank", "home"] ∧
      Table.get? members "rank" = some (.value {} none) := by
  obtain ⟨_, _, _, hlisting⟩ := listing_by_rank
  obtain ⟨hmembers, hranks⟩ := hlisting composedPlayer (some "event:A") ["player"] {} "player"
    [("name", .value {} none)] _ wellFormed_composedPlayer rfl
  refine ⟨_, rfl, hmembers, rfl, ?_⟩
  rw [hranks]
  rfl

end Document

end MolangAssist.Schema
