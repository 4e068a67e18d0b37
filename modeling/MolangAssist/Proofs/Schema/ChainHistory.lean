import MolangAssist.Proofs.Schema.ChainMeaning

/-!
# Chains without a history

How a chain goes on depends on the place it has come to, not on the way there: neither on the
runtime, nor on the root, nor on the names passed on the way.
-/
namespace MolangAssist.Schema

open Text

namespace Document

/-- Only the first name of a descent is looked up in its scope, so scopes with the same look-ups
lead to the same places. -/
theorem descend?_congr (doc : Document) {scope other : Members}
    (hscope : ∀ name, Table.get? scope name = Table.get? other name) (names : List String) :
    doc.descend? scope names = doc.descend? other names := by
  cases names with
  | nil => rfl
  | cons name rest => rw [descend?_cons, descend?_cons, hscope]

/-- What stands behind a struct member is found by its struct type and by look-ups in what it
carries. -/
theorem get?_membersBehind_struct (doc : Document) (notes : Notes) (structType : Option String)
    (inline : Option Members) (name : String) :
    Table.get? (doc.membersBehind (.struct notes structType inline)) name =
      (inline.map (Table.get? · name)).join.or
        (Table.get? (doc.functionsFor structType) name) := by
  cases inline with
  | none => rfl
  | some carried => exact Table.get?_mergeRanked_pair carried (doc.functionsFor structType) name

/-- A chain of two or more names that leads to a member looks the next name up behind it. -/
theorem scope_of_resolve? {doc : Document} {context : Option String} {path : List String}
    {member : Member} {members : Members} (hlength : 2 ≤ path.length)
    (hreached : doc.resolve? context path = some ⟨some member, members⟩) :
    (doc.walkTo? context path).map (Walk.scope doc) = some (doc.membersBehind member) := by
  rw [resolve?_eq_walkTo?] at hreached
  obtain ⟨walk, hwalk, hfinish⟩ := Option.map_eq_some_iff.mp hreached
  rcases walkTo?_cases hwalk with ⟨root, rfl, _⟩ | ⟨_, last, rfl⟩
  · simp at hlength
  · rw [Walk.finish_ofMember] at hfinish
    cases hfinish
    rw [hwalk, Option.map_some, Walk.scope_ofMember]

/-- A chain goes on alike from any two struct members, however they were reached, that refer to
the same type and carry the same members, in whatever order. A query variable is as good as the
name of its struct type, since what it carries itself counts for no name behind it. -/
theorem resolve?_forgets_history (doc : Document) (context other : Option String)
    {names : List String} (hnames : names ≠ []) :
    (∀ path path' notes notes' structType inline inline' members members',
      2 ≤ path.length → 2 ≤ path'.length →
      doc.resolve? context path = some ⟨some (.struct notes structType inline), members⟩ →
      doc.resolve? other path' = some ⟨some (.struct notes' structType inline'), members'⟩ →
      (∀ name, inline.map (Table.get? · name) = inline'.map (Table.get? · name)) →
      doc.resolve? context (path ++ names) = doc.resolve? other (path' ++ names)) ∧
    ∀ root notes structType inline,
      Table.get? (doc.queryVariables context) root = some (.struct notes structType inline) →
      (present? structType).getD root ∈ Table.names doc.structs →
      Table.get? (doc.queryVariables other) ((present? structType).getD root) = none →
      doc.resolve? context (root :: names) =
        doc.resolve? other ((present? structType).getD root :: names) := by
  constructor
  · intro path path' notes notes' structType inline inline' members members' hlength hlength'
      hreached hreached' hinline
    have hpath : path ≠ [] := List.ne_nil_of_length_pos (by omega)
    have hpath' : path' ≠ [] := List.ne_nil_of_length_pos (by omega)
    obtain ⟨walk, hwalk, hscope⟩ :=
      Option.map_eq_some_iff.mp (scope_of_resolve? hlength hreached)
    obtain ⟨walk', hwalk', hscope'⟩ :=
      Option.map_eq_some_iff.mp (scope_of_resolve? hlength' hreached')
    rw [resolve?_append doc context hpath hnames, resolve?_append doc other hpath' hnames,
      hwalk, hwalk', Option.bind_some, Option.bind_some, hscope, hscope']
    apply descend?_congr
    intro name
    rw [get?_membersBehind_struct, get?_membersBehind_struct, hinline name]
  · intro root notes structType inline hvariable hstruct hnone
    rw [resolve?_cons doc context root hnames, resolve?_cons doc other _ hnames,
      root?_of_variable hvariable, root?_of_struct hnone hstruct, Option.bind_some,
      Option.bind_some, Walk.scope_ofRoot_struct]
    rfl

/-- A schema in which two runtimes lead to players, one through an owner and one through a
winner, who carry the same two members in different orders. -/
def twoPlayers : Document where
  structs := [
    ("pokemon", { members := [("owner", .struct {} (some "player")
      (some [("rank", .value {} none), ("club", .struct {} (some "party") none)]))] }),
    ("battle", { members := [("winner", .struct {} (some "player")
      (some [("club", .struct {} (some "party") none), ("rank", .value {} none)]))] }),
    ("party", { members := [("size", .value {} (some "Number"))] })]
  runtimes := [
    ("event:SENT", { query := [("mine", .struct {} (some "pokemon") (some []))] }),
    ("event:WON", { query := [("fight", .struct {} (some "battle") none)] })]

theorem resolve?_forgets_history_twoPlayers :
    twoPlayers.resolve? (some "event:SENT") ["mine", "owner", "club", "size"] =
        some ⟨some (.value {} (some "Number")), []⟩ ∧
      twoPlayers.resolve? (some "event:SENT") ["mine", "owner", "club", "size"] =
        twoPlayers.resolve? (some "event:WON") ["fight", "winner", "club", "size"] ∧
      twoPlayers.resolve? (some "event:SENT") ["mine", "owner", "club"] =
        twoPlayers.resolve? (some "event:WON") ["pokemon", "owner", "club"] := by
  have hnames : ["club", "size"] ≠ [] := List.cons_ne_nil _ _
  have hnames' : ["owner", "club"] ≠ [] := List.cons_ne_nil _ _
  have hsame : ∀ name,
      Table.get? [("rank", Member.value {} none), ("club", .struct {} (some "party") none)] name =
        Table.get? [("club", .struct {} (some "party") none), ("rank", .value {} none)] name := by
    intro name
    by_cases hrank : name = "rank" <;> simp [Table.get?_cons, hrank]
  refine ⟨rfl, ?_, ?_⟩
  · exact (resolve?_forgets_history twoPlayers (some "event:SENT") (some "event:WON") hnames).1
      ["mine", "owner"] ["fight", "winner"] {} {} (some "player") _ _ _ _ (by simp) (by simp)
      rfl rfl (fun name => congrArg some (hsame name))
  · exact (resolve?_forgets_history twoPlayers (some "event:SENT") (some "event:WON") hnames').2
      "mine" {} (some "pokemon") (some []) rfl (by decide) rfl

end Document

end MolangAssist.Schema
