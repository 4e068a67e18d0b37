import Mathlib.Data.List.Induction
import MolangAssist.Proofs.Tables
import MolangAssist.Schema.Resolution

/-!
# Walks along chains

What a walk can do next depends on the members in which it looks names up, its scope. A walk
stands at a root or at a member that it has come to from another one; here both are described
once and for all, so that no other proof has to look into a step.
-/
namespace MolangAssist.Schema

open Text

namespace Document

/-- The members behind a member that is not the root of its chain. -/
def membersBehind (doc : Document) : Member → Members
  | .value _ _ => []
  | .struct _ structType none => doc.functionsFor structType
  | .struct _ structType (some inline) =>
    Table.mergeRanked [inline, doc.functionsFor structType]

/-- The members in which the name behind a root is looked up: those of the struct type that the
root refers to, or else of the type with the root's own name. -/
def rootScope (doc : Document) (root : String) (structType : Option String) : Members :=
  doc.functionsFor (some ((present? structType).getD root))

/-- The members listed for a query variable that is a whole chain. Only here do the members that
a root carries itself count. -/
def rootListing (doc : Document) (root : String) : Member → Members
  | .value _ _ => []
  | .struct _ structType none => doc.rootScope root structType
  | .struct _ structType (some inline) =>
    Table.mergeRanked [inline, doc.functionsFor structType]

end Document

namespace Walk

/-- The members in which a walk looks up the next name; a value has none. -/
def scope (doc : Document) : Walk → Members
  | .atValue _ => []
  | .atStruct _ structType staged => staged.getD (doc.functionsFor structType)

/-- Where a walk stands that has come to a member from another one. -/
def ofMember (doc : Document) : Member → Walk
  | .value notes tag => .atValue (.value notes tag)
  | .struct notes structType inline =>
    .atStruct (some (.struct notes structType inline)) structType
      (inline.map (doc.inlineMembers · structType))

/-- A member that can be walked to. -/
def ofMember? (doc : Document) (member : Member) : Option Walk :=
  if member.isDeadEnd then none else some (ofMember doc member)

/-- Where a walk stands that starts at a query variable. -/
def ofRoot (root : String) : Member → Walk
  | .value notes tag => .atValue (.value notes tag)
  | .struct notes structType inline =>
    .atStruct (some (.struct notes structType inline)) (some ((present? structType).getD root)) none

/-- Where a walk stands that starts at the name of a struct type. -/
def ofStruct (root : String) : Walk := .atStruct none (some root) none

/-- One step looks a name up in the scope of the walk, whatever else the walk remembers. -/
theorem step_eq (doc : Document) (walk : Walk) (name : String) :
    walk.step doc name = (Table.get? (walk.scope doc) name).bind (ofMember? doc) := by
  cases walk with
  | atValue member => rfl
  | atStruct entry structType staged =>
    simp only [step, scope]
    cases Table.get? (staged.getD (doc.functionsFor structType)) name with
    | none => rfl
    | some member => cases member <;> simp [ofMember?, ofMember, Member.isDeadEnd]

theorem scope_ofMember (doc : Document) (member : Member) :
    (ofMember doc member).scope doc = doc.membersBehind member := by
  cases member with
  | value notes tag => rfl
  | struct notes structType inline => cases inline <;> rfl

theorem finish_ofMember (doc : Document) (member : Member) :
    (ofMember doc member).finish doc = ⟨some member, doc.membersBehind member⟩ := by
  cases member with
  | value notes tag => rfl
  | struct notes structType inline => cases inline <;> rfl

theorem scope_ofRoot_struct (doc : Document) (root : String) (notes : Notes)
    (structType : Option String) (inline : Option Members) :
    (ofRoot root (.struct notes structType inline)).scope doc = doc.rootScope root structType := rfl

theorem finish_ofRoot (doc : Document) (root : String) (member : Member) :
    (ofRoot root member).finish doc = ⟨some member, doc.rootListing root member⟩ := by
  cases member with
  | value notes tag => rfl
  | struct notes structType inline => cases inline <;> rfl

end Walk

namespace Document

/-- Where a walk stands at the end of a chain. -/
def walkTo? (doc : Document) (context : Option String) : List String → Option Walk
  | [] => none
  | root :: names => (doc.root? context root).bind fun start => names.foldlM (Walk.step doc) start

theorem resolve?_eq_walkTo? (doc : Document) (context : Option String) (path : List String) :
    doc.resolve? context path = (doc.walkTo? context path).map (Walk.finish doc) := by
  cases path with
  | nil => rfl
  | cons root names =>
    rw [resolve?, walkTo?, Option.map_bind]
    cases doc.root? context root with
    | none => rfl
    | some start => exact Option.map_eq_bind.symm

theorem walkTo?_append (doc : Document) (context : Option String) {path : List String}
    (hpath : path ≠ []) (names : List String) :
    doc.walkTo? context (path ++ names) =
      (doc.walkTo? context path).bind fun walk => names.foldlM (Walk.step doc) walk := by
  cases path with
  | nil => exact absurd rfl hpath
  | cons root rest =>
    simp only [List.cons_append, walkTo?, List.foldlM_append, Option.bind_assoc]
    rfl

theorem root?_of_variable {doc : Document} {context : Option String} {root : String}
    {member : Member} (hvariable : Table.get? (doc.queryVariables context) root = some member) :
    doc.root? context root = some (Walk.ofRoot root member) := by
  cases member <;> simp [root?, hvariable, Walk.ofRoot]

theorem root?_of_struct {doc : Document} {context : Option String} {root : String}
    (hvariable : Table.get? (doc.queryVariables context) root = none)
    (hstruct : root ∈ Table.names doc.structs) :
    doc.root? context root = some (Walk.ofStruct root) := by
  obtain ⟨group, hgroup⟩ := Option.isSome_iff_exists.mp (Table.get?_isSome_iff.mpr hstruct)
  simp [root?, hvariable, hgroup, Walk.ofStruct]

theorem root?_of_unknown {doc : Document} {context : Option String} {root : String}
    (hvariable : Table.get? (doc.queryVariables context) root = none)
    (hstruct : root ∉ Table.names doc.structs) : doc.root? context root = none := by
  have hgroup := Table.get?_eq_none_iff.mpr hstruct
  simp [root?, hvariable, hgroup]

theorem walkTo?_snoc (doc : Document) (context : Option String) {path : List String}
    (hpath : path ≠ []) (name : String) :
    doc.walkTo? context (path ++ [name]) = (doc.walkTo? context path).bind fun walk =>
      (Table.get? (walk.scope doc) name).bind (Walk.ofMember? doc) := by
  rw [walkTo?_append doc context hpath]
  congr 1
  funext walk
  rw [List.foldlM_cons, Walk.step_eq]
  cases (Table.get? (walk.scope doc) name).bind (Walk.ofMember? doc) <;> rfl

/-- A walk stands at its root or at a member that it has come to from another one. -/
theorem walkTo?_cases {doc : Document} {context : Option String} {path : List String} {walk : Walk}
    (hwalk : doc.walkTo? context path = some walk) :
    (∃ root, path = [root] ∧ doc.root? context root = some walk) ∨
      ((∀ root, path ≠ [root]) ∧ ∃ member, walk = Walk.ofMember doc member) := by
  induction path using List.reverseRecOn with
  | nil => simp [walkTo?] at hwalk
  | append_singleton init last _ =>
    by_cases hinit : init = []
    · subst hinit
      refine .inl ⟨last, rfl, ?_⟩
      rw [List.nil_append, walkTo?] at hwalk
      simpa using hwalk
    · refine .inr ⟨fun root hsingle => hinit ?_, ?_⟩
      · have hlength := congrArg List.length hsingle
        simpa using hlength
      · rw [walkTo?_snoc doc context hinit] at hwalk
        obtain ⟨_, _, hstep⟩ := Option.bind_eq_some_iff.mp hwalk
        obtain ⟨member, _, hmember⟩ := Option.bind_eq_some_iff.mp hstep
        rw [Walk.ofMember?] at hmember
        split at hmember
        · cases hmember
        · exact ⟨member, (Option.some.inj hmember).symm⟩

/-- A root is a query variable or the name of a struct type. -/
theorem root?_cases {doc : Document} {context : Option String} {root : String} {walk : Walk}
    (hroot : doc.root? context root = some walk) :
    (∃ member, Table.get? (doc.queryVariables context) root = some member ∧
        walk = Walk.ofRoot root member) ∨
      (Table.get? (doc.queryVariables context) root = none ∧ root ∈ Table.names doc.structs ∧
        walk = Walk.ofStruct root) := by
  cases hvariable : Table.get? (doc.queryVariables context) root with
  | some member =>
    rw [root?_of_variable hvariable] at hroot
    exact .inl ⟨member, rfl, (Option.some.inj hroot).symm⟩
  | none =>
    by_cases hstruct : root ∈ Table.names doc.structs
    · rw [root?_of_struct hvariable hstruct] at hroot
      exact .inr ⟨rfl, hstruct, (Option.some.inj hroot).symm⟩
    · rw [root?_of_unknown hvariable hstruct] at hroot
      cases hroot

/-! ## Listed members -/

theorem distinct_functionsFor (doc : Document) (structType : Option String) :
    Table.Distinct (doc.functionsFor structType) := by
  rw [functionsFor]
  split
  · exact Table.distinct_mergeRanked _
  · exact List.nodup_nil

theorem distinct_membersBehind (doc : Document) (member : Member) :
    Table.Distinct (doc.membersBehind member) := by
  match member with
  | .value _ _ => exact List.nodup_nil
  | .struct _ structType none => exact doc.distinct_functionsFor structType
  | .struct _ _ (some _) => exact Table.distinct_mergeRanked _

theorem distinct_rootListing (doc : Document) (root : String) (member : Member) :
    Table.Distinct (doc.rootListing root member) := by
  match member with
  | .value _ _ => exact List.nodup_nil
  | .struct _ _ none => exact doc.distinct_functionsFor _
  | .struct _ _ (some _) => exact Table.distinct_mergeRanked _

/-- No chain lists a name twice. -/
theorem distinct_resolve? {doc : Document} {context : Option String} {path : List String}
    {reached : Resolution} (hreached : doc.resolve? context path = some reached) :
    Table.Distinct reached.members := by
  rw [resolve?_eq_walkTo?] at hreached
  obtain ⟨walk, hwalk, rfl⟩ := Option.map_eq_some_iff.mp hreached
  rcases walkTo?_cases hwalk with ⟨root, _, hroot⟩ | ⟨_, member, rfl⟩
  · rcases root?_cases hroot with ⟨member, _, rfl⟩ | ⟨_, _, rfl⟩
    · rw [Walk.finish_ofRoot]
      exact doc.distinct_rootListing root member
    · exact doc.distinct_functionsFor (some root)
  · rw [Walk.finish_ofMember]
    exact doc.distinct_membersBehind member

end Document

end MolangAssist.Schema
