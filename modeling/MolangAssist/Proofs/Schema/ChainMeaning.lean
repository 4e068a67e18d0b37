import MolangAssist.Proofs.Schema.Walk

/-!
# The meaning of a chain

`Document.resolve?` walks along a chain and carries members along for one step. `Document.meaning?`
is the same semantics without a memory: what a name leads to depends on the member before it
alone. The two are equal.
-/
namespace MolangAssist.Schema

namespace Document

/-- Where the names of a list lead, the first of them looked up in `scope`. -/
def descend? (doc : Document) (scope : Members) : List String → Option Resolution
  | [] => none
  | [name] =>
    match Table.get? scope name with
    | none => none
    | some (.value notes tag) => some ⟨some (.value notes tag), []⟩
    | some (.struct notes structType inline) =>
      if (Member.struct notes structType inline).isDeadEnd then none
      else
        some ⟨some (.struct notes structType inline),
          doc.membersBehind (.struct notes structType inline)⟩
  | name :: next :: rest =>
    match Table.get? scope name with
    | none => none
    | some (.value _ _) => none
    | some (.struct notes structType inline) =>
      if (Member.struct notes structType inline).isDeadEnd then none
      else doc.descend? (doc.membersBehind (.struct notes structType inline)) (next :: rest)

theorem descend?_of_no_members (doc : Document) (names : List String) :
    doc.descend? [] names = none := by
  cases names with
  | nil => rfl
  | cons name rest => cases rest <;> rfl

/-- Values need no case of their own: nothing stands behind them, so no descent goes on there. -/
theorem descend?_cons (doc : Document) (scope : Members) (name : String) (rest : List String) :
    doc.descend? scope (name :: rest) = (Table.get? scope name).bind fun member =>
      if member.isDeadEnd then none
      else if rest = [] then some ⟨some member, doc.membersBehind member⟩
      else doc.descend? (doc.membersBehind member) rest := by
  cases hmember : Table.get? scope name with
  | none => cases rest <;> simp [descend?, hmember]
  | some member =>
    cases member with
    | value notes tag =>
      cases rest with
      | nil => simp [descend?, hmember, Member.isDeadEnd, membersBehind]
      | cons next rest =>
        have hstop := doc.descend?_of_no_members (next :: rest)
        simp [descend?, hmember, Member.isDeadEnd, membersBehind, hstop]
    | struct notes structType inline => cases rest <;> simp [descend?, hmember]

/-- The recursive semantics of chains. -/
def meaning? (doc : Document) (context : Option String) : List String → Option Resolution
  | [] => none
  | [root] =>
    match Table.get? (doc.queryVariables context) root with
    | some member => some ⟨some member, doc.rootListing root member⟩
    | none =>
      if root ∈ Table.names doc.structs then some ⟨none, doc.functionsFor (some root)⟩ else none
  | root :: next :: rest =>
    match Table.get? (doc.queryVariables context) root with
    | some (.value _ _) => none
    | some (.struct _ structType _) =>
      doc.descend? (doc.rootScope root structType) (next :: rest)
    | none =>
      if root ∈ Table.names doc.structs then
        doc.descend? (doc.functionsFor (some root)) (next :: rest)
      else none

end Document

namespace Walk

/-- A run from any walk is the descent from the scope of that walk. -/
theorem run_eq_descend? (doc : Document) (walk : Walk) (name : String) (rest : List String) :
    ((name :: rest).foldlM (step doc) walk).map (finish doc) =
      doc.descend? (walk.scope doc) (name :: rest) := by
  induction rest generalizing walk name with
  | nil =>
    simp only [List.foldlM_cons, List.foldlM_nil, step_eq, Document.descend?]
    cases Table.get? (walk.scope doc) name with
    | none => rfl
    | some member =>
      cases member with
      | value notes tag => rfl
      | struct notes structType inline =>
        by_cases hdead : (Member.struct notes structType inline).isDeadEnd = true
        · simp [ofMember?, hdead]
        · simp [ofMember?, hdead, finish_ofMember]
  | cons next rest ih =>
    rw [List.foldlM_cons, step_eq, Document.descend?]
    cases Table.get? (walk.scope doc) name with
    | none => rfl
    | some member =>
      cases member with
      | value notes tag =>
        -- The scope of a value is empty, so the run stops at the next name.
        have hrun := ih (ofMember doc (.value notes tag)) next
        exact hrun.trans (doc.descend?_of_no_members (next :: rest))
      | struct notes structType inline =>
        by_cases hdead : (Member.struct notes structType inline).isDeadEnd = true
        · simp [ofMember?, hdead]
        · have hrun := ih (ofMember doc (.struct notes structType inline)) next
          rw [scope_ofMember] at hrun
          simpa [ofMember?, hdead] using hrun

end Walk

namespace Document

/-- A longer chain descends from the scope in which the shorter one ends. -/
theorem resolve?_append (doc : Document) (context : Option String) {path names : List String}
    (hpath : path ≠ []) (hnames : names ≠ []) :
    doc.resolve? context (path ++ names) =
      (doc.walkTo? context path).bind fun walk => doc.descend? (walk.scope doc) names := by
  obtain ⟨name, rest, rfl⟩ := List.exists_cons_of_ne_nil hnames
  rw [resolve?_eq_walkTo?, walkTo?_append doc context hpath, Option.map_bind]
  congr 1
  funext walk
  exact Walk.run_eq_descend? doc walk name rest

theorem resolve?_cons (doc : Document) (context : Option String) (root : String)
    {names : List String} (hnames : names ≠ []) :
    doc.resolve? context (root :: names) =
      (doc.root? context root).bind fun walk => doc.descend? (walk.scope doc) names := by
  have happend := resolve?_append doc context (List.cons_ne_nil root []) hnames
  rw [List.singleton_append] at happend
  rw [happend, walkTo?]
  cases doc.root? context root <;> rfl

/-- Walking along a chain with a memory gives what the recursive semantics says. -/
theorem resolve?_eq_meaning? (doc : Document) (context : Option String) (path : List String) :
    doc.resolve? context path = doc.meaning? context path := by
  rw [resolve?_eq_walkTo?]
  cases path with
  | nil => rfl
  | cons root rest =>
    rw [walkTo?]
    cases hvariable : Table.get? (doc.queryVariables context) root with
    | some member =>
      rw [root?_of_variable hvariable, Option.bind_some]
      cases rest with
      | nil => simp [meaning?, hvariable, Walk.finish_ofRoot]
      | cons next rest =>
        rw [Walk.run_eq_descend?]
        cases member with
        | value notes tag =>
          simp only [meaning?, hvariable]
          exact doc.descend?_of_no_members (next :: rest)
        | struct notes structType inline =>
          simp only [meaning?, hvariable, Walk.scope_ofRoot_struct]
    | none =>
      by_cases hstruct : root ∈ Table.names doc.structs
      · rw [root?_of_struct hvariable hstruct, Option.bind_some]
        cases rest with
        | nil => simp [meaning?, hvariable, hstruct, Walk.ofStruct, Walk.finish]
        | cons next rest =>
          rw [Walk.run_eq_descend?]
          simp [meaning?, hvariable, hstruct, Walk.ofStruct, Walk.scope]
      · rw [root?_of_unknown hvariable hstruct]
        cases rest <;> simp [meaning?, hvariable, hstruct]

end Document

end MolangAssist.Schema
