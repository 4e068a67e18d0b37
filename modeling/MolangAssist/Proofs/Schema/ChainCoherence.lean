import MolangAssist.Proofs.Schema.Walk

/-!
# One name more

A chain is compared with the chain that is one name longer: what the one lists, what the other
leads to, and what documentation says about it.
-/
namespace MolangAssist.Schema

namespace Document

/-- The members in which the next name of a chain is looked up, when `listed` are those that the
chain lists. The two differ only for a query variable that carries members itself. -/
def scopeBehind (doc : Document) (context : Option String) (path : List String)
    (listed : Members) : Members :=
  match path with
  | [root] =>
    match Table.get? (doc.queryVariables context) root with
    | some (.struct _ structType (some _)) => doc.rootScope root structType
    | _ => listed
  | _ => listed

theorem scopeBehind_of_length {doc : Document} {context : Option String} {path : List String}
    (hpath : ∀ root, path ≠ [root]) (listed : Members) :
    doc.scopeBehind context path listed = listed := by
  match path with
  | [] => rfl
  | [root] => exact absurd rfl (hpath root)
  | _ :: _ :: _ => rfl

theorem scope_walkTo? {doc : Document} {context : Option String} {path : List String} {walk : Walk}
    (hwalk : doc.walkTo? context path = some walk) :
    walk.scope doc = doc.scopeBehind context path (walk.finish doc).members := by
  rcases walkTo?_cases hwalk with ⟨root, rfl, hroot⟩ | ⟨hpath, member, rfl⟩
  · rcases root?_cases hroot with ⟨member, hvariable, rfl⟩ | ⟨hvariable, _, rfl⟩
    · match member with
      | .value notes tag => simp [scopeBehind, hvariable, Walk.ofRoot, Walk.scope, Walk.finish]
      | .struct notes structType none =>
        simp [scopeBehind, hvariable, Walk.ofRoot, Walk.scope, Walk.finish]
      | .struct notes structType (some inline) =>
        simp [scopeBehind, hvariable, Walk.scope_ofRoot_struct]
    · simp [scopeBehind, hvariable, Walk.ofStruct, Walk.scope, Walk.finish]
  · rw [scopeBehind_of_length hpath, Walk.scope_ofMember, Walk.finish_ofMember]

theorem member?_singleton (doc : Document) (context : Option String) (name : String) :
    doc.member? context [name] =
      if name = "math" then none else Table.get? (doc.queryVariables context) name := rfl

theorem member?_snoc (doc : Document) (context : Option String) {path : List String}
    (hpath : path ≠ []) (name : String) :
    doc.member? context (path ++ [name]) =
      (doc.resolve? context path).bind fun here => Table.get? here.members name := by
  match path with
  | [] => exact absurd rfl hpath
  | root :: rest =>
    have hlong : ∀ only, root :: rest ++ [name] ≠ [only] := by simp
    have hlast : (root :: rest ++ [name]).getLast? = some name := List.getLast?_concat
    rw [member?]
    · rw [List.dropLast_concat, hlast]
      cases doc.resolve? context (root :: rest) <;> rfl
    · simp
    · exact hlong

/-- A chain that goes on stands at a struct: at a struct type by name or at a struct member. -/
theorem resolve?_of_extension {doc : Document} {context : Option String} {path rest : List String}
    {reached : Resolution} (hpath : path ≠ []) (hrest : rest ≠ [])
    (hreached : doc.resolve? context (path ++ rest) = some reached) :
    ∃ here, doc.resolve? context path = some here ∧
      ((here.entry = none ∧ ∃ root ∈ Table.names doc.structs, path = [root]) ∨
        ∃ notes structType inline, here.entry = some (.struct notes structType inline)) := by
  obtain ⟨name, rest, rfl⟩ := List.exists_cons_of_ne_nil hrest
  rw [resolve?_eq_walkTo?, walkTo?_append doc context hpath] at hreached
  obtain ⟨_, hrun, _⟩ := Option.map_eq_some_iff.mp hreached
  obtain ⟨walk, hwalk, hnames⟩ := Option.bind_eq_some_iff.mp hrun
  rw [List.foldlM_cons, Walk.step_eq] at hnames
  refine ⟨walk.finish doc, by rw [resolve?_eq_walkTo?, hwalk]; rfl, ?_⟩
  rcases walkTo?_cases hwalk with ⟨root, rfl, hroot⟩ | ⟨_, member, rfl⟩
  · rcases root?_cases hroot with ⟨member, _, rfl⟩ | ⟨_, hstruct, rfl⟩
    · rw [Walk.finish_ofRoot]
      cases member with
      | value notes tag => simp [Walk.ofRoot, Walk.scope] at hnames
      | struct notes structType inline => exact .inr ⟨notes, structType, inline, rfl⟩
    · exact .inl ⟨rfl, root, hstruct, rfl⟩
  · rw [Walk.finish_ofMember]
    cases member with
    | value notes tag => simp [Walk.ofMember, Walk.scope] at hnames
    | struct notes structType inline => exact .inr ⟨notes, structType, inline, rfl⟩

theorem resolve?_snoc (doc : Document) (context : Option String) {path : List String}
    (hpath : path ≠ []) (name : String) :
    doc.resolve? context (path ++ [name]) = (doc.resolve? context path).bind fun here =>
      (Table.get? (doc.scopeBehind context path here.members) name).bind fun member =>
        if member.isDeadEnd then none else some ⟨some member, doc.membersBehind member⟩ := by
  rw [resolve?_eq_walkTo?, resolve?_eq_walkTo?, walkTo?_snoc doc context hpath]
  cases hwalk : doc.walkTo? context path with
  | none => rfl
  | some walk =>
    rw [Option.bind_some, Option.map_some, Option.bind_some, scope_walkTo? hwalk, Option.map_bind]
    congr 1
    funext member
    by_cases hdead : member.isDeadEnd = true
    · simp [Walk.ofMember?, hdead]
    · simp [Walk.ofMember?, hdead, Walk.finish_ofMember]

/-- Listing, going on and documentation look at the same members. A chain that fails fails for
good. One that lists members documents exactly these and goes on to exactly those of its scope
that lead somewhere. So a chain never goes on from a value. -/
theorem resolve?_coherent (doc : Document) (context : Option String) {path : List String}
    (hpath : path ≠ []) (name : String) :
    (doc.resolve? context path = none →
      doc.resolve? context (path ++ [name]) = none ∧
        doc.member? context (path ++ [name]) = none) ∧
    (∀ entry members, doc.resolve? context path = some ⟨entry, members⟩ →
      doc.member? context (path ++ [name]) = Table.get? members name ∧
      (doc.resolve? context (path ++ [name]) = none ↔
        Table.get? (doc.scopeBehind context path members) name = none ∨
          ∃ member, Table.get? (doc.scopeBehind context path members) name = some member ∧
            member.isDeadEnd = true) ∧
      ∀ reached, doc.resolve? context (path ++ [name]) = some reached →
        reached.entry = Table.get? (doc.scopeBehind context path members) name) ∧
    ∀ rest reached, rest ≠ [] → doc.resolve? context (path ++ rest) = some reached →
      ∃ here, doc.resolve? context path = some here ∧
        ((here.entry = none ∧ ∃ root ∈ Table.names doc.structs, path = [root]) ∨
          ∃ notes structType inline, here.entry = some (.struct notes structType inline)) := by
  refine ⟨?_, ?_, fun rest reached hrest => resolve?_of_extension hpath hrest⟩
  · intro hnone
    rw [resolve?_snoc doc context hpath, member?_snoc doc context hpath, hnone]
    exact ⟨rfl, rfl⟩
  · intro entry members hhere
    rw [resolve?_snoc doc context hpath, member?_snoc doc context hpath, hhere]
    simp only [Option.bind_some]
    refine ⟨trivial, ?_⟩
    cases hnext : Table.get? (doc.scopeBehind context path members) name with
    | none => simp
    | some member =>
      by_cases hdead : member.isDeadEnd = true
      · simp [hdead]
      · refine ⟨by simp [hdead], ?_⟩
        intro reached hreached
        simp only [Option.bind_some, hdead] at hreached
        cases hreached
        rfl

/-- A schema with a query variable that carries a member beside its struct type. -/
def carryingRoot : Document where
  structs := [("pokemon", { members := [("level", .value {} (some "Number"))] })]
  runtimes := [("event:SENT", { query :=
    [("pokemon", .struct {} none (some [("nick", .value {} (some "String"))]))] })]

/-- What a root carries is listed and documented, but a chain does not go on to it. -/
theorem resolve?_coherent_carryingRoot :
    carryingRoot.resolve? none ["pokemon"] =
        some ⟨some (.struct {} none (some [("nick", .value {} (some "String"))])),
          [("nick", .value {} (some "String"))]⟩ ∧
      carryingRoot.member? none ["pokemon", "nick"] = some (.value {} (some "String")) ∧
      carryingRoot.resolve? none ["pokemon", "nick"] = none := by
  have hhere : carryingRoot.resolve? none ["pokemon"] =
      some ⟨some (.struct {} none (some [("nick", .value {} (some "String"))])),
        [("nick", .value {} (some "String"))]⟩ := rfl
  have hcoherent := resolve?_coherent carryingRoot none (List.cons_ne_nil "pokemon" []) "nick"
  obtain ⟨hmember, hfails, _⟩ := hcoherent.2.1 _ _ hhere
  exact ⟨hhere, hmember, hfails.mpr (.inl rfl)⟩

end Document

end MolangAssist.Schema
