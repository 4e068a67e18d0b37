import MolangAssist.Proofs.Schema.WellFormed
import MolangAssist.Schema.Bundled

/-!
# How deep a document may be

Reading a document takes calls within calls, three for each map of members that a member carries.
So the stack bounds how deeply such maps may be nested, and nothing else about a document.
-/
namespace MolangAssist.Schema

open Json (Value)

mutual

/-- How deeply the maps of members are nested that a member carries. -/
def Member.levels : Member → Nat
  | .value _ _ => 0
  | .struct _ _ inline => inlineLevels inline
termination_by structural member => member

def inlineLevels : Option (List (String × Member)) → Nat
  | none => 0
  | some members => 1 + membersLevels members
termination_by structural inline => inline

def membersLevels : List (String × Member) → Nat
  | [] => 0
  | (_, member) :: rest => max member.levels (membersLevels rest)
termination_by structural members => members

end

/-- How deeply the maps of members are nested in some definitions. -/
def tableLevels {α : Type} (members : α → Members) : Table α → Nat
  | [] => 0
  | (_, a) :: rest => max (membersLevels (members a)) (tableLevels members rest)

/-- How deeply the maps of members are nested that members of a document carry. -/
def Document.levels (doc : Document) : Nat :=
  max (max (tableLevels MemberGroup.members doc.structs)
      (tableLevels MemberGroup.members doc.functionSets))
    (max (tableLevels Runtime.query doc.runtimes)
      (tableLevels Composition.customFunctions doc.compositions))

/-! ## Calls and levels -/

section

variable (stack : Stack)

theorem Notes.calls_le (notes : Notes) : notes.calls stack ≤ stack.leaf + 1 := by
  rw [calls]
  split <;> omega

mutual

theorem Member.calls_le (member : Member) :
    member.calls stack ≤ 3 * member.levels + (stack.leaf + 2) := by
  cases member with
  | value notes tag =>
    have hnotes := notes.calls_le stack
    rw [Member.calls]
    omega
  | struct notes structType inline =>
    have hnotes := notes.calls_le stack
    have hinline := inlineCalls_le inline
    rw [Member.calls, Member.levels]
    omega
termination_by structural member

theorem inlineCalls_le (inline : Option (List (String × Member))) :
    inlineCalls stack inline ≤ 3 * inlineLevels inline + (stack.leaf + 1) := by
  cases inline with
  | none => exact Nat.zero_le _
  | some members =>
    have hmembers := membersCalls_le members
    rw [inlineCalls, inlineLevels]
    omega
termination_by structural inline

theorem membersCalls_le (members : List (String × Member)) :
    membersCalls stack members ≤ 3 * membersLevels members + (stack.leaf + 2) := by
  cases members with
  | nil => exact Nat.zero_le _
  | cons entry rest =>
    obtain ⟨name, member⟩ := entry
    have hmember := member.calls_le
    have hrest := membersCalls_le rest
    rw [membersCalls, membersLevels]
    omega
termination_by structural members

end

mutual

theorem Member.le_calls (member : Member) : 3 * member.levels ≤ member.calls stack := by
  cases member with
  | value notes tag => exact Nat.zero_le _
  | struct notes structType inline =>
    have hinline := le_inlineCalls inline
    rw [Member.calls, Member.levels]
    omega
termination_by structural member

/-- A map that a member carries takes two calls below that of the member. -/
theorem le_inlineCalls (inline : Option (List (String × Member))) :
    3 * inlineLevels inline ≤ inlineCalls stack inline + 1 := by
  cases inline with
  | none => exact Nat.zero_le _
  | some members =>
    have hmembers := le_membersCalls members
    rw [inlineCalls, inlineLevels]
    omega
termination_by structural inline

theorem le_membersCalls (members : List (String × Member)) :
    3 * membersLevels members ≤ membersCalls stack members := by
  cases members with
  | nil => exact Nat.zero_le _
  | cons entry rest =>
    obtain ⟨name, member⟩ := entry
    have hmember := member.le_calls
    have hrest := le_membersCalls rest
    rw [membersCalls, membersLevels]
    omega
termination_by structural members

end

variable {α : Type} (members : α → Members)

theorem tableCalls_le (table : Table α) :
    tableCalls stack members table ≤ 3 * tableLevels members table + (stack.leaf + 5) := by
  induction table with
  | nil => exact Nat.zero_le _
  | cons entry rest ih =>
    have hmembers := membersCalls_le stack (members entry.2)
    rw [tableCalls, tableLevels, definitionCalls]
    omega

theorem le_tableCalls (table : Table α) :
    3 * tableLevels members table ≤ tableCalls stack members table := by
  induction table with
  | nil => exact Nat.zero_le _
  | cons entry rest ih =>
    have hmembers := le_membersCalls stack (members entry.2)
    rw [tableCalls, tableLevels, definitionCalls]
    omega

end

theorem Document.calls_le (stack : Stack) (doc : Document) :
    doc.calls stack ≤ 3 * doc.levels + (stack.leaf + 7) := by
  have hstructs := tableCalls_le stack MemberGroup.members doc.structs
  have hsets := tableCalls_le stack MemberGroup.members doc.functionSets
  have hruntimes := tableCalls_le stack Runtime.query doc.runtimes
  have hcompositions := tableCalls_le stack Composition.customFunctions doc.compositions
  rw [calls, levels]
  omega

theorem Document.le_calls (stack : Stack) (doc : Document) : 3 * doc.levels ≤ doc.calls stack := by
  have hstructs := le_tableCalls stack MemberGroup.members doc.structs
  have hsets := le_tableCalls stack MemberGroup.members doc.functionSets
  have hruntimes := le_tableCalls stack Runtime.query doc.runtimes
  have hcompositions := le_tableCalls stack Composition.customFunctions doc.compositions
  rw [calls, levels]
  omega

/-- The document that comes with the library is far from any limit. -/
example : bundled.calls .usual ≤ 12 := by decide

/-! ## A deep document -/

/-- A struct member that carries another one, and so on. -/
def nestedMember : Nat → Member
  | 0 => .struct {} none none
  | levels + 1 => .struct {} none (some [("part", nestedMember levels)])

/-- A struct type with a member that carries others at the given number of levels. -/
def deepDocument (levels : Nat) : Document where
  structs := [("whole", { members := [("part", nestedMember levels)] })]

theorem levels_nestedMember (levels : Nat) : (nestedMember levels).levels = levels := by
  induction levels with
  | zero => rfl
  | succ levels ih =>
    rw [nestedMember, Member.levels, inlineLevels, membersLevels, membersLevels, ih]
    omega

theorem levels_deepDocument (levels : Nat) : (deepDocument levels).levels = levels := by
  simp [Document.levels, deepDocument, tableLevels, membersLevels, levels_nestedMember]

theorem wellFormed_nestedMember (levels : Nat) : (nestedMember levels).WellFormed := by
  induction levels with
  | zero => exact .struct nofun
  | succ levels ih =>
    have hpart := Table.Proper.single "part" ih
    exact .carrying nofun hpart.distinct hpart.entries

theorem wellFormed_deepDocument (levels : Nat) : (deepDocument levels).WellFormed where
  structs := .single "whole" (.single "part" (wellFormed_nestedMember levels))
  functionSets := .nil _
  runtimes := .nil _
  compositions := .nil _

theorem lt_calls_deepDocument {stack : Stack} {levels : Nat} (hlevels : stack.frames < 3 * levels) :
    stack.frames < (deepDocument levels).calls stack := by
  have hcalls := (deepDocument levels).le_calls stack
  rw [levels_deepDocument] at hcalls
  exact Nat.lt_of_lt_of_le hlevels hcalls

end MolangAssist.Schema
