import MolangAssist.Proofs.Json.ValueDepth
import MolangAssist.Proofs.Tables
import MolangAssist.Settings

/-!
# Variables in settings

The references of a text are the hits of a scan. The variables that a value leaves unset are those
of all texts in it, taken in order, and texts are replaced where they stand.
-/
namespace MolangAssist.Settings

open Files Json Text

/-! ## References -/

/-- The names that a text refers to, once for each reference. -/
def referredNames (text : String) : List String :=
  (scan reference text.toList).map fun hit => String.ofList hit.value

/-- Whether a name stands for no value. The workspace root has one in every environment. -/
def isUnset (environment : Table String) (name : String) : Bool :=
  name != "workspaceRoot" && !(Table.names environment).contains name

def Fragment.name? : Fragment → Option String
  | .literal _ => none
  | .variable name => some name

/-- Cutting a text into fragments and scanning it for references go through it in step. -/
theorem fragmentsFrom_name? (skip offset : Nat) (before : Option Char) (s : List Char) :
    (fragmentsFrom skip s).filterMap Fragment.name? =
      (scanFrom reference offset skip before s).map fun hit => String.ofList hit.value := by
  induction s generalizing skip offset before with
  | nil => simp [fragmentsFrom, scanFrom]
  | cons c cs ih =>
    cases skip with
    | succ skip => rw [fragmentsFrom, scanFrom, ih]
    | zero =>
      have hbefore : reference before (c :: cs) = reference none (c :: cs) := rfl
      rw [fragmentsFrom, scanFrom, hbefore]
      cases reference none (c :: cs) with
      | none =>
        simp only [List.filterMap_cons, Fragment.name?]
        exact ih 0 (offset + 1) (some c)
      | some found =>
        obtain ⟨name, rest⟩ := found
        have hused : cs.length + 1 - rest.length - 1 = cs.length - rest.length := by omega
        simp only [List.filterMap_cons, Fragment.name?, List.map_cons, hused]
        rw [ih]

theorem isNone_get?_knownVariables (environment : Table String) (root : Path) (name : String) :
    (Table.get? (knownVariables environment root) name).isNone = isUnset environment name := by
  rw [knownVariables, Table.get?_cons, isUnset]
  by_cases hroot : name = "workspaceRoot"
  · simp [hroot]
  · rw [if_neg hroot, ← Option.not_isSome, Bool.eq_iff_iff]
    simp [hroot, ← Table.get?_isSome_iff]

theorem unsetVariables_eq (environment : Table String) (root : Path) (text : String) :
    unsetVariables (knownVariables environment root) text =
      (referredNames text).filter (isUnset environment) := by
  have hnames : (fragments text).filterMap Fragment.name? = referredNames text :=
    fragmentsFrom_name? 0 0 none text.toList
  rw [← hnames, List.filter_filterMap, unsetVariables]
  congr 1
  funext fragment
  rcases fragment with c | name
  · rfl
  · simp [Fragment.name?, isNone_get?_knownVariables, Option.filter]

/-! ## Values -/

mutual

/-- All texts in a value, at any depth and in order. -/
def textsWithin : Value → List String
  | .text s => [s]
  | .list items => textsWithinItems items
  | .object fields => textsWithinFields fields
  | _ => []
termination_by structural v => v

def textsWithinItems : List Value → List String
  | [] => []
  | v :: rest => textsWithin v ++ textsWithinItems rest
termination_by structural items => items

def textsWithinFields : List (String × Value) → List String
  | [] => []
  | (_, v) :: rest => textsWithin v ++ textsWithinFields rest
termination_by structural fields => fields

end

mutual

theorem unsetWithin_eq (vars : Table String) (v : Value) :
    unsetWithin vars v = (textsWithin v).flatMap (unsetVariables vars) := by
  cases v with
  | text s => simp [unsetWithin, textsWithin]
  | list items => rw [unsetWithin, textsWithin, unsetWithinItems_eq]
  | object fields => rw [unsetWithin, textsWithin, unsetWithinFields_eq]
  | _ => rfl
termination_by structural v

theorem unsetWithinItems_eq (vars : Table String) (items : List Value) :
    unsetWithinItems vars items = (textsWithinItems items).flatMap (unsetVariables vars) := by
  cases items with
  | nil => rfl
  | cons v rest =>
    rw [unsetWithinItems, textsWithinItems, List.flatMap_append, unsetWithin_eq vars v,
      unsetWithinItems_eq vars rest]
termination_by structural items

theorem unsetWithinFields_eq (vars : Table String) (fields : List (String × Value)) :
    unsetWithinFields vars fields = (textsWithinFields fields).flatMap (unsetVariables vars) := by
  cases fields with
  | nil => rfl
  | cons field rest =>
    obtain ⟨key, v⟩ := field
    rw [unsetWithinFields, textsWithinFields, List.flatMap_append, unsetWithin_eq vars v,
      unsetWithinFields_eq vars rest]
termination_by structural fields

end

theorem substituteFields_eq_map (vars : Table String) (fields : List (String × Value)) :
    substituteFields vars fields = fields.map fun field => (field.1, substitute vars field.2) := by
  induction fields with
  | nil => rfl
  | cons field rest ih =>
    obtain ⟨key, v⟩ := field
    rw [substituteFields, ih, List.map_cons]

theorem substituteItems_eq_map (vars : Table String) (items : List Value) :
    substituteItems vars items = items.map (substitute vars) := by
  induction items with
  | nil => rfl
  | cons v rest ih => rw [substituteItems, ih, List.map_cons]

theorem get?_substituteFields (vars : Table String) (fields : List (String × Value))
    (key : String) :
    Table.get? (substituteFields vars fields) key =
      (Table.get? fields key).map (substitute vars) := by
  rw [substituteFields_eq_map]
  exact Table.get?_map (substitute vars) fields key

/-- Of the items of a list the texts stay that refer to no unset variable. -/
theorem texts_substituteItems (environment : Table String) (root : Path) (items : List Value) :
    (items.map (substitute (knownVariables environment root))).filterMap Value.text? =
      ((items.filterMap Value.text?).filter fun s =>
        !(referredNames s).any (isUnset environment)).map
          (expand (knownVariables environment root)) := by
  rw [List.filterMap_map, List.filter_filterMap, List.map_filterMap]
  congr 1
  funext v
  cases v with
  | text s =>
    have hunset : (unsetVariables (knownVariables environment root) s).isEmpty =
        !(referredNames s).any (isUnset environment) := by
      rw [unsetVariables_eq, Bool.eq_iff_iff]
      simp
    simp only [Function.comp_apply, substitute, hunset]
    cases hany : (referredNames s).any (isUnset environment) <;>
      simp [Value.text?, Option.filter, hany]
  | _ => rfl

/-! ## Depth -/

mutual

/-- Putting values in takes two calls for each level of a value, and some for a text. -/
theorem substitutionCalls_le (stack : Stack) (v : Value) :
    substitutionCalls stack v ≤ 2 * v.depth + (2 + stack.leaf) := by
  cases v with
  | list items =>
    have hitems := substitutionCallsItems_le stack items
    rw [substitutionCalls, Value.depth]
    omega
  | object fields =>
    have hfields := substitutionCallsFields_le stack fields
    rw [substitutionCalls, Value.depth]
    omega
  | text s =>
    rw [substitutionCalls]
    omega
  | _ =>
    have hone : 1 ≤ 2 + stack.leaf := by omega
    exact Nat.le_trans hone (Nat.le_add_left _ _)
termination_by structural v

theorem substitutionCallsItems_le (stack : Stack) (items : List Value) :
    substitutionCallsItems stack items ≤ 2 * depthOfItems items + (2 + stack.leaf) := by
  cases items with
  | nil => exact Nat.zero_le _
  | cons v rest =>
    have hv := substitutionCalls_le stack v
    have hrest := substitutionCallsItems_le stack rest
    rw [substitutionCallsItems, depthOfItems]
    omega
termination_by structural items

theorem substitutionCallsFields_le (stack : Stack) (fields : List (String × Value)) :
    substitutionCallsFields stack fields ≤ 2 * depthOfFields fields + (2 + stack.leaf) := by
  cases fields with
  | nil => exact Nat.zero_le _
  | cons field rest =>
    obtain ⟨key, v⟩ := field
    have hv := substitutionCalls_le stack v
    have hrest := substitutionCallsFields_le stack rest
    rw [substitutionCallsFields, depthOfFields]
    omega
termination_by structural fields

end

end MolangAssist.Settings
