import MolangAssist.Proofs.Json.Nesting
import MolangAssist.Proofs.RankedTables

/-!
# How deep values are

A value that is read from a text is nested no more deeply than the text. While the reader is on its
way, what it holds already reaches no deeper than the most that was open so far.
-/
namespace MolangAssist.Json

mutual

/-- How deeply lists and objects are nested in a value. -/
def Value.depth : Value → Nat
  | .list items => 1 + depthOfItems items
  | .object fields => 1 + depthOfFields fields
  | _ => 0
termination_by structural v => v

def depthOfItems : List Value → Nat
  | [] => 0
  | v :: rest => max (Value.depth v) (depthOfItems rest)
termination_by structural items => items

def depthOfFields : List (String × Value) → Nat
  | [] => 0
  | (_, v) :: rest => max (Value.depth v) (depthOfFields rest)
termination_by structural fields => fields

end

theorem depthOfItems_le_iff {items : List Value} {n : Nat} :
    depthOfItems items ≤ n ↔ ∀ v ∈ items, v.depth ≤ n := by
  induction items with
  | nil => simp [depthOfItems]
  | cons v rest ih => rw [depthOfItems, Nat.max_le, ih, List.forall_mem_cons]

theorem depthOfFields_le_iff {fields : List (String × Value)} {n : Nat} :
    depthOfFields fields ≤ n ↔ ∀ field ∈ fields, field.2.depth ≤ n := by
  induction fields with
  | nil => simp [depthOfFields]
  | cons field rest ih =>
    obtain ⟨key, v⟩ := field
    rw [depthOfFields, Nat.max_le, ih, List.forall_mem_cons]

theorem depthOfItems_reverse (items : List Value) :
    depthOfItems items.reverse = depthOfItems items := by
  apply Nat.le_antisymm <;> rw [depthOfItems_le_iff]
  · exact fun v hv => depthOfItems_le_iff.mp (Nat.le_refl _) v (List.mem_reverse.mp hv)
  · exact fun v hv => depthOfItems_le_iff.mp (Nat.le_refl _) v (List.mem_reverse.mpr hv)

theorem depthOfFields_overlay_reverse_le (fields : List (String × Value)) :
    depthOfFields (Table.overlay fields.reverse) ≤ depthOfFields fields := by
  rw [depthOfFields_le_iff]
  intro field hfield
  have hmem := List.mem_reverse.mp (Table.mem_of_mem_overlay hfield)
  exact depthOfFields_le_iff.mp (Nat.le_refl _) field hmem

/-! ## Tokens -/

/-- A token that is a value has no parts. -/
def Token.Flat : Token → Prop
  | .atom v => v.depth = 0
  | _ => True

theorem flat_number {limits : Limits} {negative : Bool} {s : List Char} {t : Token} {used : Nat}
    (hnumber : number limits negative s = .ok (t, used)) : t.Flat := by
  revert hnumber
  fun_cases number limits negative s with
  | case1 | case2 => rintro ⟨⟩
  | case3 | case4 =>
    rintro ⟨⟩
    rfl

theorem flat_token {limits : Limits} {s : List Char} {t : Token} {used : Nat}
    (htoken : token limits s = .ok (t, used)) : t.Flat := by
  revert htoken
  fun_cases token limits s with
  | case7 =>
    obtain hfault | ⟨_, used, htext⟩ := textToken_cases _
    · rw [hfault]
      rintro ⟨⟩
    · rw [htext]
      rintro ⟨⟩
      trivial
  | case14 | case15 => exact flat_number
  | _ =>
    rintro ⟨⟩
    trivial

/-! ## The way of the reader -/

namespace State

/-- How deep the open lists and objects are, and what they hold. -/
def reachOfStack : List Frame → Nat
  | [] => 0
  | .items done :: stack => max (stack.length + 1 + depthOfItems done) (reachOfStack stack)
  | .fields done _ :: stack => max (stack.length + 1 + depthOfFields done) (reachOfStack stack)

/-- How deep all is that was read so far. -/
def reach : State → Nat
  | .value stack => reachOfStack stack
  | .firstItem stack => reachOfStack stack
  | .firstKey stack => reachOfStack stack
  | .nextKey done stack => max (stack.length + 1 + depthOfFields done) (reachOfStack stack)
  | .colon done _ stack => max (stack.length + 1 + depthOfFields done) (reachOfStack stack)
  | .separator v stack => max (stack.length + v.depth) (reachOfStack stack)

/-- What a token is taken for does not depend on the room that is left. -/
theorem step_of_feed {limits : Limits} {state next : State} {t : Token}
    (hfeed : state.feed limits t = .ok next) : state.step t = .ok next := by
  rw [step]
  cases state.effect_feed t with
  | refused hrefused => simp [hrefused] at hfeed
  | level hlevel => rwa [hlevel] at hfeed ⊢
  | deeper _ hdeeper =>
    rw [hdeeper] at hfeed
    split at hfeed
    · rwa [hdeeper, if_pos (Nat.lt_succ_self _)]
    · cases hfeed

theorem reach_beginValue {limits : Limits} {stack : List Frame} {t : Token} {next : State}
    (hflat : t.Flat) (hbegin : beginValue limits stack t = .ok next) :
    next.reach ≤ max (reachOfStack stack) next.depth := by
  revert hbegin
  fun_cases beginValue limits stack t with
  | case1 v =>
    rintro ⟨⟩
    have hv : v.depth = 0 := hflat
    rw [reach, depth, hv]
    omega
  | case2 s =>
    rintro ⟨⟩
    have hs : (Value.text s).depth = 0 := rfl
    rw [reach, depth, hs]
    omega
  | case3 | case5 =>
    rintro ⟨⟩
    exact Nat.le_max_left _ _
  | _ => rintro ⟨⟩

/-- A token leads to nothing deeper than what was read before and what is open around it. -/
theorem reach_feed {limits : Limits} {state next : State} {t : Token} (hflat : t.Flat)
    (hfeed : state.feed limits t = .ok next) :
    next.reach ≤ max state.reach (max state.depth next.depth) := by
  revert hfeed
  fun_cases feed limits state t with
  | case1 stack =>
    intro hbegin
    have hnext := reach_beginValue hflat hbegin
    change next.reach ≤ max (reachOfStack stack) (max stack.length next.depth)
    omega
  | case3 stack =>
    intro hbegin
    have hnext := reach_beginValue hflat hbegin
    change next.reach ≤ max (reachOfStack stack) (max (stack.length + 1) next.depth)
    rw [reachOfStack, depthOfItems] at hnext
    omega
  | case12 => rintro ⟨⟩
  | case9 v done stack =>
    rintro ⟨⟩
    have hclosed := depthOfItems_reverse (v :: done)
    simp only [reach, depth, reachOfStack, Value.depth, depthOfItems,
      List.length_cons] at hclosed ⊢
    omega
  | case11 v done key stack =>
    rintro ⟨⟩
    have hclosed := depthOfFields_overlay_reverse_le ((key, v) :: done)
    simp only [reach, depth, reachOfStack, Value.depth, depthOfFields,
      List.length_cons] at hclosed ⊢
    omega
  | _ =>
    rintro ⟨⟩
    simp only [reach, depth, reachOfStack, Value.depth, depthOfItems, depthOfFields,
      List.length_cons]
    omega

end State

/-- What is read reaches no deeper than what was read before and what is open from then on. -/
theorem depth_readFrom_le {limits : Limits} {state : State} (skip : Nat) {s : List Char} {v : Value}
    (hread : readFrom limits state skip s = .ok v) :
    v.depth ≤ max state.reach (nestingFrom limits.digits state skip s) := by
  induction s generalizing state skip with
  | nil =>
    have hresult : state.result = .ok v := by cases skip <;> exact hread
    revert hresult
    fun_cases State.result state with
    | case1 v =>
      rintro ⟨⟩
      change v.depth ≤ max (max (0 + v.depth) 0) _
      omega
    | case2 => rintro ⟨⟩
  | cons c cs ih =>
    cases skip with
    | succ skip => exact ih skip hread
    | zero =>
      rw [readFrom] at hread
      rw [nestingFrom]
      by_cases hspace : isSpace c = true
      · rw [if_pos hspace] at hread ⊢
        exact ih 0 hread
      · rw [if_neg hspace] at hread ⊢
        have hsame : token limits (c :: cs) = token ⟨0, limits.digits⟩ (c :: cs) := rfl
        rw [hsame] at hread
        cases htoken : token ⟨0, limits.digits⟩ (c :: cs) with
        | error cause => simp [htoken] at hread
        | ok lexeme =>
          obtain ⟨t, used⟩ := lexeme
          simp only [htoken] at hread ⊢
          cases hfeed : state.feed limits t with
          | error cause => simp [hfeed] at hread
          | ok next =>
            simp only [hfeed] at hread
            have hstep : state.step t = .ok next := State.step_of_feed hfeed
            have hreach := State.reach_feed (flat_token htoken) hfeed
            have hdepth := depth_le_nestingFrom limits.digits next (used - 1) cs
            have hrest := ih (used - 1) hread
            rw [hstep]
            dsimp only
            omega

/-- A value in a file is no deeper than the text of the file. -/
theorem depth_readFile_le {stack : Stack} {text : String} {v : Value}
    (hread : readFile stack text = .ok v) : v.depth ≤ nesting text := by
  rw [readFile] at hread
  split at hread
  · cases hread
  · have hdepth := depth_readFrom_le 0 hread
    rwa [State.reach, State.reachOfStack, Nat.zero_max] at hdepth

end MolangAssist.Json
