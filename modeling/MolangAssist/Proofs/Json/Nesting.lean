import Mathlib.Data.List.Count
import MolangAssist.Json.Reader

/-!
# Nesting of lists and objects

The reader gives up on a text whose lists and objects are nested beyond its limit. How deep a text
goes does not depend on the limit: it is the most that is open at a time on the way to the end of
the text, or to the first fault in it.
-/
namespace MolangAssist.Json

/-- Whether a token opens a list or an object. -/
def Token.opens : Token → Bool
  | .openList => true
  | .openObject => true
  | _ => false

/-- Opens a list or an object, unless it stands in a text. -/
def isOpening (c : Char) : Bool := c == '[' || c == '\x7b'

namespace State

/-- How many lists and objects are open. -/
def depth : State → Nat
  | .value stack => stack.length
  | .firstItem stack => stack.length + 1
  | .firstKey stack => stack.length + 1
  | .nextKey _ stack => stack.length + 1
  | .colon _ _ stack => stack.length + 1
  | .separator _ stack => stack.length

/-- Takes one token, with room for one more list or object. -/
def step (state : State) (t : Token) : Except ReadError State :=
  state.feed ⟨state.depth + 1, 0⟩ t

/-- What a token does to a reader at some depth: it is refused, it leads no deeper, or it leads one
deeper if the limit allows. -/
inductive Effect (depth : Nat) (t : Token) (feed : Limits → Except ReadError State) : Prop
  | refused (hfeed : ∀ limits, feed limits = .error .malformed)
  | level {next : State} (hfeed : ∀ limits, feed limits = .ok next) (hnext : next.depth ≤ depth)
  | deeper {next : State} (hopens : t.opens = true)
      (hfeed : ∀ limits : Limits,
        feed limits = if depth < limits.depth then .ok next else .error .tooDeep)
      (hnext : next.depth = depth + 1)

theorem effect_beginValue (stack : List Frame) (t : Token) :
    Effect stack.length t fun limits => beginValue limits stack t := by
  cases t with
  | atom v | text s => exact .level (fun _ => rfl) (Nat.le_refl _)
  | openList | openObject => exact .deeper rfl (fun _ => rfl) rfl
  | _ => exact .refused fun _ => rfl

theorem effect_feed (state : State) (t : Token) :
    Effect state.depth t fun limits => state.feed limits t := by
  cases state with
  | value stack => exact effect_beginValue stack t
  | firstItem stack =>
    have hbegin := effect_beginValue (.items [] :: stack) t
    cases t with
    | closeList => exact .level (fun _ => rfl) (Nat.le_succ _)
    | _ => exact hbegin
  | firstKey stack =>
    cases t with
    | closeObject => exact .level (fun _ => rfl) (Nat.le_succ _)
    | text key => exact .level (fun _ => rfl) (Nat.le_refl _)
    | _ => exact .refused fun _ => rfl
  | nextKey done stack =>
    cases t with
    | text key => exact .level (fun _ => rfl) (Nat.le_refl _)
    | _ => exact .refused fun _ => rfl
  | colon done key stack =>
    cases t with
    | colon => exact .level (fun _ => rfl) (Nat.le_refl _)
    | _ => exact .refused fun _ => rfl
  | separator v stack =>
    cases stack with
    | nil => exact .refused fun _ => by cases t <;> rfl
    | cons frame stack =>
      cases frame with
      | items done =>
        cases t with
        | comma => exact .level (fun _ => rfl) (Nat.le_refl _)
        | closeList => exact .level (fun _ => rfl) (Nat.le_succ _)
        | _ => exact .refused fun _ => rfl
      | fields done key =>
        cases t with
        | comma => exact .level (fun _ => rfl) (Nat.le_refl _)
        | closeObject => exact .level (fun _ => rfl) (Nat.le_succ _)
        | _ => exact .refused fun _ => rfl

/-- Where a value may stand, a list may be opened. -/
theorem step_openList {state : State} (hvalue : state.takesValue = true) :
    ∃ next, state.step .openList = .ok next ∧ next.takesValue = true ∧
      next.depth = state.depth + 1 := by
  cases state with
  | value stack => exact ⟨.firstItem stack, by simp [step, feed, beginValue, depth], rfl, rfl⟩
  | firstItem stack =>
    exact ⟨.firstItem (.items [] :: stack), by simp [step, feed, beginValue, depth], rfl, rfl⟩
  | _ => cases hvalue

end State

/-! ## Tokens -/

theorem number_cases (limits : Limits) (negative : Bool) (s : List Char) :
    (∃ cause, number limits negative s = .error cause ∧ cause ≠ .tooDeep) ∨
      ∃ v used, number limits negative s = .ok (.atom v, used) := by
  fun_cases number limits negative s with
  | case1 | case2 => exact .inl ⟨_, rfl, nofun⟩
  | case3 | case4 => exact .inr ⟨_, _, rfl⟩

theorem textToken_cases (body : Option (List Nat × Nat)) :
    textToken body = .error .malformed ∨ ∃ s used, textToken body = .ok (.text s, used) := by
  cases body with
  | none => exact .inl rfl
  | some body => exact .inr ⟨_, _, rfl⟩

/-- A token has no depth, and one that opens something is a single character. -/
theorem token_cases (limits : Limits) (c : Char) (cs : List Char) :
    (∃ cause, token limits (c :: cs) = .error cause ∧ cause ≠ .tooDeep) ∨
      ∃ t used, token limits (c :: cs) = .ok (t, used) ∧
        (t.opens = true → isOpening c = true) := by
  have hnumber : ∀ negative s,
      (∃ cause, number limits negative s = .error cause ∧ cause ≠ .tooDeep) ∨
        ∃ t used, number limits negative s = .ok (t, used) ∧
          (t.opens = true → isOpening c = true) := by
    intro negative s
    obtain hfault | ⟨v, used, hatom⟩ := number_cases limits negative s
    · exact .inl hfault
    · exact .inr ⟨_, used, hatom, nofun⟩
  generalize hs : c :: cs = s
  fun_cases token limits s with
  | case1 | case3 =>
    obtain ⟨rfl, rfl⟩ := List.cons.inj hs
    exact .inr ⟨_, _, rfl, fun _ => rfl⟩
  | case7 =>
    obtain hfault | ⟨_, used, htext⟩ := textToken_cases _
    · exact .inl ⟨_, hfault, nofun⟩
    · exact .inr ⟨_, used, htext, nofun⟩
  | case14 | case15 => exact hnumber _ _
  | _ => exact .inr ⟨_, _, rfl, nofun⟩

/-! ## Texts -/

/-- The most lists and objects that are open at a time while the rest of a text is read. -/
def nestingFrom (digits : Nat) : (state : State) → (skip : Nat) → List Char → Nat
  | state, _, [] => state.depth
  | state, skip + 1, _ :: cs => nestingFrom digits state skip cs
  | state, 0, c :: cs =>
    if isSpace c then nestingFrom digits state 0 cs
    else
      match token ⟨0, digits⟩ (c :: cs) with
      | .error _ => state.depth
      | .ok (t, used) =>
        match state.step t with
        | .error _ => state.depth
        | .ok next => max state.depth (nestingFrom digits next (used - 1) cs)

/-- How deeply the lists and objects of a file are nested. -/
def nesting (text : String) : Nat := nestingFrom Text.maxDigits (.value []) 0 text.toList

theorem depth_le_nestingFrom (digits : Nat) (state : State) (skip : Nat) (s : List Char) :
    state.depth ≤ nestingFrom digits state skip s := by
  induction s generalizing state skip with
  | nil => cases skip <;> exact Nat.le_refl _
  | cons c cs ih =>
    cases skip with
    | succ skip => exact ih state skip
    | zero =>
      rw [nestingFrom]
      split
      · exact ih state 0
      · split
        · exact Nat.le_refl _
        · split
          · exact Nat.le_refl _
          · exact Nat.le_max_left _ _

/-- The reader gives up exactly where the text goes deeper than the limit. -/
theorem readFrom_tooDeep_iff {limits : Limits} {state : State} (skip : Nat) (s : List Char)
    (hdepth : state.depth ≤ limits.depth) :
    readFrom limits state skip s = .error .tooDeep ↔
      limits.depth < nestingFrom limits.digits state skip s := by
  induction s generalizing state skip with
  | nil =>
    have hend : state.result ≠ .error .tooDeep := by
      fun_cases State.result state <;> nofun
    cases skip <;> exact iff_of_false hend (Nat.not_lt.mpr hdepth)
  | cons c cs ih =>
    cases skip with
    | succ skip => exact ih skip hdepth
    | zero =>
      rw [readFrom, nestingFrom]
      by_cases hspace : isSpace c = true
      · rw [if_pos hspace, if_pos hspace]
        exact ih 0 hdepth
      · have hsame : token limits (c :: cs) = token ⟨0, limits.digits⟩ (c :: cs) := rfl
        rw [if_neg hspace, if_neg hspace, hsame]
        obtain ⟨cause, htoken, hcause⟩ | ⟨t, used, htoken, -⟩ :=
          token_cases ⟨0, limits.digits⟩ c cs
        · rw [htoken]
          refine iff_of_false ?_ (Nat.not_lt.mpr hdepth)
          cases state.takesValue <;> simp [hcause]
        · rw [htoken]
          dsimp only [State.step]
          -- A token that is refused or opens nothing keeps the depth within the limit; only an
          -- opening one at the limit itself is too deep, and then the text is deeper as well.
          cases state.effect_feed t with
          | refused hfeed =>
            rw [hfeed, hfeed]
            exact iff_of_false nofun (Nat.not_lt.mpr hdepth)
          | level hfeed hnext =>
            rw [hfeed, hfeed]
            dsimp only
            rw [ih _ (Nat.le_trans hnext hdepth)]
            omega
          | @deeper next _ hfeed hnext =>
            rw [hfeed, hfeed, if_pos (Nat.lt_succ_self _)]
            by_cases hroom : state.depth < limits.depth
            · rw [if_pos hroom]
              dsimp only
              rw [ih _ (by omega)]
              omega
            · have hdeeper := depth_le_nestingFrom limits.digits next (used - 1) cs
              rw [if_neg hroom]
              dsimp only
              exact iff_of_true rfl (by omega)

theorem read_tooDeep_iff (depth : Nat) (text : String) :
    read ⟨depth, Text.maxDigits⟩ text = .error .tooDeep ↔ depth < nesting text :=
  readFrom_tooDeep_iff 0 text.toList (Nat.zero_le _)

/-- A file is refused for its depth exactly if the stack is not enough for what is open in it. -/
theorem readFile_tooDeep_iff (stack : Stack) (text : String) :
    readFile stack text = .error .tooDeep ↔ stack.frames < stack.reader + nesting text := by
  rw [readFile]
  split
  · exact iff_of_true rfl (by omega)
  · rw [read_tooDeep_iff]
    omega

theorem nestingFrom_le (digits : Nat) (state : State) (skip : Nat) (s : List Char) :
    nestingFrom digits state skip s ≤ state.depth + s.countP isOpening := by
  induction s generalizing state skip with
  | nil => cases skip <;> exact Nat.le_refl _
  | cons c cs ih =>
    have hrest : cs.countP isOpening ≤ (c :: cs).countP isOpening :=
      (List.sublist_cons_self c cs).countP_le
    cases skip with
    | succ skip => exact Nat.le_trans (ih state skip) (Nat.add_le_add_left hrest _)
    | zero =>
      rw [nestingFrom]
      split
      · exact Nat.le_trans (ih state 0) (Nat.add_le_add_left hrest _)
      · obtain ⟨cause, htoken, -⟩ | ⟨t, used, htoken, hopening⟩ := token_cases ⟨0, digits⟩ c cs
        · rw [htoken]
          exact Nat.le_add_right _ _
        · rw [htoken]
          dsimp only [State.step]
          cases state.effect_feed t with
          | refused hfeed =>
            rw [hfeed]
            exact Nat.le_add_right _ _
          | @level next hfeed hnext =>
            have hlater := ih next (used - 1)
            rw [hfeed]
            dsimp only
            omega
          | @deeper next hopens hfeed hnext =>
            have hlater := ih next (used - 1)
            rw [List.countP_cons_of_pos (hopening hopens)]
            rw [hfeed, if_pos (Nat.lt_succ_self _)]
            dsimp only
            omega

/-- No text is nested more deeply than it has opening brackets. -/
theorem nesting_le (text : String) : nesting text ≤ text.toList.countP isOpening := by
  have hbound := nestingFrom_le Text.maxDigits (.value []) 0 text.toList
  rwa [State.depth, List.length_nil, Nat.zero_add] at hbound

theorem le_nestingFrom_openings (digits : Nat) {state : State} (hvalue : state.takesValue = true)
    (openings : Nat) (rest : List Char) :
    state.depth + openings ≤
      nestingFrom digits state 0 (List.replicate openings '[' ++ rest) := by
  induction openings generalizing state with
  | zero => exact depth_le_nestingFrom digits state 0 rest
  | succ openings ih =>
    obtain ⟨next, hstep, hnext, hdepth⟩ := State.step_openList hvalue
    have hlater := ih hnext
    have hspace : isSpace '[' = false := rfl
    rw [List.replicate_succ, List.cons_append, nestingFrom, hspace]
    simp only [token, hstep, Bool.false_eq_true, if_false, Nat.sub_self]
    omega

end MolangAssist.Json
