import MolangAssist.Proofs.Json.Nesting
import MolangAssist.Text.Utf8

/-!
# Lists within lists

Lists that hold nothing but one another are the shortest texts of their depth. The reader opens them
one by one and closes them the same way.
-/
namespace MolangAssist.Json

open Text

/-- An empty list within as many other lists. -/
def listWithin : Nat → Value
  | 0 => .list []
  | levels + 1 => .list [listWithin levels]

/-- The brackets of lists within lists. -/
def brackets (levels : Nat) : List Char := List.replicate levels '[' ++ List.replicate levels ']'

theorem brackets_succ_append (levels : Nat) (rest : List Char) :
    brackets (levels + 1) ++ rest = '[' :: (brackets levels ++ ']' :: rest) := by
  rw [brackets, brackets, List.replicate_succ, List.replicate_succ']
  simp only [List.cons_append, List.append_assoc, List.nil_append]

/-- Behind an opening bracket the lists within are read up to the bracket that closes it. -/
theorem readFrom_brackets {limits : Limits} {stack : List Frame} {levels : Nat} (rest : List Char)
    (hroom : stack.length + levels < limits.depth) :
    readFrom limits (.firstItem stack) 0 (brackets levels ++ ']' :: rest) =
      readFrom limits (.separator (listWithin levels) stack) 0 rest := by
  induction levels generalizing stack rest with
  | zero => rfl
  | succ levels ih =>
    have hopen : readFrom limits (.firstItem stack) 0
        ('[' :: (brackets levels ++ ']' :: ']' :: rest)) =
          readFrom limits (.firstItem (.items [] :: stack)) 0
            (brackets levels ++ ']' :: ']' :: rest) := by
      have hspace : isSpace '[' = false := rfl
      have htoken : token limits ('[' :: (brackets levels ++ ']' :: ']' :: rest)) =
          .ok (.openList, 1) := rfl
      have hnext : stack.length + 1 < limits.depth := by omega
      simp [readFrom, hspace, htoken, State.feed, State.beginValue, hnext]
    rw [brackets_succ_append, hopen, ih (']' :: rest) (by rw [List.length_cons]; omega)]
    rfl

theorem le_nesting_brackets (levels : Nat) :
    levels ≤ nesting (String.ofList (brackets levels)) := by
  have hvalue : (State.value []).takesValue = true := rfl
  have hopenings := le_nestingFrom_openings maxDigits hvalue levels (List.replicate levels ']')
  rw [State.depth, List.length_nil, Nat.zero_add] at hopenings
  rwa [nesting, String.toList_ofList, brackets]

theorem return_not_mem_brackets (levels : Nat) : '\r' ∉ brackets levels := by
  simp [brackets]

/-! ## Files -/

theorem normalizeNewlines_of_not_mem {cs : List Char} (hcs : '\r' ∉ cs) :
    normalizeNewlines cs = cs := by
  fun_induction normalizeNewlines cs with
  | case1 => rfl
  | case2 | case3 => simp at hcs
  | case4 c cs _ _ ih => rw [ih fun hmem => hcs (List.mem_cons_of_mem c hmem)]

theorem decodeFile?_toUTF8 {text : String} (htext : '\r' ∉ text.toList) :
    decodeFile? text.toUTF8 = some text := by
  have hread : String.fromUTF8? text.toUTF8 = some text := by
    rw [String.fromUTF8?, String.toUTF8_eq_toByteArray, dif_pos text.isValidUTF8]
    rfl
  rw [decodeFile?, hread, Option.map_some, normalizeNewlines_of_not_mem htext, String.ofList_toList]

end MolangAssist.Json
