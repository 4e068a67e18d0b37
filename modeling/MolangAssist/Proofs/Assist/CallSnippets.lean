import MolangAssist.Assist.Completion
import MolangAssist.Proofs.Text.Snippet
import MolangAssist.Schema.Decode

/-!
# Snippets of calls

The offer of a callable member inserts a snippet that stands for a call with a tab stop for each
parameter. Names are put in as they are, without escapes. So the snippet is read as that call if
and only if no special form stands in a name and no parameter holds a closing brace.
-/
namespace MolangAssist.Assist

open Schema Text Text.Snippet

/-! ## The call that is meant -/

/-- The text that stands for a parameter: its name, if it has one. -/
def shownName (index : Nat) (p : Param) : String :=
  match p.name with
  | none | some "" => "arg" ++ toString index
  | some name => name

/-- A tab stop with a default text. -/
def hole (index : Nat) (shown : List Char) : List Token :=
  .opening index :: (literal shown ++ [.close])

/-- The tab stops of the parameters, numbered from `first`. -/
def holes (first : Nat) (params : List Param) : List (List Token) :=
  (params.zipIdx first).map fun entry => hole entry.2 (shownName entry.2 entry.1).toList

/-- A call with a tab stop for each parameter, numbered from 1. -/
def callTokens (name : String) (params : List Param) : List Token :=
  literal name.toList ++
    .char '(' :: ((literal [',', ' ']).intercalate (holes 1 params) ++ [.char ')'])

/-! ## It is what the snippet spells -/

theorem present?_getD_eq_shownName (index : Nat) (p : Param) :
    (present? p.name).getD ("arg" ++ toString index) = shownName index p := by
  rw [shownName]
  split
  · next h => rw [h]; rfl
  · next h => rw [h]; rfl
  · next name hne h =>
    have hname : name ≠ "" := hne
    simp [h, present?, Option.filter, hname]

theorem toList_placeholder (index : Nat) (p : Param) :
    (placeholder index p).toList = write (hole index (shownName index p).toList) := by
  rw [placeholder, present?_getD_eq_shownName]
  simp [hole, Token.written]

theorem map_toList_placeholders (first : Nat) (params : List Param) :
    (placeholders first params).map String.toList = (holes first params).map write := by
  induction params generalizing first with
  | nil => rfl
  | cons p ps ih =>
    simpa [placeholders, holes, toList_placeholder] using ih (first + 1)

theorem toList_callSnippet (name : String) (params : List Param) :
    (callSnippet name params).toList = write (callTokens name params) := by
  simp [callSnippet, callTokens, String.toList_intercalate, map_toList_placeholders,
    write_intercalate, Token.written]

/-! ## When it is read -/

theorem readsBack_hole_append (index : Nat) (shown : List Char) (tokens : List Token) :
    ReadsBack 0 (hole index shown ++ tokens) ↔
      (Plain (shown ++ ['\x7d']) ∧ '\x7d' ∉ shown) ∧ ReadsBack 0 tokens := by
  have hbehind : write (.close :: tokens) = '\x7d' :: write tokens := rfl
  have hplain := plain_concat_iff (s := shown) (x := '\x7d') (by decide) (write tokens)
  rw [hole, List.cons_append, List.append_assoc, readsBack_opening, List.singleton_append,
    readsBack_literal_append, readsBack_close, hbehind, ← hplain]
  simp

theorem readsBack_separator {tokens : List Token} :
    ReadsBack 0 (literal [',', ' '] ++ tokens) ↔ ReadsBack 0 tokens := by
  have hspell : literal [',', ' '] ++ tokens = .char ',' :: .char ' ' :: tokens := rfl
  rw [hspell, readsBack_plainChar (by decide), readsBack_plainChar (by decide)]

theorem readsBack_holes (entries : List (Nat × List Char)) :
    ReadsBack 0 ((literal [',', ' ']).intercalate (entries.map fun entry => hole entry.1 entry.2)
        ++ [.char ')']) ↔
      ∀ entry ∈ entries, Plain (entry.2 ++ ['\x7d']) ∧ '\x7d' ∉ entry.2 := by
  have hend : ReadsBack 0 [.char ')'] := (readsBack_plainChar (by decide)).2 rfl
  induction entries with
  | nil => simpa using hend
  | cons entry entries ih =>
    rw [List.map_cons, List.forall_mem_cons]
    cases entries with
    | nil => simpa [hend] using readsBack_hole_append entry.1 entry.2 [.char ')']
    | cons next rest =>
      rw [List.map_cons] at ih ⊢
      rw [List.intercalate_cons_cons, List.append_assoc, List.append_assoc,
        readsBack_hole_append, readsBack_separator]
      exact and_congr_right fun _ => ih

/-- The snippet of a call is read as the call. -/
theorem decode_callSnippet_iff (name : String) (params : List Param) :
    decode (callSnippet name params).toList = callTokens name params ↔
      Plain name.toList ∧
        ∀ p index, (p, index) ∈ params.zipIdx 1 →
          Plain ((shownName index p).toList ++ ['\x7d']) ∧
            '\x7d' ∉ (shownName index p).toList := by
  have hholes := readsBack_holes ((params.zipIdx 1).map fun entry =>
    (entry.2, (shownName entry.2 entry.1).toList))
  simp only [List.map_map, List.forall_mem_map, Prod.forall] at hholes
  rw [toList_callSnippet]
  change ReadsBack 0 (callTokens name params) ↔ _
  rw [callTokens, readsBack_literal_append, readsBack_plainChar (by decide), write_cons,
    Token.written, List.singleton_append, ← plain_concat_iff (by decide),
    plain_concat_parenthesis]
  simp only [implies_true, and_true]
  exact and_congr_right fun _ => hholes

/-- A callable member is offered as a snippet. It is read as a call with the parameters' tab stops
if and only if the name holds no special form, and no parameter's text holds a closing brace or, its
own closing brace included, a special form. -/
theorem memberItem_reads_as_call_iff (name : String) (member : Member) (rank : String)
    (hparams : member.notes.params ≠ []) :
    (memberItem name member rank).isSnippet = true ∧
      ∃ snippet, (memberItem name member rank).insertText = some snippet ∧
        (decode snippet.toList = callTokens name member.notes.params ↔
          Plain name.toList ∧
            ∀ p index, (p, index) ∈ member.notes.params.zipIdx 1 →
              Plain ((shownName index p).toList ++ ['\x7d']) ∧
                '\x7d' ∉ (shownName index p).toList) := by
  have hcallable : member.isCallable = true := by
    simpa [Member.isCallable] using hparams
  refine ⟨hcallable, callSnippet name member.notes.params, ?_, decode_callSnippet_iff _ _⟩
  rw [memberItem, if_pos hcallable]

/-- Dollar signs, backslashes and braces do no harm where they start nothing. -/
theorem memberItem_reads_as_call_iff_harmless :
    let params : List Param := [{ name := some "price $" }, {}, { name := some "C:\\dir" }]
    params ≠ [] ∧
      ∃ snippet, (memberItem "all\x7d" (.value { params := params } none) "0").insertText =
          some snippet ∧
        decode snippet.toList = callTokens "all\x7d" params := by
  intro params
  obtain ⟨_, snippet, htext, hreads⟩ :=
    memberItem_reads_as_call_iff "all\x7d" (.value { params := params } none) "0"
      (List.cons_ne_nil _ _)
  refine ⟨List.cons_ne_nil _ _, snippet, htext, hreads.2 ⟨by decide, ?_⟩⟩
  intro p index hmem
  simp only [Member.notes, params, List.zipIdx_cons, List.zipIdx_nil, List.mem_cons,
    Prod.mk.injEq, List.not_mem_nil, or_false] at hmem
  rcases hmem with ⟨rfl, rfl⟩ | ⟨rfl, rfl⟩ | ⟨rfl, rfl⟩ <;> decide

/-- The closing brace in a parameter's name ends the placeholder, and the rest of the name stands
behind it in the script. -/
theorem brace_ends_placeholder :
    let member : Member := .value { params := [{ name := some "a\x7db" }] } (some "Number")
    decodeMember? (.object [("type", .text "Number"),
        ("params", .list [.object [("name", .text "a\x7db")]])]) = some member ∧
      member.notes.params ≠ [] ∧
      ∃ snippet, (memberItem "mix" member "0").insertText = some snippet ∧
        decode snippet.toList =
          literal ['m', 'i', 'x', '('] ++ hole 1 ['a'] ++ literal ['b', '\x7d', ')'] ∧
        decode snippet.toList ≠ callTokens "mix" member.notes.params := by
  intro member
  refine ⟨rfl, by decide, callSnippet "mix" member.notes.params, rfl, by decide, by decide⟩

end MolangAssist.Assist
