import Mathlib.Data.List.Forall2
import MolangAssist.Proofs.Settings.Variables
import MolangAssist.Proofs.Text.Hits
import MolangAssist.Proofs.Text.Readers

/-!
# References in a text

A text is cut from left to right into references and characters that stand for themselves. There is
one way to do so, since what follows a dollar sign tells whether a reference starts there, and where
it ends. The values of the pieces are put one behind the other, so a dollar sign in a value is never
read again.
-/
namespace MolangAssist.Settings

open Files Json Text

/-! ## Pieces -/

/-- A piece of a text: a character that stands for itself, or a reference in one of two forms. -/
inductive Piece where
  | literal (c : Char)
  | braced (name : List Char)
  | bare (name : List Char)
deriving Repr, DecidableEq

namespace Piece

/-- The piece as it is written. -/
def written : Piece → List Char
  | .literal c => [c]
  | .braced name => '$' :: '\x7b' :: (name ++ ['\x7d'])
  | .bare name => '$' :: name

/-- The name that the piece refers to. -/
def name? : Piece → Option String
  | .literal _ => none
  | .braced name => some (String.ofList name)
  | .bare name => some (String.ofList name)

/-- The value of the piece. The name of the workspace root means the root in every environment. -/
def value? (environment : Table String) (root : Path) (piece : Piece) : Option (List Char) :=
  match piece.name? with
  | none => some piece.written
  | some name =>
    (if name = "workspaceRoot" then some root.toString else Table.get? environment name).map
      String.toList

/-- A reference before the rest of a text. In braces it is a name and nothing else; without them the
name goes on as long as it can. -/
inductive IsReference : Piece → List Char → Prop where
  | braced {name rest : List Char} (hname : isName name = true) : IsReference (.braced name) rest
  | bare {name rest : List Char} (hname : isName name = true)
      (hends : ∀ c ∈ rest.head?, isWordChar c = false) : IsReference (.bare name) rest

end Piece

/-- A text starts with a reference. -/
structure Refers (s : List Char) (piece : Piece) (rest : List Char) : Prop where
  split : s = piece.written ++ rest
  valid : piece.IsReference rest

/-- A text cut into pieces from left to right. A character stands for itself only if no reference
starts with it. -/
inductive Cut : List Char → List Piece → Prop where
  | nil : Cut [] []
  | reference {s rest : List Char} {piece : Piece} {pieces : List Piece}
      (hrefers : Refers s piece rest) (hrest : Cut rest pieces) : Cut s (piece :: pieces)
  | literal {c : Char} {rest : List Char} {pieces : List Piece}
      (hnone : ∀ piece behind, ¬Refers (c :: rest) piece behind) (hrest : Cut rest pieces) :
      Cut (c :: rest) (.literal c :: pieces)

/-! ## One piece -/

/-- A name starts with no brace. -/
theorem exists_cons_of_isName {name : List Char} (hname : isName name = true) :
    ∃ d tail, name = d :: tail ∧ d ≠ '\x7b' := by
  cases name with
  | nil => cases hname
  | cons d tail =>
    refine ⟨d, tail, rfl, ?_⟩
    rintro rfl
    rw [isName, Bool.and_eq_true] at hname
    exact absurd hname.1 (by decide)

theorem Refers.exists_cons {s rest : List Char} {piece : Piece} (hrefers : Refers s piece rest) :
    ∃ run, s = '$' :: (run ++ rest) := by
  obtain ⟨rfl, hvalid⟩ := hrefers
  cases hvalid <;> exact ⟨_, rfl⟩

theorem reference_of_refers {s rest : List Char} {piece : Piece} (hrefers : Refers s piece rest)
    (before : Option Char) :
    ∃ name, piece.name? = some (String.ofList name) ∧ reference before s = some (name, rest) := by
  obtain ⟨rfl, hvalid⟩ := hrefers
  cases hvalid with
  | @braced name _ hname =>
    have hread : name? (name ++ '\x7d' :: rest) = some (name, '\x7d' :: rest) :=
      name?_eq_some_iff.mpr ⟨rfl, hname, by rintro c ⟨⟩; decide⟩
    refine ⟨name, rfl, ?_⟩
    simp [Piece.written, reference, hread]
  | @bare name _ hname hends =>
    have hread : name? (name ++ rest) = some (name, rest) :=
      name?_eq_some_iff.mpr ⟨rfl, hname, hends⟩
    obtain ⟨d, tail, rfl, hd⟩ := exists_cons_of_isName hname
    refine ⟨d :: tail, rfl, ?_⟩
    rw [List.cons_append] at hread
    simp [Piece.written, reference, hd, hread]

theorem exists_refers {before : Option Char} {s name rest : List Char}
    (hread : reference before s = some (name, rest)) : ∃ piece, Refers s piece rest := by
  unfold reference at hread
  split at hread
  · next inside =>
    split at hread
    · next hname =>
      cases hread
      obtain ⟨rfl, hvalid, _⟩ := name?_eq_some_iff.mp hname
      exact ⟨.braced _, by simp [Piece.written], .braced hvalid⟩
    · cases hread
  · obtain ⟨rfl, hvalid, hends⟩ := name?_eq_some_iff.mp hread
    exact ⟨.bare _, rfl, .bare hvalid hends⟩
  · cases hread

theorem reference_consumes : reference.Consumes := by
  intro before s name rest hread
  obtain ⟨piece, hrefers⟩ := exists_refers hread
  obtain ⟨run, rfl⟩ := hrefers.exists_cons
  exact ⟨'$' :: run, List.cons_ne_nil _ _, rfl⟩

/-- A text starts with one reference at most. -/
theorem Refers.unique {s rest rest' : List Char} {piece piece' : Piece}
    (hrefers : Refers s piece rest) (hrefers' : Refers s piece' rest') :
    piece = piece' ∧ rest = rest' := by
  obtain ⟨name, _, hread⟩ := reference_of_refers hrefers none
  obtain ⟨name', _, hread'⟩ := reference_of_refers hrefers' none
  obtain ⟨_, rfl⟩ : name = name' ∧ rest = rest' := by
    simpa [hread] using hread'
  have hwritten : piece.written = piece'.written :=
    List.append_cancel_right (hrefers.split.symm.trans hrefers'.split)
  refine ⟨?_, rfl⟩
  -- A brace behind the dollar sign is what tells the two forms apart.
  cases hrefers.valid with
  | braced hname =>
    cases hrefers'.valid with
    | braced hname' => simpa [Piece.written] using hwritten
    | bare hname' hends' =>
      obtain ⟨d, tail, rfl, hd⟩ := exists_cons_of_isName hname'
      simp [Piece.written, Ne.symm hd] at hwritten
  | bare hname hends =>
    cases hrefers'.valid with
    | braced hname' =>
      obtain ⟨d, tail, rfl, hd⟩ := exists_cons_of_isName hname
      simp [Piece.written, hd] at hwritten
    | bare hname' hends' => simpa [Piece.written] using hwritten

/-! ## All pieces -/

theorem exists_cut (s : List Char) : ∃ pieces, Cut s pieces := by
  have hcuts : ∀ (offset : Nat) (before : Option Char), ∃ pieces, Cut s pieces := by
    intro offset before
    induction offset, before, s using reference_consumes.induction with
    | nil => exact ⟨[], .nil⟩
    | miss _ before c cs hmiss ih =>
      obtain ⟨pieces, hcut⟩ := ih
      refine ⟨.literal c :: pieces, .literal ?_ hcut⟩
      intro piece behind hrefers
      obtain ⟨name, _, hread⟩ := reference_of_refers hrefers before
      rw [hmiss] at hread
      cases hread
    | hit _ before used rest name _ hread ih =>
      obtain ⟨pieces, hcut⟩ := ih
      obtain ⟨piece, hrefers⟩ := exists_refers hread
      exact ⟨piece :: pieces, .reference hrefers hcut⟩
  exact hcuts 0 none

theorem Cut.unique {s : List Char} {pieces others : List Piece} (hcut : Cut s pieces)
    (hothers : Cut s others) : others = pieces := by
  induction hcut generalizing others with
  | nil =>
    cases hothers with
    | nil => rfl
    | reference hrefers _ =>
      obtain ⟨run, hs⟩ := hrefers.exists_cons
      cases hs
  | reference hrefers hrest ih =>
    cases hothers with
    | nil =>
      obtain ⟨run, hs⟩ := hrefers.exists_cons
      cases hs
    | reference hrefers' hrest' =>
      obtain ⟨rfl, rfl⟩ := hrefers.unique hrefers'
      rw [ih hrest']
    | literal hnone _ => exact absurd hrefers (hnone _ _)
  | literal hnone hrest ih =>
    cases hothers with
    | reference hrefers _ => exact absurd hrefers (hnone _ _)
    | literal _ hrest' => rw [ih hrest']

theorem Cut.written {s : List Char} {pieces : List Piece} (hcut : Cut s pieces) :
    pieces.flatMap Piece.written = s := by
  induction hcut with
  | nil => rfl
  | reference hrefers _ ih => rw [List.flatMap_cons, ih, hrefers.split]
  | literal _ _ ih => rw [List.flatMap_cons, ih, Piece.written, List.singleton_append]

/-- How a piece is kept once the text is cut. -/
def Piece.fragment : Piece → Fragment
  | .literal c => .literal c
  | .braced name => .variable (String.ofList name)
  | .bare name => .variable (String.ofList name)

theorem fragmentsFrom_skip (run rest : List Char) :
    fragmentsFrom run.length (run ++ rest) = fragmentsFrom 0 rest := by
  induction run with
  | nil => rfl
  | cons c run ih => rw [List.length_cons, List.cons_append, fragmentsFrom, ih]

theorem fragmentsFrom_refers {s rest : List Char} {piece : Piece} (hrefers : Refers s piece rest) :
    fragmentsFrom 0 s = piece.fragment :: fragmentsFrom 0 rest := by
  obtain ⟨name, hname, hread⟩ := reference_of_refers hrefers none
  have hfragment : piece.fragment = .variable (String.ofList name) := by
    cases hrefers.valid <;> simpa [Piece.name?, Piece.fragment] using hname
  obtain ⟨run, rfl⟩ := hrefers.exists_cons
  have hlength : (run ++ rest).length - rest.length = run.length := by simp
  rw [fragmentsFrom, hread, hfragment]
  simp only [hlength, fragmentsFrom_skip]

theorem Cut.fragments {s : List Char} {pieces : List Piece} (hcut : Cut s pieces) :
    fragmentsFrom 0 s = pieces.map Piece.fragment := by
  induction hcut with
  | nil => rfl
  | reference hrefers _ ih => rw [fragmentsFrom_refers hrefers, ih, List.map_cons]
  | @literal c rest pieces hnone _ ih =>
    have hmiss : Settings.reference none (c :: rest) = none := by
      cases hread : Settings.reference none (c :: rest) with
      | none => rfl
      | some found =>
        obtain ⟨piece, hrefers⟩ := exists_refers hread
        exact absurd hrefers (hnone piece _)
    rw [fragmentsFrom, hmiss]
    simp only [ih, List.map_cons, Piece.fragment]

/-! ## Values -/

theorem get?_knownVariables (environment : Table String) (root : Path) (name : String) :
    Table.get? (knownVariables environment root) name =
      if name = "workspaceRoot" then some root.toString else Table.get? environment name := by
  rw [knownVariables, Table.get?_cons]

theorem Piece.isNone_value? (environment : Table String) (root : Path) (piece : Piece) :
    (piece.value? environment root).isNone = piece.name?.any (isUnset environment) := by
  rw [Piece.value?]
  cases piece.name? with
  | none => rfl
  | some name =>
    rw [Option.any_some, ← isNone_get?_knownVariables environment root, get?_knownVariables]
    exact Option.isNone_map

theorem Cut.referredNames {text : String} {pieces : List Piece} (hcut : Cut text.toList pieces) :
    referredNames text = pieces.filterMap Piece.name? := by
  rw [Settings.referredNames, scan, ← fragmentsFrom_name? 0 0 none, hcut.fragments,
    List.filterMap_map]
  congr 1
  funext piece
  cases piece <;> rfl

theorem Cut.expand {text : String} {pieces : List Piece} (hcut : Cut text.toList pieces)
    (environment : Table String) (root : Path) :
    expand (knownVariables environment root) text =
      String.ofList (pieces.map fun piece => (piece.value? environment root).getD []).flatten := by
  have hvalue : ∀ value : Option String,
      (value.getD "").toList = (value.map String.toList).getD [] := by
    rintro (_ | value) <;> rfl
  rw [Settings.expand, Settings.fragments, hcut.fragments, List.flatMap_map, ← List.flatMap_def]
  congr 2
  funext piece
  cases piece with
  | literal c => rfl
  | braced name =>
    simp only [Piece.fragment, Piece.value?, Piece.name?, get?_knownVariables, hvalue]
  | bare name =>
    simp only [Piece.fragment, Piece.value?, Piece.name?, get?_knownVariables, hvalue]

/-- Without references, every piece stands for itself. -/
theorem flatten_value?_of_no_names {pieces : List Piece}
    (hnames : pieces.filterMap Piece.name? = []) (environment : Table String) (root : Path) :
    (pieces.map fun piece => (piece.value? environment root).getD []).flatten =
      pieces.flatMap Piece.written := by
  rw [List.filterMap_eq_nil_iff] at hnames
  rw [← List.flatMap_def]
  apply List.flatMap_congr
  intro piece hpiece
  rw [Piece.value?, hnames piece hpiece, Option.getD_some]

/-- A text has one cut. If all names in it have values, these are put in the places of the
references and the rest stays as it is. Otherwise nothing is left of the text, and there is a
warning for each reference without a value, in order. -/
theorem substitute_text_in_one_pass (environment : Table String) (root : Path) (text : String) :
    ∃ pieces, Cut text.toList pieces ∧ (∀ others, Cut text.toList others → others = pieces) ∧
      pieces.flatMap Piece.written = text.toList ∧
      let vars := knownVariables environment root
      let unset := (pieces.filterMap Piece.name?).filter (isUnset environment)
      (unsetWithin vars (.text text)).map unsetWarning = unset.map unsetWarning ∧
      (unset = [] → ∃ values,
        List.Forall₂ (fun piece value => Piece.value? environment root piece = some value) pieces
          values ∧ substitute vars (.text text) = .text (String.ofList values.flatten)) ∧
      (unset ≠ [] → substitute vars (.text text) = .null) ∧
      (pieces.filterMap Piece.name? = [] → substitute vars (.text text) = .text text) := by
  obtain ⟨pieces, hcut⟩ := exists_cut text.toList
  refine ⟨pieces, hcut, fun others => hcut.unique, hcut.written, ?_⟩
  intro vars unset
  have hunset : unsetVariables vars text = unset := by
    rw [unsetVariables_eq, hcut.referredNames]
  have hsubstitute : substitute vars (.text text) =
      if unset.isEmpty then .text (expand vars text) else .null := by
    rw [substitute, hunset]
  refine ⟨by rw [unsetWithin, hunset], ?_, ?_, ?_⟩
  · intro hempty
    refine ⟨pieces.map fun piece => (piece.value? environment root).getD [], ?_, ?_⟩
    · rw [List.forall₂_map_right_iff, List.forall₂_same]
      intro piece hpiece
      cases hvalue : piece.value? environment root with
      | some value => rfl
      | none =>
        have hnone := Piece.isNone_value? environment root piece
        rw [hvalue, Option.isNone_none, eq_comm, Option.any_eq_true] at hnone
        obtain ⟨name, hname, hlacks⟩ := hnone
        have hmem : name ∈ unset :=
          List.mem_filter.mpr ⟨List.mem_filterMap.mpr ⟨piece, hpiece, hname⟩, hlacks⟩
        rw [hempty] at hmem
        cases hmem
    · rw [hsubstitute, hempty, ← hcut.expand]
      rfl
  · intro hnonempty
    rw [hsubstitute, if_neg (by simpa using hnonempty)]
  · intro hnames
    have hempty : unset = [] := by simp [unset, hnames]
    rw [hsubstitute, hempty, hcut.expand, flatten_value?_of_no_names hnames, hcut.written]
    simp

/-- A reference whose value has a dollar sign, and a dollar sign that starts no reference. -/
theorem substitute_text_in_one_pass_dollars :
    Cut "$A$".toList [.bare ['A'], .literal '$'] ∧
      substitute (knownVariables [("A", "$B")] (Path.ofString "/w")) (.text "$A$") =
        .text "$B$" := by
  have hcut : Cut "$A$".toList [.bare ['A'], .literal '$'] := by
    refine .reference ⟨rfl, .bare (by decide) (by rintro c ⟨⟩; rfl)⟩ (.literal ?_ .nil)
    intro piece behind hrefers
    obtain ⟨name, _, hread⟩ := reference_of_refers hrefers none
    cases hread
  obtain ⟨pieces, _, hunique, _, _, hvalues, _⟩ :=
    substitute_text_in_one_pass [("A", "$B")] (Path.ofString "/w") "$A$"
  obtain rfl := hunique _ hcut
  obtain ⟨values, hpieces, hsubstitute⟩ := hvalues (by decide)
  cases hpieces with
  | cons hfirst hpieces =>
    cases hpieces with
    | cons hsecond hpieces =>
      cases hpieces
      cases hfirst
      cases hsecond
      exact ⟨hcut, hsubstitute⟩

end MolangAssist.Settings
