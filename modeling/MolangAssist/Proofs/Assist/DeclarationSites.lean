import Mathlib.Data.List.Forall2
import MolangAssist.Assist.Definition
import MolangAssist.Proofs.Script.DeclaredNames
import MolangAssist.Proofs.Text.LineOffsets

/-!
# Where a name is declared

A name is declared at an offset if the text reads `fn`, an opening parenthesis and the quoted name
from there on, with any blanks around the parenthesis. The declarations that are shown for a name
are these places, all of them and in the order of the text.
-/
namespace MolangAssist

open Text

namespace Script

/-- From an offset on, the text reads a declaration of the name. -/
def DeclaredAt (text name : List Char) (offset : Nat) : Prop :=
  ∃ lead blanks blanks' rest,
    text = lead ++ ("fn".toList ++ blanks ++ ['('] ++ blanks' ++ ['\''] ++ name ++ ['\''] ++ rest) ∧
      lead.length = offset ∧ (∀ c ∈ blanks, isBlank c = true) ∧ ∀ c ∈ blanks', isBlank c = true

/-- The scan for one name passes over none of its declarations. -/
theorem mem_declarationOffsets_iff_declaredAt {text name : List Char} (hname : isName name = true)
    {offset : Nat} : offset ∈ declarationOffsets text name ↔ DeclaredAt text name offset := by
  obtain ⟨hne, hquote, _⟩ := not_quote_mem_of_isName hname
  rw [mem_declarationOffsets_iff hname]
  simp only [declaration_eq_some_iff]
  constructor
  · rintro ⟨lead, _, rest, rfl, hlength, _, ⟨blanks, blanks', rfl, hblanks, hblanks'⟩, rfl, _⟩
    exact ⟨lead, blanks, blanks', rest, by simp, hlength, hblanks, hblanks'⟩
  · rintro ⟨lead, blanks, blanks', rest, rfl, hlength, hblanks, hblanks'⟩
    exact ⟨lead, _, rest, rfl, hlength, _, ⟨blanks, blanks', rfl, hblanks, hblanks'⟩, by simp, hne,
      hquote⟩

end Script

namespace Assist

open Script

/-- Positions go down the lines and along each line. -/
def Target.Precedes (first second : Target) : Prop :=
  first.line < second.line ∨ first.line = second.line ∧ first.column < second.column

/-- A target shows an offset of a document: its position is the one of the offset and leads back to
it. -/
structure Target.Shows (target : Target) (uri : String) (text : List Char) (offset : Nat) :
    Prop where
  uri_eq : target.uri = uri
  position_eq : positionAt text offset = (target.line, (target.column : Int))
  offset_eq : offsetAt text target.line target.column = .ok offset

theorem Target.shows_positionAt (uri : String) {text : List Char} {offset : Nat}
    (hoffset : offset ≤ text.length) :
    Target.Shows ⟨uri, (positionAt text offset).1, (positionAt text offset).2.toNat⟩ uri text
      offset := by
  obtain ⟨column, hcolumn, hback⟩ := exists_column_of_offset hoffset
  rw [hcolumn, Int.toNat_natCast]
  refine ⟨rfl, ?_, hback⟩
  rw [← hcolumn]

theorem Target.Shows.precedes {first second : Target} {uri : String} {text : List Char}
    {offset later : Nat} (hfirst : first.Shows uri text offset)
    (hsecond : second.Shows uri text later) (hlater : offset < later)
    (hbound : later ≤ text.length) : first.Precedes second := by
  have hposition := positionAt_lt hlater hbound
  rw [hfirst.position_eq, hsecond.position_eq] at hposition
  simpa [Target.Precedes] using hposition

theorem le_length_of_mem_declarationOffsets {text name : List Char} {offset : Nat}
    (hoffset : offset ∈ declarationOffsets text name) : offset ≤ text.length := by
  obtain ⟨hit, hhit, rfl⟩ := List.mem_map.mp hoffset
  have hbounds := scanFrom_bounds (declarationOf_consumes name) 0 none text hit hhit
  omega

theorem declarationOffsets_increase (text name : List Char) :
    (declarationOffsets text name).Pairwise (· < ·) :=
  scan_starts_increase (declarationOf_consumes name) text

/-- Targets come in the order of the offsets that they show. -/
theorem declarationTargets_ordered (text : List Char) (uri : String) (name : List Char) :
    (declarationTargets text uri name).Pairwise Target.Precedes := by
  rw [declarationTargets, List.pairwise_map]
  refine (declarationOffsets_increase text name).imp_of_mem ?_
  intro offset later hoffset hlater hlt
  have hbound := le_length_of_mem_declarationOffsets hlater
  exact (Target.shows_positionAt uri (le_length_of_mem_declarationOffsets hoffset)).precedes
    (Target.shows_positionAt uri hbound) hlt hbound

/-- The declarations of a name are shown from the first to the last, each by one target of the
document, and nothing else is shown. A target is a single position, so its range is empty. -/
theorem declarationTargets_show_declarations (text : List Char) (uri : String) {name : List Char}
    (hname : isName name = true) :
    ∃ offsets : List Nat, offsets.Pairwise (· < ·) ∧
      (∀ offset, offset ∈ offsets ↔ DeclaredAt text name offset) ∧
      List.Forall₂ (fun offset target => Target.Shows target uri text offset) offsets
        (declarationTargets text uri name) ∧
      (declarationTargets text uri name).Pairwise Target.Precedes := by
  refine ⟨declarationOffsets text name, declarationOffsets_increase text name,
    fun offset => mem_declarationOffsets_iff_declaredAt hname, ?_,
    declarationTargets_ordered text uri name⟩
  rw [declarationTargets, List.forall₂_map_right_iff, List.forall₂_same]
  intro offset hoffset
  exact Target.shows_positionAt uri (le_length_of_mem_declarationOffsets hoffset)

/-- Two declarations of one name, the second spread over three lines. -/
def spreadText : List Char := "fn('heal', 1);\n fn\n(\n 'heal', 2);".toList

theorem declarationTargets_show_declarations_spread :
    isName "heal".toList = true ∧
      declarationTargets spreadText "u:" "heal".toList = [⟨"u:", 0, 0⟩, ⟨"u:", 1, 1⟩] ∧
      ∃ first second, first < second ∧
        (∀ offset, offset ∈ [first, second] ↔ DeclaredAt spreadText "heal".toList offset) ∧
        offsetAt spreadText 0 0 = .ok first ∧ offsetAt spreadText 1 1 = .ok second := by
  have hname : isName "heal".toList = true := by decide
  have htargets : declarationTargets spreadText "u:" "heal".toList =
      [⟨"u:", 0, 0⟩, ⟨"u:", 1, 1⟩] := by decide +kernel
  obtain ⟨offsets, hincrease, hmem, hshown, _⟩ :=
    declarationTargets_show_declarations spreadText "u:" hname
  rw [htargets] at hshown
  cases hshown with
  | cons hfirst hshown =>
    cases hshown with
    | cons hsecond hshown =>
      cases hshown
      exact ⟨hname, htargets, _, _, by simpa using hincrease, hmem, hfirst.offset_eq,
        hsecond.offset_eq⟩

end Assist

end MolangAssist
