import MolangAssist.Files.Tree
import MolangAssist.Proofs.Files.PathEnds

/-!
# Paths that are refused

A path with a zero character is refused before any directory is looked at. Otherwise a path is
refused for its length or for that of one of its parts. What the files hold does not matter.
-/
namespace MolangAssist.Files

open Text

namespace Path

theorem mem_toString_iff {c : Char} (hslash : c ≠ '/') (hdot : c ≠ '.') (path : Path) :
    c ∈ path.toString.toList ↔ ∃ part ∈ path.parts, c ∈ part.toList := by
  obtain ⟨anchor, parts⟩ := path
  have hbody : c ∈ ['/'].intercalate (parts.map String.toList) ↔
      ∃ part ∈ parts, c ∈ part.toList := by
    rw [mem_intercalate_iff hslash]
    simp
  rw [← hbody]
  cases anchor with
  | here =>
    cases parts with
    | nil => simp [toString, hdot]
    | cons part rest => rw [toList_toString_here, List.map_cons]
  | root => simp [toString, Anchor.text, hslash]
  | doubleRoot => simp [toString, Anchor.text, hslash]

/-- What reading a path leaves out and what writing it puts in are slashes and dots. -/
theorem mem_toString_ofString_iff {c : Char} (hslash : c ≠ '/') (hdot : c ≠ '.')
    (text : String) : c ∈ (ofString text).toString.toList ↔ c ∈ text.toList := by
  rw [mem_toString_iff hslash hdot, mem_iff_mem_splitAt hslash text.toList]
  constructor
  · rintro ⟨part, hpart, hc⟩
    obtain ⟨piece, hpiece, rfl⟩ := List.mem_map.mp hpart
    rw [String.toList_ofList] at hc
    exact ⟨piece, (List.mem_filter.mp hpiece).1, hc⟩
  · rintro ⟨piece, hpiece, hc⟩
    have hkept : (piece != [] && piece != ['.']) = true := by
      have hempty : piece ≠ [] := List.ne_nil_of_mem hc
      have hhere : piece ≠ ['.'] := by
        rintro rfl
        exact hdot (List.mem_singleton.mp hc)
      simp [hempty, hhere]
    refine ⟨String.ofList piece, List.mem_map_of_mem (List.mem_filter.mpr ⟨hpiece, hkept⟩), ?_⟩
    rwa [String.toList_ofList]

end Path

namespace Tree

variable {tree : Tree} {cwd : Place} {path : String}

/-- A walk does not look for zero characters, and it stops at a name that is too long only if it
has one ahead. -/
theorem walk_error {place : Place} {rest : List String} {cause : AccessError}
    (hwalk : tree.walk place rest = .error cause) :
    cause ≠ .nulByte ∧
      (cause = .nameTooLong → ∃ part ∈ rest, maxNameBytes < part.utf8ByteSize) := by
  induction rest generalizing place with
  | nil => cases hwalk
  | cons part rest ih =>
    have hlater : ∀ {next : Place}, tree.walk next rest = .error cause →
        cause ≠ .nulByte ∧
          (cause = .nameTooLong → ∃ other ∈ part :: rest, maxNameBytes < other.utf8ByteSize) := by
      intro next hnext
      obtain ⟨hnul, hlong⟩ := ih hnext
      exact ⟨hnul, fun htoo => List.exists_mem_cons_of_exists (hlong htoo)⟩
    rw [walk] at hwalk
    split at hwalk
    · cases hwalk
      simp
    · cases hwalk
      simp
    · split at hwalk
      · exact hlater hwalk
      · split at hwalk
        · exact hlater hwalk
        · split at hwalk
          next hbytes =>
            cases hwalk
            exact ⟨by simp, fun _ => ⟨part, List.mem_cons_self, hbytes⟩⟩
          · split at hwalk
            · cases hwalk
              simp
            · exact hlater hwalk

theorem find_error (hnul : Char.ofNat 0 ∉ path.toList) {cause : AccessError}
    (hfind : tree.find cwd path = .error cause) :
    cause ≠ .nulByte ∧
      (cause = .nameTooLong → maxPathBytes < path.utf8ByteSize ∨
        ∃ part ∈ (splitAt '/' path.toList).map String.ofList,
          maxNameBytes < part.utf8ByteSize) := by
  have hchars : path.toList.contains (Char.ofNat 0) = false := by simpa using hnul
  rw [find, hchars, if_neg Bool.false_ne_true] at hfind
  split at hfind
  · cases hfind
    simp
  · split at hfind
    next hlong =>
      cases hfind
      exact ⟨by simp, fun _ => .inl hlong⟩
    · cases hwalk : tree.walk (if path.toList.head? = some '/' then [] else cwd)
          ((splitAt '/' path.toList).map String.ofList) with
      | error stop =>
        simp only [hwalk, bind, Except.bind] at hfind
        cases hfind
        obtain ⟨hcause, hlong⟩ := walk_error hwalk
        exact ⟨hcause, fun htoo => .inr (hlong htoo)⟩
      | ok place =>
        simp only [hwalk, bind, Except.bind] at hfind
        split at hfind <;> cases hfind
        simp

theorem exists?_error {cause : AccessError}
    (hexists : tree.exists? cwd path = .error cause) : cause = .nameTooLong := by
  rw [exists?, probe] at hexists
  cases hfind : tree.find cwd path with
  | ok found => simp [hfind, bind, Except.bind] at hexists
  | error stop =>
    rw [hfind] at hexists
    cases stop with
    | nameTooLong =>
      cases hexists
      rfl
    | _ => cases hexists

variable (tree cwd path)

theorem find_nulByte_iff :
    tree.find cwd path = .error .nulByte ↔ Char.ofNat 0 ∈ path.toList := by
  constructor
  · intro hfind
    by_contra hnul
    exact (find_error hnul hfind).1 rfl
  · intro hnul
    simp [find, hnul]

theorem readText_nulByte_iff :
    tree.readText cwd path = .error (.access .nulByte) ↔ Char.ofNat 0 ∈ path.toList := by
  rw [← find_nulByte_iff tree cwd, readText]
  cases tree.find cwd path with
  | error cause => simp
  | ok found =>
    obtain ⟨place, node⟩ := found
    cases node with
    | directory => simp
    | file bytes =>
      dsimp only
      cases decodeFile? bytes <;> simp

/-- Whether something stands at a path is always said, unless the path is too long. -/
theorem exists?_of_short (hpath : path.utf8ByteSize ≤ maxPathBytes)
    (hparts : ∀ piece ∈ splitAt '/' path.toList,
      (String.ofList piece).utf8ByteSize ≤ maxNameBytes) :
    ∃ found, tree.exists? cwd path = .ok found := by
  rw [exists?, probe]
  cases hfind : tree.find cwd path with
  | ok found => exact ⟨true, rfl⟩
  | error cause =>
    cases cause with
    | nameTooLong =>
      by_cases hnul : Char.ofNat 0 ∈ path.toList
      · rw [(find_nulByte_iff tree cwd path).mpr hnul] at hfind
        cases hfind
      · rcases (find_error hnul hfind).2 rfl with hlong | ⟨part, hpart, hlong⟩
        · exact absurd hpath (Nat.not_le.mpr hlong)
        · obtain ⟨piece, hpiece, rfl⟩ := List.mem_map.mp hpart
          exact absurd (hparts piece hpiece) (Nat.not_le.mpr hlong)
    | _ => exact ⟨false, rfl⟩

end Tree

end MolangAssist.Files
