import MolangAssist.Proofs.Files.Search

/-!
# Which look-ups are refused

A look-up that finds nothing has an answer too. It is refused for lengths only: that of the whole
path, or that of a part which is looked up in a directory. A search is also refused for two stars
in a row.
-/
namespace MolangAssist.Files

open Text

namespace Tree

variable {tree : Tree} {path : Path}

/-! ## Steps of a walk -/

/-- A walk goes on from where it ends on the first parts. -/
theorem walk_append (tree : Tree) (place : Place) (lead rest : List String) :
    tree.walk place (lead ++ rest) =
      (tree.walk place lead).bind fun next => tree.walk next rest := by
  induction lead generalizing place with
  | nil => rfl
  | cons part lead ih =>
    rw [List.cons_append, walk, walk]
    split
    · rfl
    · rfl
    · split_ifs
      · exact ih place
      · exact ih place.dropLast
      · rfl
      · split
        · rfl
        · exact ih _

theorem walk_cons (tree : Tree) (place : Place) (part : String) (rest : List String) :
    tree.walk place (part :: rest) =
      (tree.walk place [part]).bind fun next => tree.walk next rest :=
  walk_append tree place [part] rest

theorem walk_singleton_eq_nameTooLong_iff {place : Place} {part : String} :
    tree.walk place [part] = .error .nameTooLong ↔
      tree.node? place = some .directory ∧ maxNameBytes < part.utf8ByteSize := by
  simp only [walk]
  cases tree.node? place with
  | none => simp
  | some node =>
    cases node with
    | file bytes => simp
    | directory =>
      by_cases hlong : maxNameBytes < part.utf8ByteSize
      · have hplain : ¬(part = "" ∨ part = ".") ∧ part ≠ ".." := by
          refine ⟨?_, ?_⟩
          · rintro (rfl | rfl) <;> exact absurd hlong (by decide)
          · rintro rfl
            exact absurd hlong (by decide)
        simp [hplain, hlong]
      · simp only [hlong, if_false, and_false, iff_false]
        split_ifs
        · simp
        · simp
        · cases tree.node? (place ++ [part]) <;> simp

/-- On the way along some parts from a place, a name that is too long is looked up in a
directory. -/
def MeetsLongName (tree : Tree) (place : Place) (parts : List String) : Prop :=
  ∃ lead part rest next, parts = lead ++ part :: rest ∧ tree.walk place lead = .ok next ∧
    tree.node? next = some .directory ∧ maxNameBytes < part.utf8ByteSize

theorem meetsLongName_cons_iff {place : Place} {part : String} {rest : List String} :
    tree.MeetsLongName place (part :: rest) ↔
      tree.walk place [part] = .error .nameTooLong ∨
        ∃ next, tree.walk place [part] = .ok next ∧ tree.MeetsLongName next rest := by
  constructor
  · rintro ⟨lead, name, behind, next, hparts, hlead, hnext, hlong⟩
    cases lead with
    | nil =>
      obtain ⟨rfl, rfl⟩ := List.cons.inj hparts
      cases hlead
      exact .inl (walk_singleton_eq_nameTooLong_iff.mpr ⟨hnext, hlong⟩)
    | cons first lead =>
      obtain ⟨rfl, rfl⟩ := List.cons.inj hparts
      rw [walk_cons] at hlead
      cases hstep : tree.walk place [part] with
      | error cause =>
        rw [hstep] at hlead
        cases hlead
      | ok further =>
        rw [hstep] at hlead
        exact .inr ⟨further, rfl, lead, name, behind, next, rfl, hlead, hnext, hlong⟩
  · rintro (hstep | ⟨further, hstep, lead, name, behind, next, rfl, hlead, hnext, hlong⟩)
    · obtain ⟨hplace, hlong⟩ := walk_singleton_eq_nameTooLong_iff.mp hstep
      exact ⟨[], part, rest, place, rfl, rfl, hplace, hlong⟩
    · refine ⟨part :: lead, name, behind, next, rfl, ?_, hnext, hlong⟩
      rw [walk_cons, hstep]
      exact hlead

theorem walk_eq_nameTooLong_iff {place : Place} {parts : List String} :
    tree.walk place parts = .error .nameTooLong ↔ tree.MeetsLongName place parts := by
  induction parts generalizing place with
  | nil => simp [walk, MeetsLongName]
  | cons part rest ih =>
    rw [meetsLongName_cons_iff, walk_cons]
    cases tree.walk place [part] with
    | error cause => simp [Except.bind]
    | ok next => simp [Except.bind, ih]

/-! ## Refused paths -/

/-- A path is refused if it is too long, or if a part that is too long is met along it. A zero
character, which is found first, is an answer already: nothing stands there. -/
def Refuses (tree : Tree) (path : Path) : Prop :=
  Char.ofNat 0 ∉ path.toString.toList ∧
    (maxPathBytes < path.toString.utf8ByteSize ∨ tree.MeetsLongName [] path.parts)

theorem find_eq_nameTooLong_iff (cwd : Place) (habsolute : path.isAbsolute = true)
    (hproper : path.Proper) :
    tree.find cwd path.toString = .error .nameTooLong ↔ tree.Refuses path := by
  by_cases hnul : Char.ofNat 0 ∈ path.toString.toList
  · simp [find, Refuses, hnul]
  · rw [Refuses, find_toString tree cwd habsolute hproper hnul, ← walk_eq_nameTooLong_iff]
    by_cases hlong : maxPathBytes < path.toString.utf8ByteSize
    · simp [hnul, hlong]
    · simp only [hnul, hlong, not_false_eq_true, true_and, false_or, if_false]
      cases tree.walk [] path.parts with
      | error cause => simp
      | ok place =>
        dsimp only
        cases tree.node? place <;> simp

/-- Whether a file stands at a path is said unless the path is refused. -/
theorem exists_isFile_iff (cwd : Place) (habsolute : path.isAbsolute = true)
    (hproper : path.Proper) :
    (∃ found, tree.isFile cwd path.toString = .ok found) ↔ ¬tree.Refuses path := by
  rw [← find_eq_nameTooLong_iff cwd habsolute hproper, isFile, probe]
  cases tree.find cwd path.toString with
  | ok found =>
    obtain ⟨place, node⟩ := found
    cases node <;> simp [bind, Except.bind]
  | error cause => cases cause <;> simp [bind, Except.bind]

/-! ## Refused searches -/

/-- A pattern is refused if it has two stars in a row, and if the search for it is refused in a
directory on its way. -/
def RefusesPattern (tree : Tree) (stack : Stack) (root : Path) (pattern : String) : Prop :=
  hasDoubleStar pattern.toList = true ∨ tree.RefusesWalk stack root pattern

theorem exists_search_iff (htree : tree.WellFormed) (stack : Stack) (cwd : Place) {root : Path}
    (hroot : root.Normal) (hshort : root.toString.utf8ByteSize ≤ maxPathBytes)
    (pattern : String) :
    (∃ found, tree.search stack cwd root pattern = .ok found) ↔
      ¬tree.RefusesPattern stack root pattern := by
  have hprobe : tree.probe cwd root.toString =
      .ok ((tree.node? root.parts).map fun node => (root.parts, node)) := by
    rcases probe_of_normalised htree cwd hroot.normalised with hprobe | ⟨_, hlong⟩
    · exact hprobe
    · exact absurd hlong (hroot.not_tooLong hshort)
  by_cases hstars : hasDoubleStar pattern.toList = true
  · simp [search, RefusesPattern, hstars]
  · rw [RefusesPattern, or_iff_right hstars]
    by_cases hnode : tree.node? root.parts = some .directory
    · rw [hnode, Option.map_some] at hprobe
      rcases search_of_directory htree stack hstars hprobe hnode with
        ⟨hsearch, hwalk⟩ | ⟨⟨cause, hsearch, _⟩, hwalk⟩
      · exact iff_of_true ⟨_, hsearch⟩ hwalk
      · exact iff_of_false (by simp [hsearch]) (not_not_intro hwalk)
    · have hsearch := search_of_no_directory stack hstars hprobe hnode
      exact iff_of_true ⟨[], hsearch⟩ fun hwalk => hnode (hwalk.isDirectory htree)

end Tree

end MolangAssist.Files
