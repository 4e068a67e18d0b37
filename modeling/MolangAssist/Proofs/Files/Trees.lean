import Mathlib.Data.List.Induction
import MolangAssist.Files.Tree
import MolangAssist.Proofs.Files.Refusals

/-!
# Well-formed file trees

In a well-formed tree, every entry has a place of its own and names that files can have, and it
stands in a directory. A path without `..` then leads to the entry with its parts, or nowhere.
-/
namespace MolangAssist.Files

open Text

/-- A name that a file or directory can have. -/
structure IsFileName (name : String) : Prop where
  ne_empty : name ≠ ""
  ne_here : name ≠ "."
  ne_up : name ≠ ".."
  no_slash : '/' ∉ name.toList
  no_nul : Char.ofNat 0 ∉ name.toList
  short : name.utf8ByteSize ≤ Tree.maxNameBytes

instance (name : String) : Decidable (IsFileName name) :=
  decidable_of_iff (name ≠ "" ∧ name ≠ "." ∧ name ≠ ".." ∧ '/' ∉ name.toList ∧
      Char.ofNat 0 ∉ name.toList ∧ name.utf8ByteSize ≤ Tree.maxNameBytes)
    ⟨fun ⟨h₁, h₂, h₃, h₄, h₅, h₆⟩ => ⟨h₁, h₂, h₃, h₄, h₅, h₆⟩,
      fun ⟨h₁, h₂, h₃, h₄, h₅, h₆⟩ => ⟨h₁, h₂, h₃, h₄, h₅, h₆⟩⟩

instance : (node : Option Node) → Decidable (node = some .directory)
  | some .directory => isTrue rfl
  | some (.file _) => isFalse nofun
  | none => isFalse nofun

namespace Tree

/-- A tree as a file system holds it. -/
structure WellFormed (tree : Tree) : Prop where
  distinct : (tree.entries.map Prod.fst).Nodup
  names : ∀ entry ∈ tree.entries, ∀ part ∈ entry.1, IsFileName part
  parents : ∀ entry ∈ tree.entries, tree.node? entry.1.dropLast = some .directory

variable {tree : Tree} {place rest : Place}

theorem node?_nil (tree : Tree) : tree.node? [] = some .directory := rfl

theorem isSome_node?_iff (hplace : place ≠ []) :
    (tree.node? place).isSome = true ↔ place ∈ tree.entries.map Prod.fst := by
  rw [node?, if_neg (by simpa using hplace), List.lookup_isSome_iff, List.mem_map]
  simp only [beq_iff_eq, eq_comm (a := place)]

theorem WellFormed.isFileName (htree : tree.WellFormed)
    (hfound : (tree.node? place).isSome = true) : ∀ part ∈ place, IsFileName part := by
  by_cases hplace : place = []
  · simp [hplace]
  · obtain ⟨entry, hentry, rfl⟩ := List.mem_map.mp ((isSome_node?_iff hplace).mp hfound)
    exact htree.names entry hentry

theorem WellFormed.parent (htree : tree.WellFormed) {part : String}
    (hfound : (tree.node? (place ++ [part])).isSome = true) :
    tree.node? place = some .directory := by
  obtain ⟨entry, hentry, hplace⟩ := List.mem_map.mp ((isSome_node?_iff (by simp)).mp hfound)
  have hparent := htree.parents entry hentry
  rwa [hplace, List.dropLast_concat] at hparent

/-- Whatever stands below a place makes it a directory. -/
theorem WellFormed.above (htree : tree.WellFormed) (hrest : rest ≠ [])
    (hfound : (tree.node? (place ++ rest)).isSome = true) :
    tree.node? place = some .directory := by
  induction rest using List.reverseRecOn with
  | nil => exact absurd rfl hrest
  | append_singleton rest part ih =>
    rw [← List.append_assoc] at hfound
    have hparent := htree.parent hfound
    by_cases hlast : rest = []
    · rwa [hlast, List.append_nil] at hparent
    · exact ih hlast (by rw [hparent]; rfl)

/-! ## Walking -/

theorem walk_of_found (htree : tree.WellFormed) (hrest : ∀ part ∈ rest, IsFileName part)
    (hfound : (tree.node? (place ++ rest)).isSome = true) :
    tree.walk place rest = .ok (place ++ rest) := by
  induction rest generalizing place with
  | nil => rw [walk, List.append_nil]
  | cons part rest ih =>
    have hname := hrest part List.mem_cons_self
    -- Something stands further down, so here and one step on stand directories.
    have hplace := htree.above (List.cons_ne_nil part rest) hfound
    rw [List.append_cons] at hfound
    have hnext : (tree.node? (place ++ [part])).isSome = true := by
      by_cases hlast : rest = []
      · rwa [hlast, List.append_nil] at hfound
      · rw [htree.above hlast hfound]
        rfl
    obtain ⟨node, hnode⟩ := Option.isSome_iff_exists.mp hnext
    have hlong : ¬maxNameBytes < part.utf8ByteSize := Nat.not_lt.mpr hname.short
    have hstep := ih (fun other hother => hrest other (List.mem_cons_of_mem _ hother)) hfound
    simp only [walk, hplace, hnode, hname.ne_empty, hname.ne_here, hname.ne_up, or_self, if_false,
      if_neg hlong, hstep]
    simp

theorem walk_of_missing (hrest : ∀ part ∈ rest, part ≠ "" ∧ part ≠ "." ∧ part ≠ "..")
    (hstart : (tree.node? place).isSome = true) (hmissing : tree.node? (place ++ rest) = none) :
    ∃ cause, tree.walk place rest = .error cause := by
  induction rest generalizing place with
  | nil =>
    rw [List.append_nil] at hmissing
    simp [hmissing] at hstart
  | cons part rest ih =>
    obtain ⟨hempty, hhere, hup⟩ := hrest part List.mem_cons_self
    rw [List.append_cons] at hmissing
    simp only [walk, hempty, hhere, hup, or_self, if_false]
    cases hplace : tree.node? place with
    | none => exact ⟨_, rfl⟩
    | some node =>
      cases node with
      | file bytes => exact ⟨_, rfl⟩
      | directory =>
        by_cases hlong : maxNameBytes < part.utf8ByteSize
        · simp only [if_pos hlong]
          exact ⟨_, rfl⟩
        · simp only [if_neg hlong]
          cases hnext : tree.node? (place ++ [part]) with
          | none => exact ⟨_, rfl⟩
          | some node =>
            exact ih (fun other hother => hrest other (List.mem_cons_of_mem _ hother))
              (by rw [hnext]; rfl) hmissing

theorem walk_blanks (tree : Tree) (blanks : Nat) (rest : List String) :
    tree.walk [] (List.replicate blanks "" ++ rest) = tree.walk [] rest := by
  induction blanks with
  | zero => rfl
  | succ blanks ih =>
    rw [List.replicate_succ, List.cons_append, walk, node?_nil]
    simpa using ih

end Tree

/-! ## Absolute paths -/

/-- An absolute path without `.` and `..`. -/
structure Path.Normalised (path : Path) : Prop where
  absolute : path.isAbsolute = true
  proper : path.Proper
  no_up : ".." ∉ path.parts

theorem Path.prefix_toString_below {path : Path} (habsolute : path.isAbsolute = true)
    (parts : List String) : path.toString.toList <+: (path.below parts).toString.toList := by
  have hbelow : (path.below parts).isAbsolute = true := habsolute
  rw [toList_toString habsolute, toList_toString hbelow, below, List.map_append]
  cases parts with
  | nil => simp
  | cons part rest =>
    by_cases hparts : path.parts.map String.toList = []
    · simp [hparts]
    · rw [List.map_cons, intercalate_append_cons '/' hparts, ← List.append_assoc]
      exact List.prefix_append _ _

theorem Path.TooLong.below {path : Path} (hlong : path.TooLong)
    (habsolute : path.isAbsolute = true) (parts : List String) : (path.below parts).TooLong := by
  rcases hlong with hlong | ⟨part, hpart, hlong⟩
  · obtain ⟨more, hmore⟩ := prefix_toString_below habsolute parts
    have htext : (path.below parts).toString = path.toString ++ String.ofList more := by
      rw [← String.toList_inj, ← hmore]
      simp
    refine .inl ?_
    rw [htext, String.utf8ByteSize_append]
    exact Nat.lt_add_right _ hlong
  · exact .inr ⟨part, List.mem_append_left parts hpart, hlong⟩

/-- An absolute path whose parts are names of files. -/
structure Path.Normal (path : Path) : Prop where
  absolute : path.isAbsolute = true
  names : ∀ part ∈ path.parts, IsFileName part

theorem Place.normal_path {place : Place} (hplace : ∀ part ∈ place, IsFileName part) :
    (Place.path place).Normal := ⟨rfl, hplace⟩

namespace Path.Normal

variable {path : Path}

theorem proper (hpath : path.Normal) : path.Proper := fun part hpart =>
  let hname := hpath.names part hpart
  ⟨hname.ne_empty, hname.ne_here, hname.no_slash⟩

theorem normalised (hpath : path.Normal) : path.Normalised where
  absolute := hpath.absolute
  proper := hpath.proper
  no_up := fun hup => (hpath.names ".." hup).ne_up rfl

theorem not_tooLong (hpath : path.Normal)
    (hshort : path.toString.utf8ByteSize ≤ Tree.maxPathBytes) : ¬path.TooLong := by
  rintro (hlong | ⟨part, hpart, hlong⟩)
  · exact absurd hshort (Nat.not_le.mpr hlong)
  · exact absurd (hpath.names part hpart).short (Nat.not_le.mpr hlong)

theorem resolve (hpath : path.Normal) (cwd : Place) : path.resolve cwd = path.parts :=
  Path.resolve_of_names cwd hpath.absolute hpath.normalised.no_up

theorem no_nul (hpath : path.Normal) : Char.ofNat 0 ∉ path.toString.toList := by
  rw [Path.mem_toString_iff (by decide) (by decide)]
  rintro ⟨part, hpart, hnul⟩
  exact (hpath.names part hpart).no_nul hnul

end Path.Normal

namespace Tree

variable {tree : Tree} {path : Path}

theorem walk_toString (tree : Tree) (habsolute : path.isAbsolute = true)
    (hproper : path.Proper) :
    tree.walk [] ((splitAt '/' path.toString.toList).map String.ofList) =
      tree.walk [] path.parts := by
  obtain ⟨blanks, hsplit⟩ := Path.splitAt_toString habsolute hproper
  have hparts : (path.parts.map String.toList).map String.ofList = path.parts := by
    simp [List.map_map, Function.comp_def]
  rw [hsplit, List.map_append, List.map_replicate, hparts]
  exact walk_blanks tree blanks path.parts

theorem find_toString (tree : Tree) (cwd : Place) (habsolute : path.isAbsolute = true)
    (hproper : path.Proper) (hnul : Char.ofNat 0 ∉ path.toString.toList) :
    tree.find cwd path.toString =
      if maxPathBytes < path.toString.utf8ByteSize then .error .nameTooLong
      else
        match tree.walk [] path.parts with
        | .error cause => .error cause
        | .ok place =>
          match tree.node? place with
          | some node => .ok (place, node)
          | none => .error .notFound := by
  have hnul' : path.toString.toList.contains (Char.ofNat 0) = false := by simpa using hnul
  have hempty : path.toString.toList.isEmpty = false := by
    simpa using Path.toString_ne_empty habsolute
  simp only [find, hnul', hempty, Path.head?_toString habsolute, if_true,
    walk_toString tree habsolute hproper, Bool.false_eq_true, if_false]
  cases tree.walk [] path.parts <;> rfl

theorem find_of_node? (htree : tree.WellFormed) (cwd : Place) (hpath : path.Normal)
    (hshort : path.toString.utf8ByteSize ≤ maxPathBytes) {node : Node}
    (hnode : tree.node? path.parts = some node) :
    tree.find cwd path.toString = .ok (path.parts, node) := by
  have hwalk : tree.walk [] path.parts = .ok path.parts :=
    walk_of_found htree hpath.names (by rw [List.nil_append, hnode]; rfl)
  simp only [find_toString tree cwd hpath.absolute hpath.proper hpath.no_nul,
    if_neg (Nat.not_lt.mpr hshort), hwalk, hnode]

theorem find_of_missing (cwd : Place) (hpath : path.Normalised)
    (hmissing : tree.node? path.parts = none) :
    ∃ cause, tree.find cwd path.toString = .error cause ∧
      (cause = .nameTooLong → path.TooLong) := by
  by_cases hnul : Char.ofNat 0 ∈ path.toString.toList
  · exact ⟨.nulByte, by simp [find, hnul], by simp⟩
  · rw [find_toString tree cwd hpath.absolute hpath.proper hnul]
    by_cases hlong : maxPathBytes < path.toString.utf8ByteSize
    · exact ⟨.nameTooLong, if_pos hlong, fun _ => .inl hlong⟩
    · have hparts : ∀ part ∈ path.parts, part ≠ "" ∧ part ≠ "." ∧ part ≠ ".." := by
        intro part hpart
        obtain ⟨hempty, hhere, _⟩ := hpath.proper part hpart
        exact ⟨hempty, hhere, fun hup => hpath.no_up (hup ▸ hpart)⟩
      obtain ⟨cause, hwalk⟩ : ∃ cause, tree.walk [] path.parts = .error cause :=
        walk_of_missing hparts (by rw [node?_nil]; rfl) hmissing
      exact ⟨cause, by rw [if_neg hlong, hwalk], fun htoo => .inr ((walk_error hwalk).2 htoo)⟩

/-- A normalised path leads to the entry with its parts, or nowhere, unless it is too long. -/
theorem probe_of_normalised (htree : tree.WellFormed) (cwd : Place) (hpath : path.Normalised) :
    tree.probe cwd path.toString =
        .ok ((tree.node? path.parts).map fun node => (path.parts, node)) ∨
      tree.probe cwd path.toString = .error .nameTooLong ∧ path.TooLong := by
  cases hnode : tree.node? path.parts with
  | some node =>
    have hnormal : path.Normal := ⟨hpath.absolute, htree.isFileName (by rw [hnode]; rfl)⟩
    by_cases hlong : maxPathBytes < path.toString.utf8ByteSize
    · have hfind := find_toString tree cwd hpath.absolute hpath.proper hnormal.no_nul
      rw [if_pos hlong] at hfind
      exact .inr ⟨by rw [probe, hfind], .inl hlong⟩
    · have hfind := find_of_node? htree cwd hnormal (Nat.not_lt.mp hlong) hnode
      exact .inl (by simp only [probe, hfind, Option.map_some])
  | none =>
    obtain ⟨cause, hfind, hcause⟩ := find_of_missing cwd hpath hnode
    rw [probe, hfind]
    cases cause with
    | nameTooLong => exact .inr ⟨rfl, hcause rfl⟩
    | _ => exact .inl rfl

/-- A file stands at a place. -/
def HasFile (tree : Tree) (place : Place) : Prop := ∃ bytes, tree.node? place = some (.file bytes)

theorem isFile_of_normalised (htree : tree.WellFormed) (cwd : Place) (hpath : path.Normalised) :
    (∃ found, tree.isFile cwd path.toString = .ok found ∧
        (found = true ↔ tree.HasFile path.parts)) ∨
      tree.isFile cwd path.toString = .error .nameTooLong ∧ path.TooLong := by
  rcases probe_of_normalised htree cwd hpath with hprobe | ⟨hprobe, hlong⟩
  · refine .inl ?_
    rw [isFile, hprobe, HasFile]
    cases tree.node? path.parts with
    | none => exact ⟨false, rfl, by simp⟩
    | some node =>
      cases node with
      | file bytes => exact ⟨true, rfl, by simp⟩
      | directory => exact ⟨false, rfl, by simp⟩
  · refine .inr ⟨?_, hlong⟩
    rw [isFile, hprobe]
    rfl

/-! ## Reading -/

/-- The text of the file at a place. It cannot be read if it is no UTF-8, and neither if its path
is too long for an operating system. -/
def textAt? (tree : Tree) (place : Place) : Option String :=
  match tree.node? place with
  | some (.file bytes) =>
    if place.toString.utf8ByteSize ≤ maxPathBytes then decodeFile? bytes else none
  | _ => none

theorem toOption_readText (htree : tree.WellFormed) (cwd : Place) {place : Place}
    (hfound : (tree.node? place).isSome = true) :
    (tree.readText cwd place.toString).toOption = tree.textAt? place := by
  have hplace := Place.normal_path (htree.isFileName hfound)
  obtain ⟨node, hnode⟩ := Option.isSome_iff_exists.mp hfound
  by_cases hshort : place.path.toString.utf8ByteSize ≤ maxPathBytes
  · have hfind := find_of_node? htree cwd hplace hshort hnode
    cases node with
    | directory =>
      simp only [Place.toString, readText, hfind, textAt?, hnode]
      rfl
    | file bytes =>
      simp only [Place.toString, readText, hfind, textAt?, hnode, hshort, if_true]
      cases decodeFile? bytes <;> rfl
  · have hfind := find_toString tree cwd hplace.absolute hplace.proper hplace.no_nul
    rw [if_pos (Nat.not_le.mp hshort)] at hfind
    cases node with
    | directory =>
      simp only [Place.toString, readText, hfind, textAt?, hnode]
      rfl
    | file bytes =>
      simp only [Place.toString, readText, hfind, textAt?, hnode, hshort, if_false]
      rfl

end Tree

end MolangAssist.Files
