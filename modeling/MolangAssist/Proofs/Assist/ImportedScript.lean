import Mathlib.Order.Bounds.Basic
import MolangAssist.Proofs.Assist.ImportBounds
import MolangAssist.Proofs.Files.PathEnds

/-!
# The script that an import names

The script of an import stands below the directories `data`, its space and `molang`. If it does
not stand right below the root, the first entry is taken whose path ends alike. That may be a
directory, and it may stand below a directory with a longer name than `data`. So the answer is
the named script exactly if no such entry comes before it.
-/
namespace MolangAssist.Files

open Text

/-! ## Names between slashes -/

def namesOf (text : List Char) : List String := (splitAt '/' text).map String.ofList

/-- Between the slashes of a text stand names that lead down. -/
def LeadsDown (text : List Char) : Prop :=
  ∀ piece ∈ splitAt '/' text, piece ≠ [] ∧ piece ≠ ['.'] ∧ piece ≠ ['.', '.']

instance (text : List Char) : Decidable (LeadsDown text) :=
  inferInstanceAs (Decidable (∀ piece ∈ splitAt '/' text, _))

namespace LeadsDown

variable {text : List Char}

theorem ofString_eq (htext : LeadsDown text) :
    Path.ofString (String.ofList text) = ⟨.here, namesOf text⟩ := by
  have hparts : partsOf text = namesOf text := by
    rw [partsOf, namesOf, List.filter_eq_self.mpr]
    intro piece hpiece
    obtain ⟨hempty, hhere, _⟩ := htext piece hpiece
    simp [hempty, hhere]
  have hslashes : text.takeWhile (· == '/') = [] := by
    cases text with
    | nil => rfl
    | cons c cs =>
      have hslash : c ≠ '/' := by
        rintro rfl
        exact (htext [] (by simp [splitAt])).1 rfl
      simp [hslash]
  simp only [Path.ofString, String.toList_ofList, hparts, hslashes, List.length_nil]

theorem isPart (htext : LeadsDown text) {part : String} (hpart : part ∈ namesOf text) :
    (part ≠ "" ∧ part ≠ "." ∧ '/' ∉ part.toList) ∧ part ≠ ".." := by
  obtain ⟨piece, hpiece, rfl⟩ := List.mem_map.mp hpart
  obtain ⟨hempty, hhere, hup⟩ := htext piece hpiece
  refine ⟨⟨by simpa using hempty, ?_, ?_⟩, ?_⟩
  · intro hsame
    exact hhere (by simpa using congrArg String.toList hsame)
  · rw [String.toList_ofList]
    exact not_mem_of_mem_splitAt hpiece
  · intro hsame
    exact hup (by simpa using congrArg String.toList hsame)

end LeadsDown

end MolangAssist.Files

namespace MolangAssist.Assist

open Files Script Text

/-! ## The path of a script -/

/-- The parts of the path of a script in a space. -/
def scriptParts (space path : List Char) : List String :=
  "data" :: (namesOf space ++ "molang" :: namesOf (path ++ ".molang".toList))

section Names

variable {space path : List Char}

theorem leadsDown_script (hpath : LeadsDown path) : LeadsDown (path ++ ".molang".toList) := by
  have hslash : '/' ∉ ".molang".toList := by decide
  obtain ⟨init, hinit, hlonger⟩ := exists_splitAt_append path hslash
  intro piece hpiece
  rw [hlonger, List.mem_append, List.mem_singleton] at hpiece
  rcases hpiece with hpiece | rfl
  · exact hpath piece (by rw [hinit]; exact List.mem_append_left _ hpiece)
  · refine ⟨?_, ?_, ?_⟩ <;>
    · intro hshort
      have hlength := congrArg List.length hshort
      simp at hlength

theorem spaceOf_import (hcolon : ':' ∉ space) :
    (space ++ ':' :: path).takeWhile (· != ':') = space := by
  refine takeWhile_run ?_ (by simp)
  intro c hc
  rw [bne_iff_ne]
  rintro rfl
  exact hcolon hc

theorem pathOf_import (hcolon : ':' ∉ space) :
    ((space ++ ':' :: path).dropWhile (· != ':')).drop 1 = path := by
  have hsplit := List.takeWhile_append_dropWhile (p := (· != ':')) (l := space ++ ':' :: path)
  rw [spaceOf_import hcolon] at hsplit
  rw [List.append_cancel_left hsplit, List.drop_one, List.tail_cons]

theorem importPath_eq (hcolon : ':' ∉ space) (hspace : LeadsDown space)
    (hpath : LeadsDown path) :
    importPath (space ++ ':' :: path) = ⟨.here, scriptParts space path⟩ := by
  have hdata : Path.ofString "data" = ⟨.here, ["data"]⟩ := by decide +kernel
  have hmolang : Path.ofString "molang" = ⟨.here, ["molang"]⟩ := by decide +kernel
  have hscript : String.ofList path ++ ".molang" = String.ofList (path ++ ".molang".toList) := by
    simp
  rw [importPath, spaceOf_import hcolon, pathOf_import hcolon, hscript, hdata, hmolang,
    hspace.ofString_eq, (leadsDown_script hpath).ofString_eq]
  simp [Path.join, Path.isAbsolute, scriptParts]

theorem getLast?_scriptParts (hcolon : ':' ∉ space) (path : List Char) :
    (scriptParts space path).getLast? = some (importPattern (space ++ ':' :: path)) := by
  have hslash : '/' ∉ ".molang".toList := by decide
  obtain ⟨init, _, hlonger⟩ := exists_splitAt_append path hslash
  rw [scriptParts, namesOf, namesOf, hlonger, importPattern, pathOf_import hcolon,
    List.map_append, List.map_singleton, ← List.cons_append, ← List.cons_append,
    ← List.append_assoc, List.getLast?_concat]
  simp

theorem isPart_scriptParts (hspace : LeadsDown space) (hpath : LeadsDown path) {part : String}
    (hpart : part ∈ scriptParts space path) :
    (part ≠ "" ∧ part ≠ "." ∧ '/' ∉ part.toList) ∧ part ≠ ".." := by
  rw [scriptParts, List.mem_cons, List.mem_append, List.mem_cons] at hpart
  rcases hpart with rfl | hpart | rfl | hpart
  · decide
  · exact hspace.isPart hpart
  · decide
  · exact (leadsDown_script hpath).isPart hpart

theorem isPlain_importPattern (hcolon : ':' ∉ space) (hplain : isPlain path = true) :
    isPlain (importPattern (space ++ ':' :: path)).toList = true := by
  rw [importPattern, pathOf_import hcolon, String.toList_append, String.toList_ofList, isPlain,
    List.all_append, Bool.and_eq_true]
  refine ⟨?_, by decide⟩
  rw [List.all_eq_true]
  intro c hc
  have hpath : c ∈ path :=
    List.mem_reverse.mp ((List.takeWhile_prefix _).subset (List.mem_reverse.mp hc))
  exact List.all_eq_true.mp hplain c hpath

end Names

/-! ## Entries and files -/

/-- The first accepted item of an increasing list is the least one. -/
theorem isLeast_of_find? {items : List (List String)} (hitems : items.Pairwise (· < ·))
    {accepts : List String → Bool} {item : List String} (hfind : items.find? accepts = some item) :
    IsLeast {other | other ∈ items ∧ accepts other = true} item := by
  obtain ⟨haccepted, before, after, rfl, hbefore⟩ := List.find?_eq_some_iff_append.mp hfind
  refine ⟨⟨by simp, haccepted⟩, ?_⟩
  rintro other ⟨hother, haccepts⟩
  rw [List.mem_append, List.mem_cons] at hother
  rcases hother with hother | rfl | hother
  · have hrefused := hbefore other hother
    simp [haccepts] at hrefused
  · exact le_rfl
  · have htail := (List.pairwise_append.mp hitems).2.1
    exact le_of_lt ((List.pairwise_cons.mp htail).1 other hother)

namespace Workspace

variable (workspace : Workspace) (relative : List String)

/-- The entries below the root whose paths end like a script. -/
def alikes : Set (List String) :=
  {parts | parts ≠ [] ∧ (workspace.tree.node? (workspace.root.parts ++ parts)).isSome = true ∧
    EndsAlike relative (workspace.root.parts ++ parts)}

/-- The files below the root whose last parts are those of a script. -/
def named : Set (List String) :=
  {parts | parts ≠ [] ∧ workspace.tree.HasFile (workspace.root.parts ++ parts) ∧
    relative <:+ workspace.root.parts ++ parts}

/-- An answer is the file at the usual path, else the first of some candidates. It is empty exactly
if there are none. -/
structure LeadsTo (candidates : Set (List String)) (answer : Option Place) : Prop where
  usual : workspace.tree.HasFile (workspace.root.parts ++ relative) →
    answer = some (workspace.root.parts ++ relative)
  first : ¬workspace.tree.HasFile (workspace.root.parts ++ relative) →
    ∀ place, answer = some place →
      ∃ parts, IsLeast candidates parts ∧ place = workspace.root.parts ++ parts
  empty : answer = none ↔ candidates = ∅

variable {workspace relative}

theorem named_subset_alikes : workspace.named relative ⊆ workspace.alikes relative := by
  rintro parts ⟨hparts, ⟨bytes, hfile⟩, hends⟩
  exact ⟨hparts, by rw [hfile]; rfl, endsAlike_of_suffix hends⟩

theorem leadsTo_usual {candidates : Set (List String)}
    (hcandidates : workspace.named relative ⊆ candidates) (hrelative : relative ≠ [])
    (hfile : workspace.tree.HasFile (workspace.root.parts ++ relative)) :
    workspace.LeadsTo relative candidates (some (workspace.root.parts ++ relative)) := by
  have hnamed : relative ∈ workspace.named relative :=
    ⟨hrelative, hfile, List.suffix_append _ _⟩
  refine ⟨fun _ => rfl, fun hnone => absurd hfile hnone, ?_⟩
  exact iff_of_false (Option.some_ne_none _) (Set.nonempty_of_mem (hcandidates hnamed)).ne_empty

/-- To take the first entry that ends alike is right exactly if that entry is a named file. -/
theorem LeadsTo.named_iff (hrelative : relative ≠ []) {answer : Option Place}
    (hanswer : workspace.LeadsTo relative (workspace.alikes relative) answer) :
    workspace.LeadsTo relative (workspace.named relative) answer ↔
      workspace.tree.HasFile (workspace.root.parts ++ relative) ∨
        ∀ parts, IsLeast (workspace.alikes relative) parts → parts ∈ workspace.named relative := by
  by_cases hfile : workspace.tree.HasFile (workspace.root.parts ++ relative)
  · rw [hanswer.usual hfile]
    exact iff_of_true (leadsTo_usual subset_rfl hrelative hfile) (.inl hfile)
  -- Both answers are least elements, of sets of which one contains the other.
  rw [or_iff_right hfile]
  constructor
  · intro hnamed parts hleast
    cases hplace : answer with
    | none =>
      have hempty := hanswer.empty.mp hplace
      rw [hempty] at hleast
      exact absurd hleast.1 (Set.notMem_empty parts)
    | some place =>
      obtain ⟨other, hother, hsame⟩ := hanswer.first hfile place hplace
      obtain ⟨script, hscript, hsame'⟩ := hnamed.first hfile place hplace
      have hparts : parts = script :=
        (hleast.unique hother).trans (List.append_cancel_left (hsame.symm.trans hsame'))
      rw [hparts]
      exact hscript.1
  · intro hleast
    refine ⟨fun hthere => absurd hthere hfile, ?_, ?_⟩
    · intro _ place hplace
      obtain ⟨parts, hparts, hsame⟩ := hanswer.first hfile place hplace
      exact ⟨parts, ⟨hleast parts hparts,
        lowerBounds_mono_set named_subset_alikes hparts.2⟩, hsame⟩
    · rw [hanswer.empty]
      refine ⟨fun hempty => Set.subset_eq_empty named_subset_alikes hempty, ?_⟩
      intro hempty
      cases hplace : answer with
      | none => exact hanswer.empty.mp hplace
      | some place =>
        obtain ⟨parts, hparts, _⟩ := hanswer.first hfile place hplace
        have hmember := hleast parts hparts
        rw [hempty] at hmember
        exact absurd hmember (Set.notMem_empty parts)

/-- The path of an import is too long, or the search for its script is refused on its way. -/
def RefusesScript (workspace : Workspace) (space path : List Char) : Prop :=
  (workspace.root.below (scriptParts space path)).TooLong ∨
    workspace.tree.RefusesWalk workspace.host.stack workspace.root
      (importPattern (space ++ ':' :: path))

end Workspace

/-! ## The answer of an import -/

section Import

variable {workspace : Workspace} {space path : List Char}
  (htree : workspace.tree.WellFormed) (hroot : workspace.root.Normalised)
  (hcolon : ':' ∉ space) (hspace : LeadsDown space) (hpath : LeadsDown path)

include hroot hspace hpath in
theorem normalised_below_scriptParts :
    (workspace.root.below (scriptParts space path)).Normalised where
  absolute := hroot.absolute
  proper := by
    intro part hpart
    rcases List.mem_append.mp hpart with hpart | hpart
    · exact hroot.proper part hpart
    · exact (isPart_scriptParts hspace hpath hpart).1
  no_up := by
    intro hup
    rcases List.mem_append.mp hup with hup | hup
    · exact hroot.no_up hup
    · exact (isPart_scriptParts hspace hpath hup).2 rfl

include htree hroot hcolon hspace hpath

/-- The search for an import finds the entries that end alike, and the comparison of the texts
keeps them. -/
theorem mem_matching_and_suffix_iff (hplain : isPlain path = true) (parts : List String) :
    (parts ∈ workspace.tree.matching workspace.root (importPattern (space ++ ':' :: path)) ∧
      (importPath (space ++ ':' :: path)).toString.toList.isSuffixOf
        (workspace.root.below parts).toString.toList = true) ↔
      parts ∈ workspace.alikes (scriptParts space path) := by
  have habsolute : (workspace.root.below parts).isAbsolute = true := hroot.absolute
  have hrelative : Path.Proper ⟨.here, scriptParts space path⟩ :=
    fun part hpart => (isPart_scriptParts hspace hpath hpart).1
  have hproper : (workspace.tree.node? (workspace.root.parts ++ parts)).isSome = true →
      (workspace.root.below parts).Proper := by
    intro hfound part hpart
    have hname := htree.isFileName hfound part hpart
    exact ⟨hname.ne_empty, hname.ne_here, hname.no_slash⟩
  rw [Tree.mem_matching_iff, importPath_eq hcolon hspace hpath, List.isSuffixOf_iff_suffix]
  constructor
  · rintro ⟨⟨hfound, name, hlast, _⟩, hends⟩
    refine ⟨?_, hfound, ?_⟩
    · rintro rfl
      cases hlast
    · exact (Path.suffix_toString_iff habsolute (hproper hfound) hrelative).mp hends
  · rintro ⟨hparts, hfound, halike⟩
    -- The last part is compared as a whole, so it is the name that the search looks for.
    have hlast : parts.getLast? = some (importPattern (space ++ ':' :: path)) := by
      rw [← getLast?_scriptParts hcolon,
        ← List.getLast?_append_of_ne_nil workspace.root.parts hparts]
      exact halike.getLast? (by simp)
    have hfits := (fits_plain_iff (isPlain_importPattern hcolon hplain)).mpr rfl
    refine ⟨⟨hfound, _, hlast, hfits⟩, ?_⟩
    exact (Path.suffix_toString_iff habsolute (hproper hfound) hrelative).mpr halike

theorem leadsTo_firstAlike? (hplain : isPlain path = true)
    (hfile : ¬workspace.tree.HasFile (workspace.root.parts ++ scriptParts space path)) :
    workspace.LeadsTo (scriptParts space path) (workspace.alikes (scriptParts space path))
      ((workspace.firstAlike? (space ++ ':' :: path)
        (workspace.tree.matching workspace.root (importPattern (space ++ ':' :: path)))).map
          fun parts => (workspace.root.below parts).resolve workspace.cwd) := by
  have hmember := mem_matching_and_suffix_iff htree hroot hcolon hspace hpath hplain
  refine ⟨fun hthere => absurd hthere hfile, ?_, ?_⟩
  · intro _ place hplace
    obtain ⟨parts, hfind, rfl⟩ := Option.map_eq_some_iff.mp hplace
    have hleast := isLeast_of_find? (htree.matching_increasing _) hfind
    simp only [hmember, Set.ofPred_mem_eq] at hleast
    exact ⟨parts, hleast, resolve_below htree hroot hleast.1.2.1⟩
  · rw [Option.map_eq_none_iff, Workspace.firstAlike?, List.find?_eq_none,
      Set.eq_empty_iff_forall_notMem]
    simp only [← hmember, not_and]

theorem importTarget?_leadsTo (hplain : isPlain path = true) :
    (∃ answer, importTarget? workspace (space ++ ':' :: path) = .ok answer ∧
        workspace.LeadsTo (scriptParts space path) (workspace.alikes (scriptParts space path))
          answer) ∨
      (∃ cause, importTarget? workspace (space ++ ':' :: path) = .error cause ∧
          Tree.IsLimit cause) ∧
        workspace.RefusesScript space path := by
  have husual : workspace.usualPath (space ++ ':' :: path) =
      workspace.root.below (scriptParts space path) := by
    rw [Workspace.usualPath, importPath_eq hcolon hspace hpath]
    rfl
  have hnormalised := normalised_below_scriptParts hroot hspace hpath
  rw [importTarget?_eq (List.mem_append_right _ List.mem_cons_self), husual]
  rcases Tree.isFile_of_normalised htree workspace.cwd hnormalised with
    ⟨found, hisFile, hfound⟩ | ⟨hisFile, hlong⟩
  · rw [hisFile]
    cases found with
    | true =>
      have hresolve := Path.resolve_of_names workspace.cwd hnormalised.absolute hnormalised.no_up
      refine .inl ⟨_, rfl, ?_⟩
      rw [hresolve]
      exact Workspace.leadsTo_usual Workspace.named_subset_alikes (List.cons_ne_nil _ _)
        (hfound.mp rfl)
    | false =>
      have hfile : ¬workspace.tree.HasFile (workspace.root.parts ++ scriptParts space path) :=
        fun hthere => absurd (hfound.mpr hthere) Bool.false_ne_true
      have hpattern := isPlain_importPattern hcolon hplain
      rcases Tree.search_of_normalised htree workspace.host.stack workspace.cwd hroot
          (importPattern (space ++ ':' :: path)) with
        hsearch | ⟨_, hstars⟩ | ⟨⟨cause, hsearch, hlimit⟩, hrefused⟩
      · rw [hsearch]
        exact .inl ⟨_, rfl, leadsTo_firstAlike? htree hroot hcolon hspace hpath hplain hfile⟩
      · rw [hasDoubleStar_of_isPlain hpattern] at hstars
        cases hstars
      · rw [hsearch]
        exact .inr ⟨⟨cause, rfl, hlimit⟩, hrefused.imp_left fun hlong => hlong.below hroot.absolute _⟩
  · rw [hisFile]
    exact .inr ⟨⟨_, rfl, .tooLong _⟩, .inl hlong⟩

/-- An import leads to the named script exactly if that is the file at its usual path, or if no
other entry that ends alike comes first. It has no answer only if its path is too long, or if the
search for it meets such a path or a directory that is too deep. -/
theorem importTargets_named_iff (hplain : isPlain path = true) {line : List Char} {column : Int}
    {hit : Hit (List Char)} (hhit : firstHit? importCall line = some hit)
    (hvalue : hit.value = space ++ ':' :: path) (hstart : hit.start ≤ column)
    (hstop : column ≤ hit.stop) :
    let relative := scriptParts space path
    (∃ answer : Option Place,
        importTargets (some workspace) line column =
          .ok (answer.map fun place => (⟨place.uri, 0, 0⟩ : Target)).toList ∧
        workspace.LeadsTo relative (workspace.alikes relative) answer ∧
        (workspace.LeadsTo relative (workspace.named relative) answer ↔
          workspace.tree.HasFile (workspace.root.parts ++ relative) ∨
            ∀ parts, IsLeast (workspace.alikes relative) parts →
              parts ∈ workspace.named relative)) ∨
      (∃ cause, importTargets (some workspace) line column = .error cause ∧
          Tree.IsLimit cause) ∧
        workspace.RefusesScript space path := by
  intro relative
  have himport : importAt? line column = some (space ++ ':' :: path) := by
    rw [importAt?, hhit]
    simp only [hstart, hstop, hvalue, and_self, if_true]
  rcases importTarget?_leadsTo htree hroot hcolon hspace hpath hplain with
    ⟨answer, htarget, hleads⟩ | ⟨⟨cause, htarget, hlimit⟩, hrefused⟩
  · refine .inl ⟨answer, ?_, hleads, hleads.named_iff (List.cons_ne_nil _ _)⟩
    simp only [importTargets, himport, htarget, bind, Except.bind]
    cases answer <;> rfl
  · refine .inr ⟨⟨cause, ?_, hlimit⟩, hrefused⟩
    simp only [importTargets, himport, htarget, bind, Except.bind]

end Import

/-! ## Scripts at unusual places -/

/-- Scripts below other directories than `data`, and a directory with the name of a script. -/
def modsWorkspace : Workspace where
  host := .usual
  tree := { entries := [
    (["data"], .directory),
    (["data", "kit"], .directory),
    (["data", "kit", "molang"], .directory),
    (["data", "kit", "molang", "main.molang"], .directory),
    (["mods"], .directory),
    (["mods", "data"], .directory),
    (["mods", "data", "pack"], .directory),
    (["mods", "data", "pack", "molang"], .directory),
    (["mods", "data", "pack", "molang", "util.molang"], .file .empty),
    (["olddata"], .directory),
    (["olddata", "pack"], .directory),
    (["olddata", "pack", "molang"], .directory),
    (["olddata", "pack", "molang", "tool.molang"], .file .empty),
    (["olddata", "pack", "molang", "util.molang"], .file .empty)] }
  cwd := []
  root := ⟨.root, []⟩

theorem wellFormed_modsWorkspace : modsWorkspace.tree.WellFormed :=
  ⟨by decide, by decide +kernel, by decide⟩

theorem normalised_modsWorkspace : modsWorkspace.root.Normalised :=
  Path.Normal.normalised ⟨rfl, by simp [modsWorkspace]⟩

/-- The only file whose last parts are those of the script `pack:util`. -/
def modsScript : List String := ["mods", "data", "pack", "molang", "util.molang"]

theorem modsScript_mem_named :
    modsScript ∈ modsWorkspace.named (scriptParts "pack".toList "util".toList) :=
  ⟨List.cons_ne_nil _ _, ⟨.empty, rfl⟩, by decide +kernel⟩

theorem importTargets_named_iff_mods :
    ∃ place, importTargets (some modsWorkspace) "import('pack:util')".toList 10 =
        .ok [⟨Place.uri place, 0, 0⟩] ∧
      modsWorkspace.LeadsTo (scriptParts "pack".toList "util".toList)
        (modsWorkspace.named (scriptParts "pack".toList "util".toList)) (some place) := by
  -- Two entries end alike, and the named script is the first of them.
  have hfirst : ∀ parts ∈ modsWorkspace.tree.below modsWorkspace.root.parts,
      EndsAlike (scriptParts "pack".toList "util".toList) (modsWorkspace.root.parts ++ parts) →
        Place.le parts modsScript = true → parts = modsScript := by decide +kernel
  have hleast : ∀ parts,
      IsLeast (modsWorkspace.alikes (scriptParts "pack".toList "util".toList)) parts →
        parts ∈ modsWorkspace.named (scriptParts "pack".toList "util".toList) := by
    rintro parts ⟨⟨hparts, hfound, halike⟩, hlower⟩
    have hle := Place.le_iff.mpr (hlower (Workspace.named_subset_alikes modsScript_mem_named))
    rw [hfirst parts (Tree.mem_below_iff.mpr ⟨hparts, hfound⟩) halike hle]
    exact modsScript_mem_named
  have hcolon : ':' ∉ "pack".toList := by decide
  have hspace : LeadsDown "pack".toList := by decide
  have hpath : LeadsDown "util".toList := by decide
  have hhit : firstHit? importCall "import('pack:util')".toList =
      some ⟨0, 19, "pack:util".toList⟩ := by decide +kernel
  have hanswers := importTargets_named_iff wellFormed_modsWorkspace normalised_modsWorkspace
    hcolon hspace hpath (by decide) hhit rfl (by decide : (0 : Int) ≤ 10) (by decide)
  rcases hanswers with ⟨answer, htargets, _, hexact⟩ | ⟨_, hlong | hwalk⟩
  · have hleads := hexact.mpr (.inr hleast)
    cases hanswer : answer with
    | none =>
      have hscript := modsScript_mem_named
      rw [hleads.empty.mp hanswer] at hscript
      exact absurd hscript (Set.notMem_empty modsScript)
    | some place =>
      rw [hanswer] at htargets hleads
      exact ⟨place, htargets, hleads⟩
  · have hnormal : (modsWorkspace.root.below
        (scriptParts "pack".toList "util".toList)).Normal := ⟨rfl, by decide +kernel⟩
    exact absurd hlong (hnormal.not_tooLong (by decide +kernel))
  · rw [wellFormed_modsWorkspace.refusesWalk_iff rfl] at hwalk
    exact absurd hwalk (by decide +kernel)

/-- A script below a directory whose name only ends in `data` is taken, and so is a directory. -/
theorem importTargets_strays :
    importTargets (some modsWorkspace) "import('pack:tool')".toList 10 =
        .ok [⟨Place.uri ["olddata", "pack", "molang", "tool.molang"], 0, 0⟩] ∧
      ¬scriptParts "pack".toList "tool".toList <:+
        ["olddata", "pack", "molang", "tool.molang"] ∧
      importTargets (some modsWorkspace) "import('kit:main')".toList 10 =
        .ok [⟨Place.uri ["data", "kit", "molang", "main.molang"], 0, 0⟩] ∧
      modsWorkspace.tree.node? ["data", "kit", "molang", "main.molang"] = some .directory := by
  refine ⟨by decide +kernel, by decide +kernel, by decide +kernel, rfl⟩

end MolangAssist.Assist
