import MolangAssist.Proofs.Text.LetterCase
import MolangAssist.Schema.Bundled
import MolangAssist.Script.Inference

/-!
# Paths and marker folders in other spellings

A path may be written with slashes of both directions and its ASCII letters in both cases, and so
may a marker folder, with slashes around it. Both are brought to one form before they are compared,
so the runtime of a script does not depend on the spelling.
-/
namespace MolangAssist.Script

open Text Schema

/-- Slashes of both directions divide a path. -/
def IsSlash (c : Char) : Prop := c = '/' ∨ c = '\\'

instance : DecidablePred IsSlash := fun c => inferInstanceAs (Decidable (c = '/' ∨ c = '\\'))

/-- Two characters that a path may exchange. -/
def AlikeInPath (c d : Char) : Prop := SameLetter c d ∨ IsSlash c ∧ IsSlash d

instance : DecidableRel AlikeInPath := fun c d =>
  inferInstanceAs (Decidable (SameLetter c d ∨ IsSlash c ∧ IsSlash d))

/-- Paths that differ, place by place, in the direction of slashes and the case of ASCII letters. -/
def AlikePaths (path path' : String) : Prop := List.Forall₂ AlikeInPath path.toList path'.toList

/-- Folders that differ in slashes around them and in the case of ASCII letters. -/
def AlikeFolders (folder folder' : String) : Prop :=
  List.Forall₂ SameLetter (trimWhile (· == '/') folder.toList) (trimWhile (· == '/') folder'.toList)

instance : DecidableRel AlikePaths := fun path path' =>
  inferInstanceAs (Decidable (List.Forall₂ AlikeInPath path.toList path'.toList))

instance : DecidableRel AlikeFolders := fun folder folder' =>
  inferInstanceAs (Decidable (List.Forall₂ SameLetter (trimWhile (· == '/') folder.toList)
    (trimWhile (· == '/') folder'.toList)))

theorem AlikeInPath.sameLetter {c d : Char} (halike : AlikeInPath c d) :
    SameLetter (if c = '\\' then '/' else c) (if d = '\\' then '/' else d) := by
  rcases halike with hsame | ⟨hc, hd⟩
  · by_cases hc : c = '\\'
    · have hd : d = '\\' := (hc ▸ hsame).eq_of_not_isAlpha (by decide) (by decide)
      rw [if_pos hc, if_pos hd]
      rfl
    · have hd : d ≠ '\\' := by
        rintro rfl
        exact hc (SameLetter.eq_of_not_isAlpha hsame.symm (by decide) (by decide))
      rwa [if_neg hc, if_neg hd]
  · rcases hc with rfl | rfl <;> rcases hd with rfl | rfl <;> rfl

theorem AlikePaths.normalizePath_eq {path path' : String} (halike : AlikePaths path path') :
    normalizePath path = normalizePath path' := by
  rw [normalizePath, normalizePath]
  apply lower_congr
  rw [List.forall₂_map_left_iff, List.forall₂_map_right_iff]
  exact halike.imp fun _ _ => AlikeInPath.sameLetter

theorem AlikeFolders.marker_eq {folder folder' : String} (halike : AlikeFolders folder folder') :
    marker folder = marker folder' := by
  rw [marker, marker, ← trimWhile_lower_trimWhile folder.toList, lower_congr halike,
    trimWhile_lower_trimWhile]

theorem AlikeFolders.eventBelow?_eq {folder folder' : String} (halike : AlikeFolders folder folder')
    (path : List Char) : eventBelow? path folder = eventBelow? path folder' := by
  rw [eventBelow?, eventBelow?, halike.marker_eq]

/-- The runtime that a path suggests depends neither on the direction of slashes and the case of
ASCII letters in it, nor on that case or on outer slashes in the marker folders. -/
theorem runtimeFromPath?_of_alike (doc : Document) {path path' : String}
    (hpath : AlikePaths path path') {folders folders' : List String}
    (hfolders : List.Forall₂ AlikeFolders folders folders') :
    runtimeFromPath? doc path folders = runtimeFromPath? doc path' folders' := by
  have hevents : folders.filterMap (eventBelow? (normalizePath path)) =
      folders'.filterMap (eventBelow? (normalizePath path)) := by
    induction hfolders with
    | nil => rfl
    | cons hhead _ ih => rw [List.filterMap_cons, List.filterMap_cons, hhead.eventBelow?_eq, ih]
  rw [runtimeFromPath?, runtimeFromPath?, hevents, hpath.normalizePath_eq]

/-- The capital sigma is a final one before a slash of either direction and at the end of a text. -/
theorem runtimeFromPath?_of_alike_finalSigma :
    let path := "C:\\AΣ\\Molang\\Level_Up\\main.molang"
    let path' := "c:/AΣ/MOLANG\\LEVEL_UP/Main.molang"
    AlikePaths path path' ∧ AlikeFolders "AΣ" "//aΣ/" ∧ AlikeFolders "molang" "/Molang/" ∧
      runtimeFromPath? bundled path ["AΣ", "molang"] = some "event:LEVEL_UP" ∧
      runtimeFromPath? bundled path' ["//aΣ/", "/Molang/"] = some "event:LEVEL_UP" := by
  intro path path'
  have hpath : AlikePaths path path' := by decide +kernel
  have hfirst : AlikeFolders "AΣ" "//aΣ/" := by decide +kernel
  have hsecond : AlikeFolders "molang" "/Molang/" := by decide +kernel
  have hruntime : runtimeFromPath? bundled path ["AΣ", "molang"] = some "event:LEVEL_UP" := by
    decide +kernel
  refine ⟨hpath, hfirst, hsecond, hruntime, ?_⟩
  rw [← runtimeFromPath?_of_alike bundled hpath (.cons hfirst (.cons hsecond .nil)), hruntime]

end MolangAssist.Script
