import MolangAssist.Proofs.Script.RuntimeSources
import MolangAssist.Proofs.Text.Positions
import MolangAssist.Schema.Bundled

/-!
# Marker folders as components of a path

A marker folder with the directory of an event below it names a runtime. The search for marker
folders looks at text: it stops at the first directory whose name ends in the name of the folder, be
it the folder or not, and never looks further. Read off the components of a path, this says which
folders are recognised: all those in paths where no other directory ends in the name of one.
-/
namespace MolangAssist

open Text

/-! ## Pieces between separators -/

namespace Text

variable {separator : Char}

theorem splitAt_injective {s t : List Char} (hsame : splitAt separator s = splitAt separator t) :
    s = t := by
  rw [← intercalate_splitAt separator s, hsame, intercalate_splitAt]

theorem exists_of_splitAt_eq_cons {s piece : List Char} {pieces : List (List Char)}
    (hsplit : splitAt separator s = piece :: pieces) (hpieces : pieces ≠ []) :
    ∃ rest, s = piece ++ separator :: rest ∧ splitAt separator rest = pieces := by
  have hmem : separator ∈ s := by
    by_contra hnot
    rw [splitAt_of_not_mem hnot] at hsplit
    exact hpieces (List.cons.inj hsplit).2.symm
  obtain ⟨rest, hs, hnot⟩ := takeWhile_ne_iff.mp ⟨rfl, hmem⟩
  rw [hs, splitAt_append_cons, splitAt_of_not_mem hnot, List.singleton_append] at hsplit
  obtain ⟨rfl, rfl⟩ := List.cons.inj hsplit
  exact ⟨rest, hs, rfl⟩

/-- A piece with others behind it stands in the text with the separator behind it. -/
theorem exists_of_splitAt_eq_append {s piece : List Char} {above pieces : List (List Char)}
    (hsplit : splitAt separator s = above ++ piece :: pieces) (hpieces : pieces ≠ []) :
    ∃ lead rest, s = lead ++ (piece ++ separator :: rest) ∧ splitAt separator rest = pieces := by
  induction above generalizing s with
  | nil =>
    obtain ⟨rest, hs, hrest⟩ := exists_of_splitAt_eq_cons hsplit hpieces
    exact ⟨[], rest, hs, hrest⟩
  | cons first above ih =>
    obtain ⟨behind, rfl, hbehind⟩ := exists_of_splitAt_eq_cons hsplit (by simp)
    obtain ⟨lead, rest, rfl, hrest⟩ := ih hbehind
    exact ⟨first ++ separator :: lead, rest, by simp, hrest⟩

/-- The first item of its kind cuts a list in one way only. -/
theorem eq_of_append_first {α : Type} {p : α → Prop} {above above' rest rest' : List α}
    {a a' : α} (habove : ∀ b ∈ above, ¬p b) (habove' : ∀ b ∈ above', ¬p b) (ha : p a) (ha' : p a')
    (hsame : above ++ a :: rest = above' ++ a' :: rest') :
    above = above' ∧ a = a' ∧ rest = rest' := by
  induction above generalizing above' with
  | nil =>
    cases above' with
    | nil => exact ⟨rfl, List.cons.inj hsame⟩
    | cons b above' =>
      obtain ⟨rfl, _⟩ := List.cons.inj hsame
      exact absurd ha (habove' a List.mem_cons_self)
  | cons b above ih =>
    cases above' with
    | nil =>
      obtain ⟨rfl, _⟩ := List.cons.inj hsame
      exact absurd ha' (habove b List.mem_cons_self)
    | cons b' above' =>
      obtain ⟨rfl, hrest⟩ := List.cons.inj hsame
      obtain ⟨rfl, hsplit⟩ := ih (fun c hc => habove c (List.mem_cons_of_mem _ hc))
        (fun c hc => habove' c (List.mem_cons_of_mem _ hc)) hrest
      exact ⟨rfl, hsplit⟩

end Text

namespace Script

open Schema

/-! ## Directories of a path -/

/-- The components of a path that have something below them. -/
def directories (path : List Char) : List (List Char) := (splitAt '/' path).dropLast

/-- The name of a marker folder as it stands in a normalised path. -/
def folderName (folder : String) : List Char := trimWhile (· == '/') (lower folder.toList)

/-- A name of one component. -/
structure IsComponent (name : List Char) : Prop where
  ne_nil : name ≠ []
  no_slash : '/' ∉ name

/-- The id of the runtime for the event that a directory is named after. -/
def eventId (directory : List Char) : String := "event:" ++ String.ofList (upper directory)

/-- Right below a marker folder, wherever it stands in the path, a directory is named after an
event. -/
def MarksEvent (path : List Char) (folder id : String) : Prop :=
  ∃ directory ∈ directories path, directory ≠ [] ∧
    [folderName folder, directory] <:+: directories path ∧ id = eventId directory

instance (path : List Char) (folder id : String) : Decidable (MarksEvent path folder id) :=
  inferInstanceAs (Decidable (∃ directory ∈ directories path, _))

/-- The first directory to end in the name of a marker folder has a directory right below it that is
named after an event. -/
def LeadsTo (path : List Char) (folder : String) (ending : List Char) (id : String) : Prop :=
  ∃ above directory below, directories path = above ++ ending :: directory :: below ∧
    directory ≠ [] ∧ folderName folder <:+ ending ∧
    (∀ other ∈ above, ¬folderName folder <:+ other) ∧
    id = eventId directory

/-- The text behind the first occurrence of a marker folder is what stands below the first directory
that ends in its name. -/
theorem afterFirst?_component_iff {name : List Char} (hname : IsComponent name)
    {path rest : List Char} :
    afterFirst? (name ++ ['/']) path = some rest ↔
      ∃ above ending, splitAt '/' path = above ++ ending :: splitAt '/' rest ∧ name <:+ ending ∧
        ∀ other ∈ above, ¬name <:+ other := by
  have hfirst : ∀ rest, afterFirst? (name ++ ['/']) path = some rest →
      ∃ above ending, splitAt '/' path = above ++ ending :: splitAt '/' rest ∧ name <:+ ending ∧
        ∀ other ∈ above, ¬name <:+ other := by
    intro rest hafter
    obtain ⟨lead, hpath, hleftmost⟩ := afterFirst?_eq_some_iff.mp hafter
    obtain ⟨above, hlead, hlonger⟩ := exists_splitAt_append lead hname.no_slash
    refine ⟨above, lastPiece '/' lead ++ name, ?_, List.suffix_append _ _, ?_⟩
    · have hslash : path = (lead ++ name) ++ '/' :: rest := by simp [hpath]
      rw [hslash, splitAt_append_cons, hlonger, List.append_assoc, List.singleton_append]
    · rintro other hother ⟨start, rfl⟩
      -- A folder of that name further up would be an occurrence further to the left.
      obtain ⟨higher, lower, rfl⟩ := List.append_of_mem hother
      rw [List.append_assoc, List.cons_append] at hlead
      obtain ⟨before, behind, hbefore, _⟩ := exists_of_splitAt_eq_append hlead (by simp)
      have hearlier := hleftmost (before ++ start) (behind ++ name ++ '/' :: rest)
        (by simp [hpath, hbefore])
      have hlength := congrArg List.length hbefore
      simp only [List.length_append, List.length_cons] at hearlier hlength
      omega
  refine ⟨hfirst rest, ?_⟩
  rintro ⟨above, ending, hsplit, ⟨start, rfl⟩, habove⟩
  obtain ⟨lead, behind, hpath, _⟩ := exists_of_splitAt_eq_append hsplit (splitAt_ne_nil '/' rest)
  have hoccurs : name ++ ['/'] <:+: path := ⟨lead ++ start, behind, by simp [hpath]⟩
  obtain ⟨found, hfound⟩ := Option.isSome_iff_exists.mp (occursIn_iff.mpr hoccurs)
  obtain ⟨above', ending', hsplit', hending', habove'⟩ := hfirst found hfound
  obtain ⟨_, _, hrest⟩ := eq_of_append_first habove habove' (List.suffix_append _ _)
    hending' (hsplit.symm.trans hsplit')
  rw [hfound, splitAt_injective hrest]

theorem exists_splitAt_eq_directories (path : List Char) :
    ∃ last, splitAt '/' path = directories path ++ [last] :=
  ⟨_, (List.dropLast_append_getLast (splitAt_ne_nil '/' path)).symm⟩

theorem folderNames_iff {folder : String} (hfolder : IsComponent (folderName folder))
    {path : List Char} {id : String} :
    FolderNames path folder id ↔ ∃ ending, LeadsTo path folder ending id := by
  have hread : FolderNames path folder id ↔ ∃ directory rest,
      afterFirst? (folderName folder ++ ['/']) path = some (directory ++ '/' :: rest) ∧
        directory ≠ [] ∧ '/' ∉ directory ∧ id = eventId directory := by
    simp only [afterFirst?_eq_some_iff, FolderNames]
    constructor
    · rintro ⟨lead, directory, rest, hpath, hdirectory, hslash, hid, hfirst⟩
      exact ⟨directory, rest, ⟨lead, hpath, hfirst⟩, hdirectory, hslash, hid⟩
    · rintro ⟨directory, rest, ⟨lead, hpath, hfirst⟩, hdirectory, hslash, hid⟩
      exact ⟨lead, directory, rest, hpath, hdirectory, hslash, hid, hfirst⟩
  rw [hread]
  simp only [afterFirst?_component_iff hfolder]
  constructor
  · rintro ⟨directory, rest, ⟨above, ending, hsplit, hending, habove⟩, hdirectory, hslash, hid⟩
    rw [splitAt_append_cons, splitAt_of_not_mem hslash, List.singleton_append] at hsplit
    refine ⟨ending, above, directory, (splitAt '/' rest).dropLast, ?_, hdirectory, hending, habove,
      hid⟩
    rw [directories, hsplit]
    simp [List.dropLast_append_of_ne_nil, List.dropLast_cons_of_ne_nil (splitAt_ne_nil '/' rest)]
  · rintro ⟨ending, above, directory, below, hdirs, hdirectory, hending, habove, hid⟩
    have hmem : directory ∈ splitAt '/' path := (List.dropLast_subset _) (by
      rw [← directories, hdirs]
      simp)
    have hslash : '/' ∉ directory := not_mem_of_mem_splitAt hmem
    obtain ⟨last, hsplit⟩ := exists_splitAt_eq_directories path
    rw [hdirs, List.append_assoc, List.cons_append, List.cons_append, List.append_cons] at hsplit
    obtain ⟨lead, rest, hpath, hrest⟩ := exists_of_splitAt_eq_append hsplit (by simp)
    refine ⟨directory, rest, ⟨above, ending, ?_, hending, habove⟩, hdirectory, hslash, hid⟩
    rw [hsplit, splitAt_append_cons, splitAt_of_not_mem hslash, hrest, List.append_assoc]
    rfl

/-! ## Events below marker folders -/

/-- Marker folders of a path mark an event that is declared as a runtime, and no other one. -/
structure MarksOnly (path : List Char) (folders runtimes : List String) (runtime : String) :
    Prop where
  marked : ∃ folder ∈ folders, MarksEvent path folder runtime
  declared : runtime ∈ runtimes
  only : ∀ folder ∈ folders, ∀ id ∈ runtimes, MarksEvent path folder id → id = runtime

/-- A longer name than the folder's own leads to an event. -/
def StraysTo (path : List Char) (folder id : String) : Prop :=
  ∃ ending, ending ≠ folderName folder ∧ LeadsTo path folder ending id

/-- At most one directory of a path ends in the name of a marker folder, and this is the folder. -/
def StandsAlone (path : List Char) (folder : String) : Prop :=
  (directories path).filter ((folderName folder).isSuffixOf ·) <+: [folderName folder]

instance (path : List Char) (folder : String) : Decidable (StandsAlone path folder) :=
  inferInstanceAs (Decidable (_ <+: _))

theorem StandsAlone.eq_folderName {path : List Char} {folder : String}
    (halone : StandsAlone path folder) {above below : List (List Char)} {ending : List Char}
    (hdirs : directories path = above ++ ending :: below) (hending : folderName folder <:+ ending) :
    ending = folderName folder ∧ ∀ other ∈ above, ¬folderName folder <:+ other := by
  have hkept : (folderName folder).isSuffixOf ending = true :=
    List.isSuffixOf_iff_suffix.mpr hending
  rw [StandsAlone, hdirs, List.filter_append, List.filter_cons_of_pos hkept] at halone
  have hnone : above.filter ((folderName folder).isSuffixOf ·) = [] := by
    have hlength := halone.length_le
    simp only [List.length_append, List.length_cons, List.length_nil] at hlength
    exact List.eq_nil_of_length_eq_zero (by omega)
  rw [hnone, List.nil_append, List.cons_prefix_cons] at halone
  refine ⟨halone.1, ?_⟩
  intro other hother hsuffix
  have hmem : other ∈ above.filter ((folderName folder).isSuffixOf ·) :=
    List.mem_filter.mpr ⟨hother, List.isSuffixOf_iff_suffix.mpr hsuffix⟩
  rw [hnone] at hmem
  cases hmem

theorem LeadsTo.marksEvent {path : List Char} {folder id : String}
    (hleads : LeadsTo path folder (folderName folder) id) : MarksEvent path folder id := by
  obtain ⟨above, directory, below, hdirs, hdirectory, _, _, hid⟩ := hleads
  exact ⟨directory, by simp [hdirs], hdirectory, ⟨above, below, by simp [hdirs]⟩, hid⟩

theorem MarksEvent.leadsTo {path : List Char} {folder id : String}
    (hmarks : MarksEvent path folder id) (halone : StandsAlone path folder) :
    LeadsTo path folder (folderName folder) id := by
  obtain ⟨directory, _, hdirectory, ⟨above, below, hdirs⟩, hid⟩ := hmarks
  have hdirs' : directories path = above ++ folderName folder :: directory :: below := by
    simp [← hdirs]
  exact ⟨above, directory, below, hdirs', hdirectory, List.suffix_refl _,
    (halone.eq_folderName hdirs' (List.suffix_refl _)).2, hid⟩

theorem StandsAlone.not_straysTo {path : List Char} {folder id : String}
    (halone : StandsAlone path folder) : ¬StraysTo path folder id := by
  rintro ⟨ending, hother, above, directory, below, hdirs, _, hending, _⟩
  exact hother (halone.eq_folderName hdirs hending).1

/-! ## The runtime of a path -/

theorem FirstNaming.append {β : Type} {items : List β} {Names : β → String → Prop}
    {declared : List String} {id : String} (hfirst : FirstNaming items Names declared id)
    (more : List β) : FirstNaming (items ++ more) Names declared id := by
  obtain ⟨earlier, item, later, rfl, hnames⟩ := hfirst
  exact ⟨earlier, item, later ++ more, by simp, hnames⟩

/-- If any item names a declared id, a first one does. -/
theorem exists_firstNaming {β : Type} {items : List β} {Names : β → String → Prop}
    {declared : List String} {item : β} {id : String} (hitem : item ∈ items)
    (hnames : Names item id) (hid : id ∈ declared) :
    ∃ first, FirstNaming items Names declared first := by
  induction items with
  | nil => cases hitem
  | cons head rest ih =>
    by_cases hhead : ∃ first ∈ declared, Names head first
    · obtain ⟨first, hfirst, hnamed⟩ := hhead
      exact ⟨first, [], head, rest, rfl, hnamed, hfirst, by simp⟩
    · have hpassed : ∀ named, Names head named → named ∉ declared := fun named hnamed hdeclared =>
        hhead ⟨named, hdeclared, hnamed⟩
      rcases List.mem_cons.mp hitem with rfl | hitem
      · exact absurd hid (hpassed id hnames)
      · obtain ⟨first, earlier, other, later, rfl, hother, hfirst, hearlier⟩ := ih hitem
        exact ⟨first, head :: earlier, other, later, rfl, hother, hfirst,
          List.forall_mem_cons.mpr ⟨hpassed, hearlier⟩⟩

theorem runtimeFromPath?_eq_some_iff (doc : Document) (path : String) (folders : List String)
    (id : String) :
    runtimeFromPath? doc path folders = some id ↔
      FirstAvailable
        [FirstNaming folders (FolderNames (normalizePath path)) doc.runtimeNames,
          FirstNaming doc.runtimeNames (MentionNames (normalizePath path))
            doc.runtimeNames] id := by
  have hor : runtimeFromPath? doc path folders =
      ((folders.filterMap (eventBelow? (normalizePath path))).find?
          (doc.runtimeNames.contains ·)).or
        (doc.runtimeNames.find? fun name =>
          !(fuzzyKey name).isEmpty && occursIn (fuzzyKey name) (normalizePath path)) := by
    rw [runtimeFromPath?]
    cases (folders.filterMap (eventBelow? (normalizePath path))).find?
        (doc.runtimeNames.contains ·) <;> rfl
  rw [hor]
  refine firstAvailable_cons (folders_find?_eq_some_iff doc _ folders) ?_ id
  intro id
  simp [FirstAvailable, mentions_find?_eq_some_iff]

section MarkedPath

variable {path : List Char} {folders runtimes : List String} {runtime : String}
  (hfolders : ∀ folder ∈ folders, IsComponent (folderName folder))

include hfolders

/-- A folder that leads to a declared runtime leads to the one that is marked, unless it strays. -/
theorem MarksOnly.firstNaming_iff (hmarks : MarksOnly path folders runtimes runtime) :
    FirstNaming folders (FolderNames path) runtimes runtime ↔
      ∃ earlier folder later ending, folders = earlier ++ folder :: later ∧
        LeadsTo path folder ending runtime ∧
        ∀ other ∈ earlier, ∀ id ∈ runtimes, StraysTo path other id → id = runtime := by
  constructor
  · rintro ⟨earlier, folder, later, rfl, hnames, _, hearlier⟩
    obtain ⟨ending, hleads⟩ := (folderNames_iff (hfolders folder (by simp))).mp hnames
    refine ⟨earlier, folder, later, ending, rfl, hleads, ?_⟩
    rintro other hother id hid ⟨stray, _, hstray⟩
    have hother' := folderNames_iff (hfolders other (by simp [hother])) |>.mpr ⟨stray, hstray⟩
    exact absurd hid (hearlier other hother id hother')
  · rintro ⟨earlier, folder, later, ending, rfl, hleads, hstrays⟩
    by_cases hnone : ∀ other ∈ earlier, ∀ named, FolderNames path other named → named ∉ runtimes
    · exact ⟨earlier, folder, later, rfl,
        (folderNames_iff (hfolders folder (by simp))).mpr ⟨ending, hleads⟩, hmarks.declared, hnone⟩
    · push Not at hnone
      obtain ⟨other, hother, named, hnamed, hdeclared⟩ := hnone
      obtain ⟨id, before, first, behind, hsplit, hfirst, hid, hbefore⟩ :=
        exists_firstNaming hother hnamed hdeclared
      have hmem : first ∈ earlier := by simp [hsplit]
      obtain ⟨found, hfound⟩ := (folderNames_iff (hfolders first (by simp [hmem]))).mp hfirst
      have hsame : id = runtime := by
        by_cases hname : found = folderName first
        · rw [hname] at hfound
          exact hmarks.only first (by simp [hmem]) id hid hfound.marksEvent
        · exact hstrays first hmem id hid ⟨found, hname, hfound⟩
      rw [← hsame]
      exact FirstNaming.append ⟨before, first, behind, hsplit, hfirst, hid, hbefore⟩ _

theorem not_firstNaming_iff :
    (∀ id, ¬FirstNaming folders (FolderNames path) runtimes id) ↔
      ∀ folder ∈ folders, ∀ ending, ∀ id ∈ runtimes, ¬LeadsTo path folder ending id := by
  constructor
  · intro hnone folder hfolder ending id hid hleads
    have hnames := (folderNames_iff (hfolders folder hfolder)).mpr ⟨ending, hleads⟩
    obtain ⟨first, hfirst⟩ := exists_firstNaming hfolder hnames hid
    exact hnone first hfirst
  · rintro hnone id ⟨earlier, folder, later, rfl, hnames, hid, _⟩
    obtain ⟨ending, hleads⟩ := (folderNames_iff (hfolders folder (by simp))).mp hnames
    exact hnone folder (by simp) ending id hid hleads

end MarkedPath

/-- A marker folder with the directory of a runtime below it decides the runtime of a path if the
first directory to end in its name is that folder and none of the folders tried before leads
somewhere else through a longer name. If no folder leads to a runtime, the path has to mention it.
It is enough that no other directory ends in the name of a marker folder. -/
theorem runtimeFromPath?_of_marksOnly (doc : Document) {folders : List String}
    (hfolders : ∀ folder ∈ folders, IsComponent (folderName folder)) {path runtime : String}
    (hmarks : MarksOnly (normalizePath path) folders doc.runtimeNames runtime) :
    (runtimeFromPath? doc path folders = some runtime ↔
      (∃ earlier folder later ending, folders = earlier ++ folder :: later ∧
        LeadsTo (normalizePath path) folder ending runtime ∧
        ∀ other ∈ earlier, ∀ id ∈ doc.runtimeNames, StraysTo (normalizePath path) other id →
          id = runtime) ∨
      (∀ folder ∈ folders, ∀ ending, ∀ id ∈ doc.runtimeNames,
        ¬LeadsTo (normalizePath path) folder ending id) ∧
        FirstNaming doc.runtimeNames (MentionNames (normalizePath path)) doc.runtimeNames
          runtime) ∧
    ((∀ folder ∈ folders, StandsAlone (normalizePath path) folder) →
      runtimeFromPath? doc path folders = some runtime) := by
  have hexact := runtimeFromPath?_eq_some_iff doc path folders runtime
  simp only [FirstAvailable, and_false, or_false, hmarks.firstNaming_iff hfolders,
    not_firstNaming_iff hfolders] at hexact
  refine ⟨hexact, ?_⟩
  intro halone
  obtain ⟨folder, hfolder, hmarked⟩ := hmarks.marked
  obtain ⟨earlier, later, rfl⟩ := List.append_of_mem hfolder
  refine hexact.mpr (.inl ⟨earlier, folder, later, _, rfl, hmarked.leadsTo (halone folder hfolder),
    ?_⟩)
  intro other hother id _ hstrays
  exact absurd hstrays (halone other (by simp [hother])).not_straysTo

/-- Both marker folders stand in the path, and the name of the script ends in that of one. -/
theorem runtimeFromPath?_of_marksOnly_callback :
    let path := "C:\\pack\\Callbacks\\Level_Up\\molang\\main.molang"
    MarksOnly (normalizePath path) defaultFolders bundled.runtimeNames "event:LEVEL_UP" ∧
      runtimeFromPath? bundled path defaultFolders = some "event:LEVEL_UP" := by
  intro path
  have hfolders : ∀ folder ∈ defaultFolders, IsComponent (folderName folder) := by
    simp only [defaultFolders, List.mem_cons, List.not_mem_nil, or_false, forall_eq_or_imp,
      forall_eq]
    exact ⟨⟨by decide, by decide⟩, ⟨by decide, by decide⟩⟩
  have hmarks : MarksOnly (normalizePath path) defaultFolders bundled.runtimeNames
      "event:LEVEL_UP" := ⟨by decide +kernel, by decide +kernel, by decide +kernel⟩
  exact ⟨hmarks, (runtimeFromPath?_of_marksOnly bundled hfolders hmarks).2 (by decide +kernel)⟩

/-- A folder whose name ends in that of a marker folder, and a marker folder above the one that
counts. -/
theorem markerFolder_overlooked :
    (MarksOnly (normalizePath "/amolang/battle_victory/molang/level_up/a.molang") defaultFolders
        bundled.runtimeNames "event:LEVEL_UP" ∧
      runtimeFromPath? bundled "/amolang/battle_victory/molang/level_up/a.molang" defaultFolders =
        some "event:BATTLE_VICTORY") ∧
    MarksOnly (normalizePath "/molang/shared/molang/level_up/a.molang") defaultFolders
        bundled.runtimeNames "event:LEVEL_UP" ∧
      runtimeFromPath? bundled "/molang/shared/molang/level_up/a.molang" defaultFolders = none :=
  ⟨⟨⟨by decide +kernel, by decide +kernel, by decide +kernel⟩, by decide +kernel⟩,
    ⟨by decide +kernel, by decide +kernel, by decide +kernel⟩, by decide +kernel⟩

end Script

end MolangAssist
