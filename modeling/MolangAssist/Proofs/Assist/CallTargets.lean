import MolangAssist.Proofs.Assist.DeclarationSites
import MolangAssist.Proofs.Files.Lookups

/-!
# Where a call leads

A call leads to the declarations in the open text and to those in the other scripts of the
workspace. The open document is told apart from the scripts by its place, so that its copy on disk
is never shown.
-/
namespace MolangAssist.Assist

open Files Script Text

/-! ## Declarations of one text -/

theorem uri_of_mem_declarationTargets {text name : List Char} {uri : String} {target : Target}
    (htarget : target ∈ declarationTargets text uri name) : target.uri = uri := by
  obtain ⟨offset, _, rfl⟩ := List.mem_map.mp htarget
  rfl

/-- No declaration of a text is listed twice, since the targets of a text are in order. -/
theorem nodup_declarationTargets (text name : List Char) (uri : String) :
    (declarationTargets text uri name).Nodup := by
  refine (declarationTargets_ordered text uri name).imp ?_
  rintro target _ hprecedes rfl
  simp [Target.Precedes] at hprecedes

/-! ## Scripts of a workspace -/

/-- A workspace as it is opened: a well-formed tree and an absolute root without `.` and `..`, not
too long for an operating system. -/
structure Workspace.Opened (workspace : Workspace) : Prop where
  tree : workspace.tree.WellFormed
  root : workspace.root.Normal
  short : workspace.root.toString.utf8ByteSize ≤ Tree.maxPathBytes

/-- The scripts of a workspace, seen from its root: all entries whose names end in `.molang`,
except in skipped directories, in increasing order. -/
structure Workspace.Lists (workspace : Workspace) (scripts : List (List String)) : Prop where
  increasing : scripts.Pairwise (· < ·)
  mem_iff : ∀ parts, parts ∈ scripts ↔
    (workspace.tree.node? (workspace.root.parts ++ parts)).isSome = true ∧
      (∃ name, parts.getLast? = some name ∧ ".molang".toList <:+ name.toList) ∧
      ∀ part ∈ parts, part ≠ "node_modules" ∧ part ≠ ".git"

/-- There is only one such list. -/
theorem Workspace.Lists.unique {workspace : Workspace} {scripts others : List (List String)}
    (hscripts : workspace.Lists scripts) (hothers : workspace.Lists others) :
    scripts = others := by
  have hperm : scripts.Perm others := by
    rw [List.perm_ext_iff_of_nodup (hscripts.increasing.imp ne_of_lt)
      (hothers.increasing.imp ne_of_lt)]
    intro parts
    rw [hscripts.mem_iff, hothers.mem_iff]
  exact hperm.eq_of_pairwise (fun a b _ _ hab hba => absurd hba hab.asymm) hscripts.increasing
    hothers.increasing

/-- The declarations of a name in the file at a place; an unreadable file has none. -/
def Workspace.targetsAt (workspace : Workspace) (name : List Char) (file : Place) : List Target :=
  match workspace.tree.textAt? file with
  | some text => declarationTargets text.toList file.uri name
  | none => []

variable {workspace : Workspace}

theorem Workspace.Opened.normal_below (hworkspace : workspace.Opened) {parts : List String}
    (hfound : (workspace.tree.node? (workspace.root.parts ++ parts)).isSome = true) :
    (workspace.root.below parts).Normal :=
  ⟨hworkspace.root.absolute, hworkspace.tree.isFileName hfound⟩

/-- The scripts of a workspace cannot be searched: the path of a directory is too long, or the
directories are nested too deeply for the stack. -/
def Workspace.RefusesScripts (workspace : Workspace) : Prop :=
  workspace.tree.RefusesWalk workspace.host.stack workspace.root "*.molang"

theorem lists_matching (hworkspace : workspace.Opened) :
    workspace.Lists ((workspace.tree.matching workspace.root "*.molang").filter fun parts =>
      !parts.any (skippedDirectories.contains ·)) := by
  refine ⟨(hworkspace.tree.matching_increasing _).filter _, ?_⟩
  intro parts
  rw [List.mem_filter, Tree.mem_matching_scripts_iff, and_assoc]
  simp [skippedDirectories]

theorem exists_search_scripts_iff (hworkspace : workspace.Opened) :
    (∃ found, workspace.tree.search workspace.host.stack workspace.cwd workspace.root "*.molang" =
        .ok found) ↔ ¬workspace.RefusesScripts := by
  have hstars : hasDoubleStar "*.molang".toList ≠ true := by decide +kernel
  rw [Tree.exists_search_iff hworkspace.tree workspace.host.stack workspace.cwd hworkspace.root
    hworkspace.short, Tree.RefusesPattern, or_iff_right hstars, Workspace.RefusesScripts]

theorem workspaceScripts_eq (hworkspace : workspace.Opened) (limit : Int)
    {scripts : List (List String)} (hscripts : workspace.Lists scripts)
    (hsearched : ¬workspace.RefusesScripts) :
    workspaceScripts workspace limit =
      .ok ((scripts.take limit.toNat).map (workspace.root.parts ++ ·)) := by
  obtain ⟨found, hsearch⟩ := (exists_search_scripts_iff hworkspace).mpr hsearched
  have hkept :
      (found.filter fun parts => !parts.any (skippedDirectories.contains ·)) = scripts := by
    rw [Tree.eq_matching_of_search hworkspace.tree hworkspace.root.normalised hsearch]
    exact (lists_matching hworkspace).unique hscripts
  simp only [workspaceScripts, hsearch, hkept]
  congr 1
  apply List.map_congr_left
  intro parts hparts
  have hfound := ((hscripts.mem_iff parts).mp (List.mem_of_mem_take hparts)).1
  exact (hworkspace.normal_below hfound).resolve workspace.cwd

theorem exists_workspaceScripts_iff (hworkspace : workspace.Opened) (limit : Int) :
    (∃ files, workspaceScripts workspace limit = .ok files) ↔ ¬workspace.RefusesScripts := by
  rw [← exists_search_scripts_iff hworkspace, workspaceScripts]
  cases workspace.tree.search workspace.host.stack workspace.cwd workspace.root "*.molang" <;> simp

theorem scriptTargets_eq (hworkspace : workspace.Opened) (name : List Char) {file : Place}
    (hfound : (workspace.tree.node? file).isSome = true) :
    scriptTargets workspace name file = workspace.targetsAt name file := by
  have hread := Tree.toOption_readText hworkspace.tree workspace.cwd hfound
  rw [scriptTargets, Workspace.targetsAt, ← hread]
  cases workspace.tree.readText workspace.cwd file.toString <;> rfl

theorem uri_of_mem_targetsAt {name : List Char} {file : Place} {target : Target}
    (htarget : target ∈ workspace.targetsAt name file) : target.uri = file.uri := by
  rw [Workspace.targetsAt] at htarget
  split at htarget
  · exact uri_of_mem_declarationTargets htarget
  · cases htarget

theorem nodup_targetsAt (name : List Char) (file : Place) :
    (workspace.targetsAt name file).Nodup := by
  rw [Workspace.targetsAt]
  split
  · exact nodup_declarationTargets _ name _
  · exact List.nodup_nil

/-! ## The open document -/

/-- An absolute path as a document can have it: read from a text, and such that its URI leads back
to it. -/
structure IsDocument (uris : UriReader) (document : Path) : Prop where
  read : ∃ text, document = Path.ofString text
  absolute : document.isAbsolute = true
  inverse : uris.filePath? document.uri = .ok (some document.toString)

variable {uris : UriReader}

theorem IsDocument.proper {document : Path} (hdocument : IsDocument uris document) :
    document.Proper := by
  obtain ⟨text, rfl⟩ := hdocument.read
  exact Path.proper_ofString text

/-- The URI of a path says that it names a file. -/
theorem isNone_after?_uri (path : Path) :
    (after? "file://".toList path.uri.toList).isNone = false := by
  rw [Path.uri, String.toList_append, after?_eq_some_iff.mpr rfl]
  rfl

/-- The document is looked up where its path says, and not at all if that has a zero character. -/
theorem placeOfUri?_uri {document : Path} (hdocument : IsDocument uris document) (cwd : Place) :
    placeOfUri? uris cwd document.uri =
      if Char.ofNat 0 ∈ document.toString.toList then
        .error (.search (.access document.toString .nulByte))
      else .ok (some (document.resolve cwd)) := by
  have hpresent : present? (some document.toString) = some document.toString := by
    simp [present?, Path.toString_ne_empty hdocument.absolute]
  simp only [placeOfUri?, isNone_after?_uri, hdocument.inverse, hpresent, List.contains_iff_mem,
    Bool.false_eq_true, if_false, Path.ofString_toString hdocument.absolute hdocument.proper]

/-- A file with the URI of the open document stands at its place. -/
theorem eq_resolve_of_uri_eq {document : Path} (hdocument : IsDocument uris document)
    (cwd : Place) {file : Place} (hfile : (Place.path file).Normal)
    (huri : document.uri = file.uri) : file = document.resolve cwd := by
  have hpath : document = Place.path file :=
    Path.uri_injective hdocument.absolute hfile.absolute hdocument.proper hfile.proper huri
  rw [hpath, hfile.resolve]
  rfl

/-! ## All declarations -/

/-- The declarations of a name in the open text and in some files other than the open document. -/
def Workspace.targetsIn (workspace : Workspace) (text : List Char) (document : Path)
    (name : List Char) (files : List Place) : List Target :=
  declarationTargets text document.uri name ++
    (files.filter (· ≠ document.resolve workspace.cwd)).flatMap (workspace.targetsAt name)

theorem nodup_targetsIn {document : Path} (hdocument : IsDocument uris document)
    (text name : List Char) {files : List Place} (hdistinct : files.Nodup)
    (hfiles : ∀ file ∈ files, (Place.path file).Normal) :
    (workspace.targetsIn text document name files).Nodup := by
  rw [Workspace.targetsIn, List.nodup_append]
  refine ⟨nodup_declarationTargets text name _, ?_, ?_⟩
  · rw [List.nodup_flatMap]
    refine ⟨fun file _ => nodup_targetsAt name file, ?_⟩
    refine (hdistinct.filter _).imp_of_mem ?_
    intro first second hfirst hsecond hne target htarget htarget'
    have hfirst := hfiles first (List.mem_of_mem_filter hfirst)
    have hsecond := hfiles second (List.mem_of_mem_filter hsecond)
    -- A target carries the URI of its file, and files have URIs of their own.
    have huri : (Place.path first).uri = (Place.path second).uri :=
      (uri_of_mem_targetsAt htarget).symm.trans (uri_of_mem_targetsAt htarget')
    have hsame := Path.uri_injective rfl rfl hfirst.proper hsecond.proper huri
    exact hne (congrArg Path.parts hsame)
  · rintro target htarget _ helsewhere rfl
    obtain ⟨file, hfile, htarget'⟩ := List.mem_flatMap.mp helsewhere
    obtain ⟨hfile, hother⟩ := List.mem_filter.mp hfile
    have huri : document.uri = file.uri :=
      (uri_of_mem_declarationTargets htarget).symm.trans (uri_of_mem_targetsAt htarget')
    exact absurd (eq_resolve_of_uri_eq hdocument workspace.cwd (hfiles file hfile) huri)
      (by simpa using hother)

theorem workspaceTargets_eq (hworkspace : workspace.Opened) {document : Path}
    (hdocument : IsDocument workspace.host.uris document)
    (hzero : Char.ofNat 0 ∉ document.toString.toList) {limit : Int} (name : List Char)
    {files : List Place}
    (hscripts : workspaceScripts workspace limit = .ok files)
    (hfound : ∀ file ∈ files, (workspace.tree.node? file).isSome = true) :
    workspaceTargets workspace limit document.uri name =
      .ok ((files.filter (· ≠ document.resolve workspace.cwd)).flatMap
        (workspace.targetsAt name)) := by
  have hothers : (files.filter fun file => some file != some (document.resolve workspace.cwd)) =
      files.filter (· ≠ document.resolve workspace.cwd) := by
    apply List.filter_congr
    intro file _
    rw [Bool.eq_iff_iff]
    simp
  have htargets : (files.filter (· ≠ document.resolve workspace.cwd)).flatMap
      (scriptTargets workspace name) =
        (files.filter (· ≠ document.resolve workspace.cwd)).flatMap
          (workspace.targetsAt name) := by
    apply List.flatMap_congr
    intro file hfile
    exact scriptTargets_eq hworkspace name (hfound file (List.mem_of_mem_filter hfile))
  rw [workspaceTargets, placeOfUri?_uri hdocument, if_neg hzero, hscripts]
  simp only [Except.mapError, bind, Except.bind, hothers, htargets]

/-- The other scripts are searched unless the path of the document has a zero character or the
search is refused. -/
theorem workspaceTargets_error (hworkspace : workspace.Opened) {document : Path}
    (hdocument : IsDocument workspace.host.uris document) (limit : Int) (name : List Char)
    (hrefused : Char.ofNat 0 ∈ document.toString.toList ∨ workspace.RefusesScripts) :
    ∃ cause, workspaceTargets workspace limit document.uri name = .error (.search cause) := by
  rw [workspaceTargets, placeOfUri?_uri hdocument]
  split
  · exact ⟨_, rfl⟩
  · next hzero =>
    cases hscripts : workspaceScripts workspace limit with
    | ok files =>
      have hsearched := (exists_workspaceScripts_iff hworkspace limit).mp ⟨files, hscripts⟩
      exact absurd hrefused (not_or_intro hzero hsearched)
    | error cause => exact ⟨cause, rfl⟩

/-- A call leads to the declarations in the open text, and behind them to those in the first
scripts of the workspace, the open document left out. There is no answer only if the path of the
document has a zero character or the scripts cannot be searched. -/
theorem define_of_call (hworkspace : workspace.Opened) {document : Path}
    (hdocument : IsDocument workspace.host.uris document) (text : List Char)
    (limit line column : Int) (hit : Hit (List Char))
    (hhit : hit ∈ scan (use (formsOf Space.function.short)) (lineAt text line))
    (hfrom : hit.start ≤ column) (hto : column ≤ hit.stop) :
    ∃ scripts, workspace.Lists scripts ∧
      let files := (scripts.take limit.toNat).map (workspace.root.parts ++ ·)
      let targets := workspace.targetsIn text document hit.value files
      targets.Nodup ∧
      (Char.ofNat 0 ∉ document.toString.toList → ¬workspace.RefusesScripts →
        callTargets (some workspace) limit text document.uri (lineAt text line) column =
            .ok targets ∧
          (targets ≠ [] →
            define (some workspace) limit text document.uri line column = .ok targets)) ∧
      (Char.ofNat 0 ∈ document.toString.toList ∨ workspace.RefusesScripts →
        ∃ cause, define (some workspace) limit text document.uri line column =
          .error (.search cause)) := by
  have hlists := lists_matching hworkspace
  refine ⟨_, hlists, ?_⟩
  intro files targets
  have hfound : ∀ file ∈ files, (workspace.tree.node? file).isSome = true := by
    intro file hfile
    obtain ⟨parts, hparts, rfl⟩ := List.mem_map.mp hfile
    exact ((hlists.mem_iff parts).mp (List.mem_of_mem_take hparts)).1
  refine ⟨?_, ?_, ?_⟩
  · apply nodup_targetsIn hdocument
    · have hdistinct : List.Nodup _ := hlists.increasing.imp ne_of_lt
      exact (hdistinct.sublist (List.take_sublist _ _)).map (List.append_right_injective _)
    · intro file hfile
      exact Place.normal_path (hworkspace.tree.isFileName (hfound file hfile))
  · intro hzero hsearched
    have hcalled : callTargets (some workspace) limit text document.uri (lineAt text line) column =
        .ok targets := by
      have hscripts := workspaceScripts_eq hworkspace limit hlists hsearched
      have helsewhere := workspaceTargets_eq hworkspace hdocument hzero hit.value hscripts hfound
      simp only [callTargets, callAt?_of_hit hhit hfrom hto, helsewhere]
      rfl
    refine ⟨hcalled, fun hsome => ?_⟩
    have hempty : targets.isEmpty = false := by simpa using hsome
    simp only [define, hcalled, bind, Except.bind, hempty, Bool.false_eq_true, if_false]
  · intro hrefused
    obtain ⟨cause, helsewhere⟩ :=
      workspaceTargets_error hworkspace hdocument limit hit.value hrefused
    refine ⟨cause, ?_⟩
    simp only [define, callTargets, callAt?_of_hit hhit hfrom hto, helsewhere, bind, Except.bind]

/-! ## A workspace with a stale copy -/

/-- A function is declared in the open script, in two others and in a package. -/
def packWorkspace : Workspace where
  host := .usual
  tree := { entries := [
    (["w"], .directory),
    (["w", "node_modules"], .directory),
    (["w", "node_modules", "dep.molang"], .file "fn('reward', 1);".toUTF8),
    (["w", "scripts"], .directory),
    (["w", "scripts", "main.molang"], .file "fn('reward', 2);".toUTF8),
    (["w", "tail.molang"], .file "  fn('reward', 3);".toUTF8),
    (["w", "lib"], .directory),
    (["w", "lib", "rewards.molang"], .file "// helpers\nfn('reward', 4);".toUTF8)] }
  cwd := []
  root := ⟨.root, ["w"]⟩

def mainScript : Path := Path.ofString "/w/scripts/main.molang"

/-- The open script, edited since it was saved. -/
def editedText : List Char := "t.a = 1;\nfn('reward', 2);\nfunction.reward();".toList

theorem opened_packWorkspace : packWorkspace.Opened := by
  refine ⟨⟨by decide, by decide +kernel, ?_⟩, ⟨rfl, by decide +kernel⟩, by decide +kernel⟩
  intro entry hentry
  simp only [packWorkspace, List.mem_cons, List.not_mem_nil, or_false] at hentry
  rcases hentry with rfl | rfl | rfl | rfl | rfl | rfl | rfl | rfl <;> rfl

theorem lists_packWorkspace : packWorkspace.Lists
    [["lib", "rewards.molang"], ["scripts", "main.molang"], ["tail.molang"]] := by
  refine ⟨by decide +kernel, ?_⟩
  intro parts
  have hfound : (packWorkspace.tree.node? (packWorkspace.root.parts ++ parts)).isSome = true ↔
      packWorkspace.root.parts ++ parts ∈ packWorkspace.tree.entries.map Prod.fst :=
    Tree.isSome_node?_iff (by simp [packWorkspace])
  rw [hfound]
  constructor
  · intro hparts
    simp only [List.mem_cons, List.not_mem_nil, or_false] at hparts
    rcases hparts with rfl | rfl | rfl <;>
      exact ⟨by decide, ⟨_, rfl, by decide +kernel⟩, by decide⟩
  · rintro ⟨hentry, ⟨name, hlast, hname⟩, hkept⟩
    simp only [packWorkspace, List.map_cons, List.map_nil, List.mem_cons, List.not_mem_nil,
      or_false, List.cons_append, List.nil_append, List.cons.injEq, true_and] at hentry
    rcases hentry with rfl | rfl | rfl | rfl | rfl | rfl | rfl | rfl
    · cases hlast
    all_goals
      cases hlast
      revert hname hkept
      decide +kernel

/-- The buffer counts and not the copy on disk, the package is left out, and it does not count for
the limit. -/
theorem define_of_call_packWorkspace :
    define (some packWorkspace) 3 editedText mainScript.uri 2 15 = .ok [
      ⟨"file:///w/scripts/main.molang", 1, 0⟩,
      ⟨"file:///w/lib/rewards.molang", 1, 0⟩,
      ⟨"file:///w/tail.molang", 0, 2⟩] := by
  have hdocument : IsDocument packWorkspace.host.uris mainScript :=
    ⟨⟨_, rfl⟩, by decide +kernel, by decide +kernel⟩
  have hsearched : ¬packWorkspace.RefusesScripts := by
    rw [← exists_search_scripts_iff opened_packWorkspace]
    exact ⟨_, rfl⟩
  obtain ⟨scripts, hlists, _, hdefined, _⟩ := define_of_call opened_packWorkspace hdocument
    editedText 3 2 15 ⟨0, 15, "reward".toList⟩ (by decide +kernel) (by decide) (by decide)
  obtain ⟨_, hdefine⟩ := hdefined (by decide +kernel) hsearched
  have htargets : packWorkspace.targetsIn editedText mainScript "reward".toList
      ((scripts.take (3 : Int).toNat).map (packWorkspace.root.parts ++ ·)) = [
        ⟨"file:///w/scripts/main.molang", 1, 0⟩,
        ⟨"file:///w/lib/rewards.molang", 1, 0⟩,
        ⟨"file:///w/tail.molang", 0, 2⟩] := by
    rw [hlists.unique lists_packWorkspace]
    decide +kernel
  rw [htargets] at hdefine
  exact hdefine (List.cons_ne_nil _ _)

/-- A path with a zero character, which a URI can spell. -/
def zeroScript : Path := Path.ofString "/w/a\x00b.molang"

/-- The open text declares the function that is called, and there is still no answer. -/
theorem call_fails_behind_zero :
    packWorkspace.Opened ∧ IsDocument packWorkspace.host.uris zeroScript ∧
      zeroScript.uri = "file:///w/a%00b.molang" ∧
      callAt? (lineAt editedText 2) 15 = some "reward".toList ∧
      declarationTargets editedText zeroScript.uri "reward".toList =
        [⟨"file:///w/a%00b.molang", 1, 0⟩] ∧
      define (some packWorkspace) 3 editedText zeroScript.uri 2 15 =
        .error (.search (.access zeroScript.toString .nulByte)) :=
  ⟨opened_packWorkspace, ⟨⟨_, rfl⟩, by decide +kernel, by decide +kernel⟩, by decide +kernel,
    by decide +kernel, by decide +kernel, by decide +kernel⟩

end MolangAssist.Assist
