import Mathlib.Data.List.Infix
import Mathlib.Data.List.Lex
import Mathlib.Data.List.Nodup
import Mathlib.Data.String.Basic
import MolangAssist.Files.Pattern
import MolangAssist.Proofs.Files.Trees
import MolangAssist.Proofs.Text.Readers

/-!
# Searching a tree

A star followed by plain characters fits the names that end in them, and plain characters alone
fit themselves. Below a root of a well-formed tree, a search finds each fitting entry once and in
order.
-/
namespace MolangAssist.Files

open Text

/-! ## Patterns -/

theorem markBefore_exactly (c : Char) (cs text : List Char) :
    markBefore (.exactly c) text (text.tails.map fun tail => decide (tail = cs)) =
      text.tails.map fun tail => decide (tail = c :: cs) := by
  induction text with
  | nil => simp [markBefore]
  | cons d ds ih =>
    have htails : ds.tails = ds :: ds.tails.tail := by cases ds <;> rfl
    have hfirst : (Piece.accepts (.exactly c) d && decide (ds = cs)) =
        decide (d :: ds = c :: cs) := by
      by_cases hd : d = c <;> simp [Piece.accepts, hd]
    rw [htails, List.map_cons] at ih
    rw [List.tails_cons, List.map_cons, List.map_cons, htails, List.map_cons, markBefore, ih,
      hfirst, List.map_cons]

theorem fittingEnds_exactly (text cs : List Char) :
    fittingEnds text (cs.map .exactly) = text.tails.map fun tail => decide (tail = cs) := by
  induction cs with
  | nil =>
    rw [List.map_nil, fittingEnds]
    induction text with
    | nil => rfl
    | cons d ds ih => simp [← ih]
  | cons c cs ih =>
    rw [List.map_cons, fittingEnds, ih, markBefore_exactly]
    simp

theorem headD_markLonger (marks : List Bool) :
    (markLonger marks).headD false = true ↔ true ∈ marks := by
  induction marks with
  | nil => simp [markLonger]
  | cons mark marks ih =>
    rw [markLonger, List.headD_cons, Bool.or_eq_true, ih, List.mem_cons, eq_comm]

/-- A star and plain characters fit exactly the texts that end in these characters. -/
theorem fits_star_iff {cs text : List Char} :
    fits (.anyText :: cs.map .exactly) text = true ↔ cs <:+ text := by
  rw [fits, fittingEnds, headD_markLonger, fittingEnds_exactly, ← List.mem_tails]
  simp

theorem piecesFrom_of_isPlain {cs : List Char} (hplain : isPlain cs = true) :
    piecesFrom 0 cs = cs.map .exactly := by
  induction cs with
  | nil => rfl
  | cons c cs ih =>
    simp only [isPlain, List.all_cons, Bool.and_eq_true, bne_iff_ne] at hplain
    obtain ⟨⟨⟨hstar, hmark⟩, hbracket⟩, hrest⟩ := hplain
    rw [piecesFrom, List.map_cons, ih hrest] <;> assumption

/-- A plain pattern fits only itself. -/
theorem fits_plain_iff {cs text : List Char} (hplain : isPlain cs = true) :
    fits (piecesFrom 0 cs) text = true ↔ text = cs := by
  have hends : text.tails = text :: text.tails.tail := by cases text <;> rfl
  rw [piecesFrom_of_isPlain hplain, fits, fittingEnds_exactly, hends]
  simp

theorem hasDoubleStar_of_isPlain {cs : List Char} (hplain : isPlain cs = true) :
    hasDoubleStar cs = false := by
  rw [hasDoubleStar, Bool.eq_false_iff, ne_eq, occursIn_iff]
  intro hstars
  have hstar : '*' ∈ cs := hstars.subset List.mem_cons_self
  have hnot := List.all_eq_true.mp hplain '*' hstar
  revert hnot
  decide

/-! ## Entries below a place -/

namespace Tree

variable {tree : Tree}

theorem relative?_eq_some_iff {base place : Place} {parts : List String} :
    relative? base place = some parts ↔ parts ≠ [] ∧ place = base ++ parts := by
  induction base generalizing place with
  | nil => cases place <;> simp [relative?, eq_comm]; grind
  | cons b base ih =>
    cases place with
    | nil => simp [relative?]
    | cons p place =>
      by_cases hp : b = p
      · simp [relative?, hp, ih]
      · simp [relative?, hp, Ne.symm hp]

theorem mem_below_iff {base : Place} {parts : List String} :
    parts ∈ tree.below base ↔ parts ≠ [] ∧ (tree.node? (base ++ parts)).isSome = true := by
  simp only [below, List.mem_filterMap, relative?_eq_some_iff]
  constructor
  · rintro ⟨entry, hentry, hparts, hplace⟩
    refine ⟨hparts, (isSome_node?_iff (by simp [hparts])).mpr ?_⟩
    exact List.mem_map.mpr ⟨entry, hentry, hplace⟩
  · rintro ⟨hparts, hfound⟩
    obtain ⟨entry, hentry, hplace⟩ :=
      List.mem_map.mp ((isSome_node?_iff (by simp [hparts])).mp hfound)
    exact ⟨entry, hentry, hparts, hplace⟩

theorem WellFormed.node?_eq_some_iff (htree : tree.WellFormed) {place : Place}
    (hplace : place ≠ []) {node : Node} :
    tree.node? place = some node ↔ (place, node) ∈ tree.entries := by
  have hlookup : tree.node? place = tree.entries.lookup place := if_neg (by simpa using hplace)
  have hmem : ∀ {other : Node}, tree.node? place = some other → (place, other) ∈ tree.entries := by
    intro other hother
    rw [hlookup, List.lookup_eq_some_iff] at hother
    obtain ⟨before, behind, hentries, _⟩ := hother
    simp [hentries]
  refine ⟨hmem, fun hentry => ?_⟩
  have hfound := (isSome_node?_iff hplace).mpr (List.mem_map.mpr ⟨_, hentry, rfl⟩)
  obtain ⟨other, hother⟩ := Option.isSome_iff_exists.mp hfound
  -- A place has one entry, so the one that is looked up is the given one.
  obtain ⟨_, rfl⟩ := Prod.mk.inj (List.inj_on_of_nodup_map htree.distinct (hmem hother) hentry rfl)
  exact hother

/-- The directories below a place are those that the tree has there. -/
theorem WellFormed.mem_directories_iff (htree : tree.WellFormed) {base : Place}
    (hbase : tree.node? base = some .directory) {parts : List String} :
    parts ∈ tree.directories base ↔ tree.node? (base ++ parts) = some .directory := by
  rw [directories, List.mem_cons, List.mem_filterMap]
  by_cases hparts : parts = []
  · simp [hparts, hbase]
  · have hplace : base ++ parts ≠ [] := by simp [hparts]
    rw [or_iff_right hparts, htree.node?_eq_some_iff hplace]
    constructor
    · rintro ⟨⟨place, node⟩, hentry, hrelative⟩
      cases node with
      | file bytes => cases hrelative
      | directory =>
        obtain ⟨_, rfl⟩ := relative?_eq_some_iff.mp hrelative
        exact hentry
    · intro hentry
      exact ⟨_, hentry, relative?_eq_some_iff.mpr ⟨hparts, rfl⟩⟩

theorem WellFormed.nodup_below (htree : tree.WellFormed) (base : Place) :
    (tree.below base).Nodup := by
  have hplaces : tree.below base = (tree.entries.map Prod.fst).filterMap (relative? base) := by
    rw [below, List.filterMap_map]
    rfl
  rw [hplaces]
  apply List.Nodup.filterMap _ htree.distinct
  intro place other parts hplace hother
  rw [(relative?_eq_some_iff.mp hplace).2, (relative?_eq_some_iff.mp hother).2]

end Tree

theorem Place.le_iff {a b : List String} : Place.le a b = true ↔ a ≤ b := by
  rw [le_iff_lt_or_eq]
  induction a generalizing b with
  | nil => cases b <;> simp [Place.le]
  | cons x xs ih =>
    cases b with
    | nil => simp [Place.le]
    | cons y ys =>
      have hcons : x :: xs < y :: ys ↔ x < y ∨ x = y ∧ xs < ys := List.cons_lt_cons_iff
      rw [Place.le, hcons]
      by_cases hxy : x = y
      · simp [hxy, ih]
      · simp [hxy]

/-- Sorting a list without repetitions puts it into strictly increasing order. -/
theorem Place.mergeSort_increasing {places : List (List String)} (hplaces : places.Nodup) :
    (places.mergeSort Place.le).Pairwise (· < ·) := by
  have hsorted : (places.mergeSort Place.le).Pairwise fun a b => Place.le a b = true := by
    apply List.pairwise_mergeSort
    · intro a b c hab hbc
      rw [Place.le_iff] at hab hbc ⊢
      exact le_trans hab hbc
    · intro a b
      rw [Bool.or_eq_true, Place.le_iff, Place.le_iff]
      exact le_total a b
  have hdistinct : (places.mergeSort Place.le).Nodup :=
    (List.mergeSort_perm places Place.le).nodup_iff.mpr hplaces
  refine (hsorted.and hdistinct).imp ?_
  rintro a b ⟨hle, hne⟩
  exact lt_of_le_of_ne (Place.le_iff.mp hle) hne

namespace Tree

variable {tree : Tree} {root : Path}

theorem WellFormed.below_eq_nil (htree : tree.WellFormed) {place : Place}
    (hplace : tree.node? place ≠ some .directory) : tree.below place = [] := by
  rw [List.eq_nil_iff_forall_not_mem]
  intro parts hparts
  obtain ⟨hparts, hfound⟩ := mem_below_iff.mp hparts
  exact hplace (htree.above hparts hfound)

/-- The entries below a root whose names fit a pattern, in order. -/
def matching (tree : Tree) (root : Path) (pattern : String) : List (List String) :=
  ((tree.below root.parts).filter fun parts =>
    match parts.getLast? with
    | some name => fits (piecesFrom 0 pattern.toList) name.toList
    | none => false).mergeSort Place.le

theorem WellFormed.matching_increasing (htree : tree.WellFormed) (pattern : String) :
    (tree.matching root pattern).Pairwise (· < ·) :=
  Place.mergeSort_increasing ((htree.nodup_below _).filter _)

theorem mem_matching_iff {pattern : String} {parts : List String} :
    parts ∈ tree.matching root pattern ↔ (tree.node? (root.parts ++ parts)).isSome = true ∧
      ∃ name, parts.getLast? = some name ∧
        fits (piecesFrom 0 pattern.toList) name.toList = true := by
  rw [matching, List.mem_mergeSort, List.mem_filter, mem_below_iff]
  cases hlast : parts.getLast? with
  | none => simp
  | some name =>
    have hparts : parts ≠ [] := by
      rintro rfl
      cases hlast
    simp [hparts]

/-- The failures for the length of a path or the depth of a directory. -/
inductive IsLimit : SearchError → Prop
  | tooLong (path : String) : IsLimit (.access path .nameTooLong)
  | tooDeep : IsLimit .tooDeep

/-- A search below a root meets a directory in which what it looks up has too long a path, or one
that is too deep for the stack. -/
def RefusesWalk (tree : Tree) (stack : Stack) (root : Path) (pattern : String) : Prop :=
  ∃ parts, tree.node? (root.parts ++ parts) = some .directory ∧
    ((root.below (parts ++ nameOf pattern)).TooLong ∨
      stack.frames < stack.search + parts.length)

theorem RefusesWalk.isDirectory (htree : tree.WellFormed) {stack : Stack} {pattern : String}
    (hwalk : tree.RefusesWalk stack root pattern) : tree.node? root.parts = some .directory := by
  obtain ⟨parts, hparts, _⟩ := hwalk
  by_cases hempty : parts = []
  · rwa [hempty, List.append_nil] at hparts
  · exact htree.above hempty (by rw [hparts]; rfl)

theorem WellFormed.refusesWalk_iff (htree : tree.WellFormed)
    (hroot : tree.node? root.parts = some .directory) {stack : Stack} {pattern : String} :
    tree.RefusesWalk stack root pattern ↔ ∃ parts ∈ tree.directories root.parts,
      (root.below (parts ++ nameOf pattern)).TooLong ∨
        stack.frames < stack.search + parts.length := by
  simp only [RefusesWalk, htree.mem_directories_iff hroot]

/-- Below a directory a search finds the fitting entries unless it is refused on its way. -/
theorem search_of_directory (htree : tree.WellFormed) (stack : Stack) {cwd : Place}
    {pattern : String} (hstars : hasDoubleStar pattern.toList ≠ true)
    (hprobe : tree.probe cwd root.toString = .ok (some (root.parts, .directory)))
    (hroot : tree.node? root.parts = some .directory) :
    (tree.search stack cwd root pattern = .ok (tree.matching root pattern) ∧
        ¬tree.RefusesWalk stack root pattern) ∨
      (∃ cause, tree.search stack cwd root pattern = .error cause ∧ IsLimit cause) ∧
        tree.RefusesWalk stack root pattern := by
  rw [search, if_neg hstars, hprobe, htree.refusesWalk_iff hroot]
  dsimp only
  cases hfind : ((tree.directories root.parts).map fun parts =>
      root.below (parts ++ nameOf pattern)).find? fun path => decide path.TooLong with
  | some path =>
    obtain ⟨parts, hparts, rfl⟩ := List.mem_map.mp (List.mem_of_find?_eq_some hfind)
    have hlong := List.find?_some hfind
    exact .inr ⟨⟨_, rfl, .tooLong _⟩, parts, hparts, .inl (of_decide_eq_true hlong)⟩
  | none =>
    have hshort : ∀ parts ∈ tree.directories root.parts,
        ¬(root.below (parts ++ nameOf pattern)).TooLong := by
      simpa using hfind
    dsimp only
    split
    · next hdeep =>
      obtain ⟨parts, hparts, hdeep⟩ := List.any_eq_true.mp hdeep
      exact .inr ⟨⟨_, rfl, .tooDeep⟩, parts, hparts, .inr (of_decide_eq_true hdeep)⟩
    · next hshallow =>
      refine .inl ⟨rfl, ?_⟩
      rintro ⟨parts, hparts, hlong | hdeep⟩
      · exact hshort parts hparts hlong
      · exact hshallow (List.any_eq_true.mpr ⟨parts, hparts, decide_eq_true hdeep⟩)

theorem search_of_no_directory (stack : Stack) {cwd : Place} {pattern : String}
    (hstars : hasDoubleStar pattern.toList ≠ true)
    (hprobe : tree.probe cwd root.toString =
      .ok ((tree.node? root.parts).map fun node => (root.parts, node)))
    (hroot : tree.node? root.parts ≠ some .directory) :
    tree.search stack cwd root pattern = .ok [] := by
  rw [search, if_neg hstars, hprobe]
  cases hfound : tree.node? root.parts with
  | none => rfl
  | some node =>
    cases node with
    | file bytes => rfl
    | directory => exact absurd hfound hroot

/-- A search below a normalised root finds the fitting entries, unless it is refused. -/
theorem search_of_normalised (htree : tree.WellFormed) (stack : Stack) (cwd : Place)
    (hroot : root.Normalised) (pattern : String) :
    tree.search stack cwd root pattern = .ok (tree.matching root pattern) ∨
      (tree.search stack cwd root pattern = .error .doubleStar ∧
        hasDoubleStar pattern.toList = true) ∨
      (∃ cause, tree.search stack cwd root pattern = .error cause ∧ IsLimit cause) ∧
        (root.TooLong ∨ tree.RefusesWalk stack root pattern) := by
  by_cases hstars : hasDoubleStar pattern.toList = true
  · exact .inr (.inl ⟨by rw [search, if_pos hstars], hstars⟩)
  rcases probe_of_normalised htree cwd hroot with hprobe | ⟨hprobe, hlong⟩
  · by_cases hnode : tree.node? root.parts = some .directory
    · rw [hnode, Option.map_some] at hprobe
      rcases search_of_directory htree stack hstars hprobe hnode with ⟨hfound, _⟩ | ⟨hcause, hwalk⟩
      · exact .inl hfound
      · exact .inr (.inr ⟨hcause, .inr hwalk⟩)
    · -- Nothing stands below what is no directory.
      have hempty : tree.matching root pattern = [] := by
        rw [matching, htree.below_eq_nil hnode, List.filter_nil, List.mergeSort_nil]
      rw [hempty]
      exact .inl (search_of_no_directory stack hstars hprobe hnode)
  · refine .inr (.inr ⟨⟨.access root.toString .nameTooLong, ?_, .tooLong _⟩, .inl hlong⟩)
    rw [search, if_neg hstars, hprobe]

theorem eq_matching_of_search (htree : tree.WellFormed) {stack : Stack} {cwd : Place}
    (hroot : root.Normalised) {pattern : String} {found : List (List String)}
    (hsearch : tree.search stack cwd root pattern = .ok found) :
    found = tree.matching root pattern := by
  rcases search_of_normalised htree stack cwd hroot pattern with
    hok | ⟨hstars, _⟩ | ⟨⟨cause, hrefused, _⟩, _⟩
  · exact Except.ok.inj (hsearch.symm.trans hok)
  · cases hsearch.symm.trans hstars
  · cases hsearch.symm.trans hrefused

/-- Scripts are the entries whose names end in `.molang`. -/
theorem mem_matching_scripts_iff {parts : List String} :
    parts ∈ tree.matching root "*.molang" ↔ (tree.node? (root.parts ++ parts)).isSome = true ∧
      ∃ name, parts.getLast? = some name ∧ ".molang".toList <:+ name.toList := by
  have hpieces : piecesFrom 0 "*.molang".toList = .anyText :: ".molang".toList.map .exactly := by
    decide +kernel
  simp only [mem_matching_iff, hpieces, fits_star_iff]

end Tree

end MolangAssist.Files
