import MolangAssist.Proofs.Script.CallSites

/-!
# Imports in a line

An import is read in the same way whatever stands around it. So each import of a line is the first
one, and with it the one that a column inside is taken to touch, as soon as the rest of the line is
blank. In the line as it stands, only the first import is ever looked at.
-/
namespace MolangAssist.Text

variable {α : Type} {r : Recogniser α}

/-! ## A hit by itself -/

/-- A text with spaces for everything outside a hit. -/
def Hit.alone (hit : Hit α) (text : List Char) : List Char :=
  text.mapIdx fun place c => if hit.start ≤ place ∧ place < hit.stop then c else ' '

theorem Hit.alone_append {hit : Hit α} {lead used rest : List Char}
    (hstart : hit.start = lead.length) (hstop : hit.stop = lead.length + used.length) :
    hit.alone (lead ++ (used ++ rest)) =
      List.replicate lead.length ' ' ++ (used ++ List.replicate rest.length ' ') := by
  have hbefore : lead.mapIdx (fun place c => if hit.start ≤ place ∧ place < hit.stop then c
      else ' ') = List.replicate lead.length ' ' := by
    rw [List.mapIdx_eq_replicate_iff]
    intro place hplace
    rw [if_neg (by omega)]
  have hinside : used.mapIdx (fun place c => if hit.start ≤ place + lead.length ∧
      place + lead.length < hit.stop then c else ' ') = used := by
    refine List.ext_getElem (by simp) ?_
    intro place hplace hplace'
    rw [List.getElem_mapIdx, if_pos (by omega)]
  have hbehind : rest.mapIdx (fun place c => if hit.start ≤ place + used.length + lead.length ∧
      place + used.length + lead.length < hit.stop then c else ' ') =
        List.replicate rest.length ' ' := by
    rw [List.mapIdx_eq_replicate_iff]
    intro place hplace
    rw [if_neg (by omega)]
  rw [Hit.alone, List.mapIdx_append, List.mapIdx_append, hbefore, hinside, hbehind]

/-- A recogniser that reads the same from the same characters, whatever stands around them. -/
def Recogniser.Closed (r : Recogniser α) : Prop :=
  ∀ before used rest value, r before (used ++ rest) = some (value, rest) →
    ∀ before' rest', r before' (used ++ rest') = some (value, rest')

theorem scanFrom_spaces (hspace : ∀ before s, r before (' ' :: s) = none) (offset count : Nat)
    (before : Option Char) (s : List Char) :
    ∃ before', scanFrom r offset 0 before (List.replicate count ' ' ++ s) =
      scanFrom r (offset + count) 0 before' s := by
  induction count generalizing offset before with
  | zero => exact ⟨before, rfl⟩
  | succ count ih =>
    obtain ⟨before', hrest⟩ := ih (offset + 1) (some ' ')
    refine ⟨before', ?_⟩
    rw [List.replicate_succ, List.cons_append, scanFrom_miss (hspace _ _), hrest]
    congr 1
    omega

/-- Where nothing stands around it, a hit is found first. -/
theorem firstHit?_alone (hr : r.Consumes) (hclosed : r.Closed)
    (hspace : ∀ before s, r before (' ' :: s) = none) {text : List Char} {hit : Hit α}
    (hhit : hit ∈ scan r text) : firstHit? r (hit.alone text) = some hit := by
  obtain ⟨lead, used, rest, rfl, hread, hstart, hstop⟩ := scanFrom_sound hr 0 none text hit hhit
  rw [Nat.zero_add] at hstart hstop
  have hused : used ≠ [] := by
    obtain ⟨taken, htaken, hsplit⟩ := hr _ _ _ _ hread
    rwa [List.append_cancel_right hsplit]
  obtain ⟨before, hspaces⟩ := scanFrom_spaces hspace 0 lead.length none
    (used ++ List.replicate rest.length ' ')
  have hread' := hclosed _ used rest hit.value hread before (List.replicate rest.length ' ')
  have hsame : (⟨lead.length, lead.length + used.length, hit.value⟩ : Hit α) = hit := by
    rw [← hstop, ← hstart]
  rw [firstHit?, scan, Hit.alone_append hstart hstop, hspaces, scanFrom_hit hused hread',
    List.head?_cons, Nat.zero_add, hsame]

end MolangAssist.Text

namespace MolangAssist.Script

open Text

/-! ## What is read as an import -/

/-- An import as it is written, with its quoted part. -/
def IsImport (written quoted : List Char) : Prop :=
  ∃ blanks blanks' blanks'', written = "import".toList ++ (blanks ++ '(' :: (blanks' ++ '\'' ::
      (quoted ++ '\'' :: (blanks'' ++ [')'])))) ∧
    (∀ c ∈ blanks, isBlank c = true) ∧ (∀ c ∈ blanks', isBlank c = true) ∧
    (∀ c ∈ blanks'', isBlank c = true) ∧ quoted ≠ [] ∧ '\'' ∉ quoted

theorem importCall_eq_some_iff {before : Option Char} {s quoted rest : List Char} :
    importCall before s = some (quoted, rest) ↔
      ∃ written, IsImport written quoted ∧ s = written ++ rest := by
  have hopen : isBlank '(' = false := by decide
  have hquote : isBlank '\'' = false := by decide
  have hclose : isBlank ')' = false := by decide
  simp only [importCall, Option.bind_eq_bind, Option.bind_eq_some_iff, Prod.exists,
    after?_skipBlanks_eq_some_iff hopen, after?_skipBlanks_eq_some_iff hquote,
    after?_skipBlanks_eq_some_iff hclose, quoteBody?_eq_some_iff]
  simp only [after?_eq_some_iff]
  constructor
  · rintro ⟨_, rfl, _, ⟨blanks, rfl, hblanks⟩, _, ⟨blanks', rfl, hblanks'⟩, _, _,
      ⟨rfl, hne, hbody⟩, _, ⟨blanks'', rfl, hblanks''⟩, hpair⟩
    cases hpair
    exact ⟨_, ⟨blanks, blanks', blanks'', rfl, hblanks, hblanks', hblanks'', hne, hbody⟩,
      by simp⟩
  · rintro ⟨_, ⟨blanks, blanks', blanks'', rfl, hblanks, hblanks', hblanks'', hne, hbody⟩, rfl⟩
    simp only [List.append_assoc, List.cons_append, List.nil_append]
    exact ⟨_, rfl, _, ⟨blanks, rfl, hblanks⟩, _, ⟨blanks', rfl, hblanks'⟩, _, _,
      ⟨rfl, hne, hbody⟩, _, ⟨blanks'', rfl, hblanks''⟩, rfl⟩

theorem importCall_consumes : importCall.Consumes := by
  intro before s quoted rest hread
  obtain ⟨written, ⟨_, _, _, hwritten, _⟩, rfl⟩ := importCall_eq_some_iff.mp hread
  exact ⟨written, by simp [hwritten], rfl⟩

/-- An import ends in its closing parenthesis and looks at nothing before it. -/
theorem importCall_closed : importCall.Closed := by
  intro before used rest quoted hread before' rest'
  obtain ⟨written, himport, hsplit⟩ := importCall_eq_some_iff.mp hread
  rw [List.append_cancel_right hsplit]
  exact importCall_eq_some_iff.mpr ⟨written, himport, rfl⟩

/-! ## The import at a column -/

variable {line : List Char} {hit : Hit (List Char)}

/-- With the rest of the line blank, every import is found on each column inside. -/
theorem importAt?_alone (hhit : hit ∈ scan importCall line) {column : Int}
    (hstart : hit.start ≤ column) (hstop : column ≤ hit.stop) :
    importAt? (hit.alone line) column = some hit.value := by
  have hfirst := firstHit?_alone importCall_consumes importCall_closed (fun _ _ => rfl) hhit
  simp only [importAt?, hfirst, hstart, hstop, and_self, if_true]

/-- In the line as it stands, it is found there exactly if it is the first import. -/
theorem importAt?_of_hit (hhit : hit ∈ scan importCall line) {column : Int}
    (hstart : hit.start < column) (hstop : column < hit.stop) :
    importAt? line column =
      if firstHit? importCall line = some hit then some hit.value else none := by
  have hordered : (scan importCall line).Pairwise _ :=
    scanFrom_ordered importCall_consumes 0 none line
  cases hscan : scan importCall line with
  | nil => simp [hscan] at hhit
  | cons first rest =>
    have hfirst : firstHit? importCall line = some first := by
      rw [firstHit?, hscan, List.head?_cons]
    rw [hscan] at hhit hordered
    rcases List.mem_cons.mp hhit with rfl | hlater
    · have hinside : (hit.start : Int) ≤ column ∧ column ≤ hit.stop := by omega
      simp only [importAt?, hfirst, hinside, and_self, if_true]
    · -- The column stands behind the start of a later import, and so behind the first one.
      have hbefore := (List.pairwise_cons.mp hordered).1 hit hlater
      have hbounds := scanFrom_bounds importCall_consumes 0 none line first
        (List.mem_of_head? hfirst)
      have hother : some first ≠ some hit := by
        rintro ⟨⟩
        omega
      have houtside : ¬((first.start : Int) ≤ column ∧ column ≤ first.stop) := by omega
      simp only [importAt?, hfirst, hother, houtside, if_false]

end MolangAssist.Script
