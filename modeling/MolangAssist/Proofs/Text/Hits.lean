import MolangAssist.Text.Scan

/-!
# Hits of a recogniser

A scan tries a recogniser at every place and goes on behind each success. The scan is opened once
here: at each place it passes over one character, or finds a hit and goes on behind it. The order
of the hits and the leftmost of them follow by induction over these cases.
-/
namespace MolangAssist.Text

variable {α : Type} {r : Recogniser α}

/-- A recogniser that succeeds takes at least one character from the front of what it reads. -/
def Recogniser.Consumes (r : Recogniser α) : Prop :=
  ∀ before s value rest, r before s = some (value, rest) → ∃ used, used ≠ [] ∧ s = used ++ rest

/-! ## One step of a scan -/

/-- Of two beginnings of a text, the longer one goes on where the shorter one ends. -/
theorem exists_append_of_length_le {first second rest rest' : List Char}
    (hsame : first ++ rest = second ++ rest') (hle : first.length ≤ second.length) :
    ∃ middle, second = first ++ middle ∧ rest = middle ++ rest' := by
  rcases List.append_eq_append_iff.mp hsame with hmiddle | ⟨cut, hfirst, hrest⟩
  · exact hmiddle
  · rw [hfirst, List.length_append] at hle
    have hcut : cut = [] := List.length_eq_zero_iff.mp (by omega)
    exact ⟨[], by simp_all⟩

theorem getLast?_cons_or (c : Char) (run : List Char) (before : Option Char) :
    (c :: run).getLast?.or before = run.getLast?.or (some c) := by
  cases h : run.getLast? <;> simp [List.getLast?_cons, h]

theorem getLast?_append_or {run : List Char} (hrun : run ≠ []) (further : List Char)
    (before : Option Char) :
    (run ++ further).getLast?.or before = further.getLast?.or run.getLast? := by
  obtain ⟨c, hlast⟩ : ∃ c, run.getLast? = some c :=
    ⟨_, List.getLast?_eq_some_getLast hrun⟩
  rw [List.getLast?_append, hlast]
  cases further.getLast? <;> rfl

theorem scanFrom_skip (run rest : List Char) (offset : Nat) (before : Option Char) :
    scanFrom r offset run.length before (run ++ rest) =
      scanFrom r (offset + run.length) 0 (run.getLast?.or before) rest := by
  induction run generalizing offset before with
  | nil => simp
  | cons c run ih =>
    rw [List.length_cons, List.cons_append, scanFrom, ih, getLast?_cons_or]
    congr 1
    omega

theorem scanFrom_miss {before : Option Char} {c : Char} {cs : List Char}
    (hmiss : r before (c :: cs) = none) (offset : Nat) :
    scanFrom r offset 0 before (c :: cs) = scanFrom r (offset + 1) 0 (some c) cs := by
  rw [scanFrom, hmiss]

theorem scanFrom_hit {before : Option Char} {used rest : List Char} {value : α}
    (hused : used ≠ []) (hread : r before (used ++ rest) = some (value, rest)) (offset : Nat) :
    scanFrom r offset 0 before (used ++ rest) =
      ⟨offset, offset + used.length, value⟩ ::
        scanFrom r (offset + used.length) 0 used.getLast? rest := by
  obtain ⟨c, run, rfl⟩ := List.exists_cons_of_ne_nil hused
  have hlength : (run ++ rest).length + 1 - rest.length = run.length + 1 := by
    simp only [List.length_append]
    omega
  have hbefore : run.getLast?.or (some c) = (c :: run).getLast? := by
    rw [← getLast?_cons_or c run none, Option.or_none]
  rw [List.cons_append] at hread ⊢
  rw [scanFrom, hread]
  simp only [hlength, Nat.add_sub_cancel, scanFrom_skip, hbefore, List.length_cons]
  congr 2
  omega

/-- Induction along a scan: the text is at its end, the recogniser misses at its first character,
or it takes some characters away. -/
theorem Recogniser.Consumes.induction (hr : r.Consumes)
    {motive : Nat → Option Char → List Char → Prop}
    (nil : ∀ offset before, motive offset before [])
    (miss : ∀ offset before c cs, r before (c :: cs) = none →
      motive (offset + 1) (some c) cs → motive offset before (c :: cs))
    (hit : ∀ offset before used rest value, used ≠ [] →
      r before (used ++ rest) = some (value, rest) →
      motive (offset + used.length) used.getLast? rest → motive offset before (used ++ rest))
    (offset : Nat) (before : Option Char) (s : List Char) : motive offset before s := by
  induction hn : s.length using Nat.strongRecOn generalizing offset before s with
  | _ n ih =>
    cases s with
    | nil => exact nil offset before
    | cons c cs =>
      simp only [List.length_cons] at hn
      cases hread : r before (c :: cs) with
      | none => exact miss offset before c cs hread (ih cs.length (by omega) _ _ cs rfl)
      | some found =>
        obtain ⟨value, rest⟩ := found
        obtain ⟨used, hused, hsplit⟩ := hr before (c :: cs) value rest hread
        have hlength := congrArg List.length hsplit
        have hpos : 0 < used.length := List.length_pos_iff.mpr hused
        simp only [List.length_append, List.length_cons] at hlength
        rw [hsplit] at hread ⊢
        exact hit offset before used rest value hused hread
          (ih rest.length (by omega) _ _ rest rfl)

/-! ## The order of hits -/

theorem scanFrom_bounds (hr : r.Consumes) (offset : Nat) (before : Option Char) (s : List Char) :
    ∀ hit ∈ scanFrom r offset 0 before s,
      offset ≤ hit.start ∧ hit.start < hit.stop ∧ hit.stop ≤ offset + s.length := by
  induction offset, before, s using hr.induction with
  | nil offset before => simp [scanFrom]
  | miss offset before c cs hread ih =>
    rw [scanFrom_miss hread]
    intro hit hhit
    have hbounds := ih hit hhit
    simp only [List.length_cons]
    omega
  | hit offset before used rest value hused hread ih =>
    have hpos : 0 < used.length := List.length_pos_iff.mpr hused
    rw [scanFrom_hit hused hread]
    intro hit hhit
    simp only [List.length_append]
    rcases List.mem_cons.mp hhit with rfl | hhit
    · simp only
      omega
    · have hbounds := ih hit hhit
      omega

theorem scanFrom_ordered (hr : r.Consumes) (offset : Nat) (before : Option Char)
    (s : List Char) :
    (scanFrom r offset 0 before s).Pairwise fun first second => first.stop ≤ second.start := by
  induction offset, before, s using hr.induction with
  | nil offset before => exact List.Pairwise.nil
  | miss offset before c cs hread ih => rwa [scanFrom_miss hread]
  | hit offset before used rest value hused hread ih =>
    rw [scanFrom_hit hused hread]
    refine List.Pairwise.cons ?_ ih
    intro hit hhit
    exact (scanFrom_bounds hr _ _ rest hit hhit).1

/-- Each hit starts behind the one before. -/
theorem scan_starts_increase (hr : r.Consumes) (text : List Char) :
    ((scan r text).map Hit.start).Pairwise (· < ·) := by
  rw [List.pairwise_map]
  refine (scanFrom_ordered hr 0 none text).imp_of_mem ?_
  intro first second hfirst _ hordered
  have hbounds := scanFrom_bounds hr 0 none text first hfirst
  omega

/-- Right behind a hit, there is no other. -/
def Recogniser.Parted (r : Recogniser α) : Prop :=
  ∀ before used rest value, used ≠ [] → r before (used ++ rest) = some (value, rest) →
    ∀ s, r used.getLast? s = none

theorem scanFrom_start_of_refused (hr : r.Consumes) {before : Option Char}
    (hrefused : ∀ s, r before s = none) (offset : Nat) (s : List Char) :
    ∀ hit ∈ scanFrom r offset 0 before s, offset < hit.start := by
  cases s with
  | nil => simp [scanFrom]
  | cons c cs =>
    rw [scanFrom_miss (hrefused _)]
    intro hit hhit
    have hbounds := scanFrom_bounds hr _ _ cs hit hhit
    omega

/-- Between two hits of a recogniser that parts them there is at least one character. -/
theorem scanFrom_parted (hr : r.Consumes) (hparted : r.Parted) (offset : Nat)
    (before : Option Char) (s : List Char) :
    (scanFrom r offset 0 before s).Pairwise fun first second => first.stop < second.start := by
  induction offset, before, s using hr.induction with
  | nil offset before => exact List.Pairwise.nil
  | miss offset before c cs hread ih => rwa [scanFrom_miss hread]
  | hit offset before used rest value hused hread ih =>
    rw [scanFrom_hit hused hread]
    refine List.Pairwise.cons ?_ ih
    exact scanFrom_start_of_refused hr (hparted before used rest value hused hread) _ rest

theorem scanFrom_of_refused {s : List Char}
    (hrefused : ∀ before tail, tail <:+ s → r before tail = none) (offset : Nat)
    (before : Option Char) : scanFrom r offset 0 before s = [] := by
  induction s generalizing offset before with
  | nil => rfl
  | cons c cs ih =>
    rw [scanFrom_miss (hrefused before (c :: cs) List.suffix_rfl)]
    apply ih
    intro before tail htail
    exact hrefused before tail (htail.trans (List.suffix_cons c cs))

/-! ## The leftmost hit -/

theorem head?_scanFrom (hr : r.Consumes) (offset : Nat) (before : Option Char) (s : List Char)
    (value : α) :
    (scanFrom r offset 0 before s).head?.map Hit.value = some value ↔
      ∃ lead tail rest, s = lead ++ tail ∧ r (lead.getLast?.or before) tail = some (value, rest) ∧
        ∀ earlier later, s = earlier ++ later → earlier.length < lead.length →
          r (earlier.getLast?.or before) later = none := by
  induction offset, before, s using hr.induction with
  | nil offset before =>
    simp only [scanFrom, List.head?_nil, Option.map_none, reduceCtorEq, false_iff]
    rintro ⟨lead, tail, rest, hsplit, hread, _⟩
    obtain ⟨used, hused, rfl⟩ := hr _ tail value rest hread
    simp_all
  | miss offset before c cs hread ih =>
    rw [scanFrom_miss hread]
    refine Iff.trans ih ?_
    constructor
    · rintro ⟨lead, tail, rest, rfl, hfound, hfirst⟩
      refine ⟨c :: lead, tail, rest, rfl, by rwa [getLast?_cons_or], ?_⟩
      intro earlier later hsplit hshort
      cases earlier with
      | nil =>
        rw [List.nil_append] at hsplit
        rw [← hsplit]
        exact hread
      | cons d earlier =>
        simp only [List.cons_append, List.cons.injEq] at hsplit
        obtain ⟨rfl, hsplit⟩ := hsplit
        rw [getLast?_cons_or]
        exact hfirst earlier later hsplit (by simpa using hshort)
    · rintro ⟨lead, tail, rest, hsplit, hfound, hfirst⟩
      cases lead with
      | nil =>
        rw [List.nil_append] at hsplit
        rw [← hsplit] at hfound
        simp only [List.getLast?_nil, Option.none_or, hread, reduceCtorEq] at hfound
      | cons d lead =>
        simp only [List.cons_append, List.cons.injEq] at hsplit
        obtain ⟨rfl, rfl⟩ := hsplit
        rw [getLast?_cons_or] at hfound
        refine ⟨lead, tail, rest, rfl, hfound, ?_⟩
        intro earlier later hsplit hshort
        have hmiss := hfirst (c :: earlier) later (by rw [hsplit, List.cons_append])
          (by simpa using hshort)
        rwa [getLast?_cons_or] at hmiss
  | hit offset before used rest found hused hread _ =>
    rw [scanFrom_hit hused hread]
    simp only [List.head?_cons, Option.map_some, Option.some.injEq]
    constructor
    · rintro rfl
      exact ⟨[], used ++ rest, rest, rfl, by simpa using hread, by simp⟩
    · rintro ⟨lead, tail, rest', hsplit, hfound, hfirst⟩
      -- The recogniser succeeds at the very front, so nothing stands before the leftmost hit.
      cases lead with
      | nil =>
        rw [List.nil_append] at hsplit
        rw [← hsplit] at hfound
        simp_all
      | cons d lead =>
        have hmiss := hfirst [] (used ++ rest) rfl (Nat.zero_lt_succ _)
        simp [hread] at hmiss

/-! ## Hits and successes -/

/-- Every hit is a success at its place. -/
theorem scanFrom_sound (hr : r.Consumes) (offset : Nat) (before : Option Char) (s : List Char) :
    ∀ hit ∈ scanFrom r offset 0 before s, ∃ lead used rest, s = lead ++ (used ++ rest) ∧
      r (lead.getLast?.or before) (used ++ rest) = some (hit.value, rest) ∧
      hit.start = offset + lead.length ∧ hit.stop = offset + lead.length + used.length := by
  induction offset, before, s using hr.induction with
  | nil offset before => simp [scanFrom]
  | miss offset before c cs hread ih =>
    rw [scanFrom_miss hread]
    intro hit hhit
    obtain ⟨lead, used, rest, rfl, hfound, hstart, hstop⟩ := ih hit hhit
    refine ⟨c :: lead, used, rest, rfl, by rwa [getLast?_cons_or], ?_, ?_⟩
    · rw [hstart, List.length_cons]
      omega
    · rw [hstop, List.length_cons]
      omega
  | hit offset before used rest value hused hread ih =>
    rw [scanFrom_hit hused hread]
    intro hit hhit
    rcases List.mem_cons.mp hhit with rfl | hhit
    · exact ⟨[], used, rest, rfl, by simpa using hread, rfl, rfl⟩
    · obtain ⟨lead, used', rest', rfl, hfound, hstart, hstop⟩ := ih hit hhit
      have hbefore := getLast?_append_or hused lead before
      refine ⟨used ++ lead, used', rest', by simp, by rwa [hbefore], ?_, ?_⟩
      · rw [hstart, List.length_append]
        omega
      · rw [hstop, List.length_append]
        omega

/-- Every success starts in a hit. If it starts inside one, the scan passes over it. -/
theorem scanFrom_covers (hr : r.Consumes) (offset : Nat) (before : Option Char) (s : List Char)
    {lead tail rest : List Char} {value : α} (hsplit : s = lead ++ tail)
    (hread : r (lead.getLast?.or before) tail = some (value, rest)) :
    ∃ hit ∈ scanFrom r offset 0 before s, hit.start ≤ offset + lead.length ∧
      offset + lead.length < hit.stop ∧
      (hit.start = offset + lead.length → hit.value = value) := by
  induction offset, before, s using hr.induction generalizing lead with
  | nil offset before =>
    obtain ⟨used, hused, rfl⟩ := hr _ tail value rest hread
    simp_all
  | miss offset before c cs hmiss ih =>
    rw [scanFrom_miss hmiss]
    cases lead with
    | nil =>
      rw [List.nil_append] at hsplit
      rw [← hsplit] at hread
      simp [hmiss] at hread
    | cons d lead =>
      obtain ⟨rfl, rfl⟩ := List.cons.inj hsplit
      rw [getLast?_cons_or] at hread
      obtain ⟨hit, hhit, hfrom, hto, hvalue⟩ := ih rfl hread
      refine ⟨hit, hhit, ?_⟩
      rw [List.length_cons, Nat.add_comm lead.length, ← Nat.add_assoc]
      exact ⟨hfrom, hto, hvalue⟩
  | hit offset before used rest' first hused hhit ih =>
    rw [scanFrom_hit hused hhit]
    by_cases hinside : lead.length < used.length
    · refine ⟨_, List.mem_cons_self, Nat.le_add_right _ _, Nat.add_lt_add_left hinside offset, ?_⟩
      intro hstart
      -- A success at the start of the hit is the hit.
      have hlead : lead = [] := List.length_eq_zero_iff.mp (by simpa using hstart)
      rw [hlead, List.nil_append] at hsplit
      rw [hlead, ← hsplit] at hread
      simp_all
    · obtain ⟨further, rfl, rfl⟩ := exists_append_of_length_le hsplit (Nat.le_of_not_lt hinside)
      rw [getLast?_append_or hused] at hread
      obtain ⟨hit, hmem, hfrom, hto, hvalue⟩ := ih rfl hread
      refine ⟨hit, List.mem_cons_of_mem _ hmem, ?_⟩
      rw [List.length_append, ← Nat.add_assoc]
      exact ⟨hfrom, hto, hvalue⟩

/-- Two hits are the same or lie apart. -/
theorem scan_apart (hr : r.Consumes) {text : List Char} {hit other : Hit α}
    (hhit : hit ∈ scan r text) (hother : other ∈ scan r text) :
    hit = other ∨ hit.stop ≤ other.start ∨ other.stop ≤ hit.start := by
  have hordered : (scan r text).Pairwise _ := scanFrom_ordered hr 0 none text
  generalize scan r text = hits at hhit hother hordered
  induction hits with
  | nil => cases hhit
  | cons first rest ih =>
    obtain ⟨hfirst, hrest⟩ := List.pairwise_cons.mp hordered
    rcases List.mem_cons.mp hhit with rfl | hin
    · rcases List.mem_cons.mp hother with rfl | hin'
      · exact .inl rfl
      · exact .inr (.inl (hfirst other hin'))
    · rcases List.mem_cons.mp hother with rfl | hin'
      · exact .inr (.inr (hfirst hit hin))
      · exact ih hin hin' hrest

end MolangAssist.Text
