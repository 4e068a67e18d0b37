import MolangAssist.Proofs.Text.Hits
import MolangAssist.Proofs.Text.Readers
import MolangAssist.Script.Inference

/-!
# Where the runtime of a script comes from

An annotation, a folder below a marker folder and the mention of a runtime in a path are described
here by how lines and paths are put together. Each of the three searches finds the first
description that fits and names a declared runtime.
-/
namespace MolangAssist.Script

open Text Schema

/-! ## First in a list, first of several lists -/

/-- The first of some items to name an id that is declared. -/
def FirstNaming {β : Type} (items : List β) (Names : β → String → Prop) (declared : List String)
    (id : String) : Prop :=
  ∃ earlier item later, items = earlier ++ item :: later ∧ Names item id ∧ id ∈ declared ∧
    ∀ other ∈ earlier, ∀ named, Names other named → named ∉ declared

/-- The first of some sources that has an id at all decides. -/
def FirstAvailable : List (String → Prop) → String → Prop
  | [], _ => False
  | source :: sources, id => source id ∨ (∀ other, ¬source other) ∧ FirstAvailable sources id

theorem findSome?_eq_some_iff_firstNaming {β : Type} {Names : β → String → Prop}
    {declared : List String} {f : β → Option String}
    (hf : ∀ item id, f item = some id ↔ Names item id ∧ id ∈ declared) (items : List β)
    (id : String) : items.findSome? f = some id ↔ FirstNaming items Names declared id := by
  have hnone : ∀ item, f item = none ↔ ∀ named, Names item named → named ∉ declared := by
    intro item
    simp only [Option.eq_none_iff_forall_ne_some, ne_eq, hf, not_and]
  simp only [List.findSome?_eq_some_iff, FirstNaming, hf, hnone, and_assoc]

theorem find?_filterMap_eq_findSome? {β : Type} (f : β → Option String) (p : String → Bool)
    (items : List β) :
    (items.filterMap f).find? p = items.findSome? fun item => (f item).filter p := by
  induction items with
  | nil => rfl
  | cons item rest ih =>
    cases hitem : f item with
    | none => simp [hitem, ih]
    | some id => by_cases hp : p id = true <;> simp [hitem, hp, ih, Option.filter]

theorem firstAvailable_cons {source : String → Prop} {sources : List (String → Prop)}
    {first second : Option String} (hfirst : ∀ id, first = some id ↔ source id)
    (hsecond : ∀ id, second = some id ↔ FirstAvailable sources id) (id : String) :
    first.or second = some id ↔ FirstAvailable (source :: sources) id := by
  rw [FirstAvailable, ← hfirst, ← hsecond]
  cases first with
  | none => simp [← hfirst]
  | some found => simp [← hfirst]

/-! ## Annotations -/

/-- An annotation at the front of a text: two slashes, the word and an id, which ends with the text
or at a blank. Blanks may stand before the word and have to stand behind it. -/
def AnnotationAt (s id rest : List Char) : Prop :=
  ∃ gap space, s = "//".toList ++ gap ++ "@context".toList ++ space ++ id ++ rest ∧
    (∀ c ∈ gap, isBlank c = true) ∧ space ≠ [] ∧ (∀ c ∈ space, isBlank c = true) ∧
    id ≠ [] ∧ (∀ c ∈ id, isBlank c = false) ∧ ∀ c ∈ rest.head?, isBlank c = true

/-- The leftmost annotation of a line, blanks around the line left out, names an id. -/
def LineNames (line : List Char) (id : String) : Prop :=
  ∃ lead tail rest, trim line = lead ++ tail ∧ AnnotationAt tail id.toList rest ∧
    ∀ earlier later other rest', trim line = earlier ++ later → AnnotationAt later other rest' →
      lead.length ≤ earlier.length

theorem annotationOpening?_eq_some_iff {s rest : List Char} :
    annotationOpening? s = some rest ↔
      ∃ gap space, s = "//".toList ++ gap ++ "@context".toList ++ space ++ rest ∧
        (∀ c ∈ gap, isBlank c = true) ∧ space ≠ [] ∧ (∀ c ∈ space, isBlank c = true) ∧
        ∀ c ∈ rest.head?, isBlank c = false := by
  have hslashes : "//".toList = ['/', '/'] := rfl
  have hword : "@context".toList = ['@', 'c', 'o', 'n', 't', 'e', 'x', 't'] := rfl
  simp only [annotationOpening?, Option.bind_eq_bind, Option.bind_eq_some_iff,
    after?_eq_some_iff, skipSomeBlanks?_eq_some_iff, skipBlanks, dropWhile_eq_iff, hslashes, hword]
  constructor
  · rintro ⟨_, rfl, _, ⟨gap, rfl, hgap, _⟩, space, rfl, hspace, hblank, hrest⟩
    exact ⟨gap, space, by simp, hgap, hspace, hblank, hrest⟩
  · rintro ⟨gap, space, rfl, hgap, hspace, hblank, hrest⟩
    refine ⟨_, by simp only [List.append_assoc], _, ⟨gap, rfl, hgap, ?_⟩, space, rfl, hspace,
      hblank, hrest⟩
    rintro c ⟨⟩
    decide

theorem annotation_eq_some_iff {before : Option Char} {s id rest : List Char} :
    annotation before s = some (id, rest) ↔ AnnotationAt s id rest := by
  have hread : annotation before s = some (id, rest) ↔
      ∃ opened, annotationOpening? s = some opened ∧ id ≠ [] ∧
        opened.takeWhile (fun c => !isBlank c) = id ∧
        opened.dropWhile (fun c => !isBlank c) = rest := by
    unfold annotation
    simp only [Option.bind_eq_bind, Option.bind_eq_some_iff]
    refine exists_congr fun opened => and_congr_right fun _ => ?_
    cases opened.takeWhile (fun c => !isBlank c) with
    | nil => simp +contextual [eq_comm]
    | cons c cs =>
      simp only [Option.some.injEq, Prod.mk.injEq]
      constructor
      · rintro ⟨rfl, hrest⟩
        exact ⟨List.cons_ne_nil c cs, rfl, hrest⟩
      · rintro ⟨_, hid, hrest⟩
        exact ⟨hid, hrest⟩
  rw [hread, AnnotationAt]
  simp only [annotationOpening?_eq_some_iff, span_eq_iff]
  constructor
  · rintro ⟨_, ⟨gap, space, rfl, hgap, hspace, hblank, _⟩, hid, rfl, hinside, hend⟩
    exact ⟨gap, space, by simp only [List.append_assoc], hgap, hspace, hblank, hid,
      by simpa using hinside, by simpa using hend⟩
  · rintro ⟨gap, space, rfl, hgap, hspace, hblank, hid, hinside, hend⟩
    refine ⟨id ++ rest, ⟨gap, space, by simp only [List.append_assoc], hgap, hspace, hblank, ?_⟩,
      hid, rfl, by simpa using hinside, by simpa using hend⟩
    obtain ⟨c, cs, rfl⟩ := List.exists_cons_of_ne_nil hid
    rintro d ⟨⟩
    exact hinside c List.mem_cons_self

theorem annotation_consumes : Recogniser.Consumes annotation := by
  intro before s id rest hread
  obtain ⟨gap, space, hsplit, _⟩ := annotation_eq_some_iff.mp hread
  exact ⟨"//".toList ++ gap ++ "@context".toList ++ space ++ id, by simp, hsplit⟩

theorem firstHit?_annotation_iff (line : List Char) (id : String) :
    (firstHit? annotation (trim line)).map Hit.value = some id.toList ↔ LineNames line id := by
  have hnone : ∀ (before : Option Char) (s : List Char),
      annotation before s = none ↔ ∀ other rest, ¬AnnotationAt s other rest := by
    intro before s
    simp only [Option.eq_none_iff_forall_ne_some, Prod.forall, ne_eq, annotation_eq_some_iff]
  rw [firstHit?, scan, head?_scanFrom annotation_consumes, LineNames]
  simp only [annotation_eq_some_iff, hnone]
  refine exists_congr fun lead => exists_congr fun tail => exists_congr fun rest =>
    and_congr_right fun _ => and_congr_right fun _ => ?_
  constructor
  · intro hfirst earlier later other rest' hsplit hat
    by_contra hshort
    exact hfirst earlier later hsplit (by omega) other rest' hat
  · intro hfirst earlier later hsplit hshort other rest' hat
    have hlead := hfirst earlier later other rest' hsplit hat
    omega

theorem runtimeFromContent?_eq_some_iff (doc : Document) (text : List Char) (id : String) :
    runtimeFromContent? doc text = some id ↔
      FirstNaming ((lines text).take annotatedLines) LineNames doc.runtimeNames id := by
  rw [runtimeFromContent?, annotations, List.map_filterMap, find?_filterMap_eq_findSome?]
  apply findSome?_eq_some_iff_firstNaming
  intro line id
  have hid : ((firstHit? annotation (trim line)).map Hit.value).map String.ofList = some id ↔
      (firstHit? annotation (trim line)).map Hit.value = some id.toList := by
    cases (firstHit? annotation (trim line)).map Hit.value <;>
      simp [← String.toList_inj]
  rw [Option.filter_eq_some_iff, hid, firstHit?_annotation_iff, List.contains_iff_mem]

/-! ## Paths -/

/-- The first occurrence of a marker folder in a path is followed by another folder, which names
an event. -/
def FolderNames (path : List Char) (folder id : String) : Prop :=
  ∃ lead segment rest, path = lead ++ (marker folder ++ (segment ++ '/' :: rest)) ∧
    segment ≠ [] ∧ '/' ∉ segment ∧ id = "event:" ++ String.ofList (upper segment) ∧
    ∀ earlier later, path = earlier ++ (marker folder ++ later) → lead.length ≤ earlier.length

/-- A path mentions a runtime, whose id it stands for. -/
def MentionNames (path : List Char) (runtime id : String) : Prop :=
  id = runtime ∧ fuzzyKey runtime ≠ [] ∧ fuzzyKey runtime <:+: path

theorem eventBelow?_eq_some_iff (path : List Char) (folder id : String) :
    eventBelow? path folder = some id ↔ FolderNames path folder id := by
  have hread : eventBelow? path folder = some id ↔
      ∃ behind, afterFirst? (marker folder) path = some behind ∧ '/' ∈ behind ∧
        behind.takeWhile (· != '/') ≠ [] ∧
        id = "event:" ++ String.ofList (upper (behind.takeWhile (· != '/'))) := by
    rw [eventBelow?]
    cases afterFirst? (marker folder) path with
    | none => simp
    | some behind =>
      simp only [Option.some.injEq, exists_eq_left', String.ofList_append, String.ofList_toList]
      by_cases hslash : '/' ∈ behind <;> by_cases hsegment : behind.takeWhile (· != '/') = [] <;>
        simp [hslash, hsegment, @eq_comm _ id]
  rw [hread, FolderNames]
  simp only [afterFirst?_eq_some_iff]
  constructor
  · rintro ⟨behind, ⟨lead, rfl, hfirst⟩, hslash, hsegment, rfl⟩
    obtain ⟨rest, hsplit, hnot⟩ := takeWhile_ne_iff.mp ⟨rfl, hslash⟩
    exact ⟨lead, _, rest, by rw [← hsplit], hsegment, hnot, rfl, hfirst⟩
  · rintro ⟨lead, segment, rest, rfl, hsegment, hnot, rfl, hfirst⟩
    obtain ⟨htake, hslash⟩ := takeWhile_ne_iff.mpr ⟨rest, rfl, hnot⟩
    exact ⟨segment ++ '/' :: rest, ⟨lead, rfl, hfirst⟩, hslash, by rwa [htake], by rw [htake]⟩

theorem folders_find?_eq_some_iff (doc : Document) (path : List Char) (folders : List String)
    (id : String) :
    (folders.filterMap (eventBelow? path)).find? (doc.runtimeNames.contains ·) = some id ↔
      FirstNaming folders (FolderNames path) doc.runtimeNames id := by
  rw [find?_filterMap_eq_findSome?]
  apply findSome?_eq_some_iff_firstNaming
  intro folder id
  rw [Option.filter_eq_some_iff, eventBelow?_eq_some_iff, List.contains_iff_mem]

theorem mentions_find?_eq_some_iff (doc : Document) (path : List Char) (id : String) :
    (doc.runtimeNames.find? fun name =>
        !(fuzzyKey name).isEmpty && occursIn (fuzzyKey name) path) = some id ↔
      FirstNaming doc.runtimeNames (MentionNames path) doc.runtimeNames id := by
  have hmention : ∀ name, (!(fuzzyKey name).isEmpty && occursIn (fuzzyKey name) path) = true ↔
      fuzzyKey name ≠ [] ∧ fuzzyKey name <:+: path := by
    simp [occursIn_iff]
  rw [List.find?_eq_some_iff_append, FirstNaming, hmention]
  constructor
  · rintro ⟨⟨hkey, hoccurs⟩, earlier, later, hnames, hearlier⟩
    refine ⟨earlier, id, later, hnames, ⟨rfl, hkey, hoccurs⟩, by simp [hnames], ?_⟩
    rintro other hother named ⟨rfl, hmentioned⟩
    have hpassed := hearlier named hother
    rw [(hmention named).mpr hmentioned] at hpassed
    cases hpassed
  · rintro ⟨earlier, _, later, hnames, ⟨rfl, hkey, hoccurs⟩, _, hearlier⟩
    refine ⟨⟨hkey, hoccurs⟩, earlier, later, hnames, ?_⟩
    intro other hother
    have hdeclared : other ∈ doc.runtimeNames := by simp [hnames, hother]
    rw [Bool.not_eq_true', Bool.eq_false_iff, Ne, hmention]
    intro hmentioned
    exact hearlier other hother other ⟨rfl, hmentioned⟩ hdeclared

/-! ## Ids that are named -/

theorem LineNames.ne_empty {line : List Char} {id : String} (hline : LineNames line id) :
    id ≠ "" := by
  obtain ⟨_, _, _, _, ⟨_, _, _, _, _, _, hid, _⟩, _⟩ := hline
  rintro rfl
  exact hid rfl

theorem FolderNames.ne_empty {path : List Char} {folder id : String}
    (hfolder : FolderNames path folder id) : id ≠ "" := by
  obtain ⟨_, _, _, _, _, _, rfl, _⟩ := hfolder
  simp

theorem MentionNames.ne_empty {path : List Char} {runtime id : String}
    (hmention : MentionNames path runtime id) : id ≠ "" := by
  obtain ⟨rfl, hkey, _⟩ := hmention
  rintro rfl
  exact hkey rfl

end MolangAssist.Script
