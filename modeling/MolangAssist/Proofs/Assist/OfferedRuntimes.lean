import MolangAssist.Assist.Completion
import MolangAssist.Proofs.Script.RuntimeSources
import MolangAssist.Proofs.Text.LineOffsets

/-!
# Runtimes offered in an annotation

A line may end in an annotation whose id is missing or half typed. There the runtimes are offered,
and with any of them in the place of the id, the annotation decides the runtime of the script. One
search looks for an annotation that reaches the cursor, the other for the leftmost annotation of the
trimmed line. They find the same one, because no two slashes stand before it.
-/
namespace MolangAssist

open Text

namespace Text

/-! ## Trimmed lines -/

theorem dropWhile_append_of_head {p : Char → Bool} (lead : List Char) {c : Char} (hc : p c = false)
    (rest : List Char) : (lead ++ c :: rest).dropWhile p = lead.dropWhile p ++ c :: rest := by
  rw [List.dropWhile_append]
  split
  · next hempty => simp [List.isEmpty_iff.mp hempty, hc]
  · rfl

/-- Only what stands before the first character that is no blank is left out. -/
theorem trim_of_ends (lead middle : List Char) {first last : Char}
    (hfirst : isBlank first = false) (hlast : isBlank last = false) :
    trim (lead ++ first :: (middle ++ [last])) =
      lead.dropWhile isBlank ++ first :: (middle ++ [last]) := by
  rw [trim, trimWhile, dropWhile_append_of_head lead hfirst]
  simp [hlast]

/-- What stands above a line of a text does not depend on the line. -/
theorem LineOf.take_lines {text text' above line line' below below' : List Char} {number : Nat}
    (hline : LineOf text number above line below)
    (hline' : LineOf text' number above line' below') :
    (lines text).take number = (lines text').take number := by
  obtain ⟨earlier, hlength, _, hlines⟩ := exists_lines_above above
  rw [hline.text_eq, hline'.text_eq, hlines, hlines, ← hline.number_eq, ← hlength, List.take_left,
    List.take_left]

end Text

namespace Script

open Schema

/-! ## Annotations at the end of a line -/

theorem openAnnotation_consumes : Recogniser.Consumes openAnnotation := by
  intro before s value rest hread
  obtain ⟨opened, hopened, hrest⟩ := Option.bind_eq_some_iff.mp hread
  obtain ⟨gap, space, rfl, _⟩ := annotationOpening?_eq_some_iff.mp hopened
  split at hrest
  · cases hrest
  · cases hrest
    exact ⟨_, by simp, (List.append_nil _).symm⟩

/-- Behind its two slashes, an annotation has no third one. -/
theorem AnnotationAt.exists_cons {s id rest : List Char} (hat : AnnotationAt s id rest) :
    ∃ c tail, s = '/' :: '/' :: c :: tail ∧ c ≠ '/' := by
  obtain ⟨gap, space, rfl, hgap, _⟩ := hat
  cases gap with
  | nil => exact ⟨'@', _, rfl, by decide⟩
  | cons c gap =>
    refine ⟨c, _, rfl, ?_⟩
    rintro rfl
    exact absurd (hgap '/' List.mem_cons_self) (by decide)

/-- A line up to the id of an annotation at its end. No two slashes stand before the annotation. -/
structure AnnotatedLine where
  lead : List Char
  gap : List Char
  space : List Char
  no_slashes : ¬"//".toList <:+: lead
  gap_blank : ∀ c ∈ gap, isBlank c = true
  space_ne_nil : space ≠ []
  space_blank : ∀ c ∈ space, isBlank c = true

namespace AnnotatedLine

variable (line : AnnotatedLine)

/-- The annotation up to the id. -/
def opening : List Char := "//".toList ++ line.gap ++ "@context".toList ++ line.space

/-- The whole line with an id. -/
def withId (id : List Char) : List Char := line.lead ++ (line.opening ++ id)

theorem exists_opening : ∃ more, line.opening = '/' :: '/' :: more := ⟨_, rfl⟩

/-- Where no two slashes stand before it, no annotation starts further to the left. -/
theorem length_le_of_annotationAt {lead id earlier later other rest : List Char}
    (hlead : ¬"//".toList <:+: lead) (hsplit : lead ++ (line.opening ++ id) = earlier ++ later)
    (hat : AnnotationAt later other rest) : lead.length ≤ earlier.length := by
  by_contra hshort
  obtain ⟨cut, rfl, rfl⟩ := exists_append_of_length_le hsplit.symm (Nat.le_of_not_le hshort)
  obtain ⟨c, tail, hlater, hc⟩ := hat.exists_cons
  match cut with
  | [] => simp at hshort
  | [d] =>
    -- A slash right before the annotation would be the first of three.
    obtain ⟨more, hmore⟩ := line.exists_opening
    simp only [hmore, List.cons_append, List.nil_append, List.cons.injEq] at hlater
    exact hc hlater.2.2.1.symm
  | d :: e :: cut =>
    obtain ⟨hd, hrest⟩ := List.cons.inj hlater
    have he : e = '/' := (List.cons.inj hrest).1
    exact hlead ⟨earlier, cut, by simp [hd, he]⟩

variable {id : List Char} (hblank : ∀ c ∈ id, isBlank c = false)

include hblank

theorem typesAnnotation_withId : typesAnnotation (line.withId id) = true := by
  have hopened : annotationOpening? (line.opening ++ id) = some id :=
    annotationOpening?_eq_some_iff.mpr ⟨line.gap, line.space, rfl, line.gap_blank,
      line.space_ne_nil, line.space_blank, fun c hc => hblank c (List.mem_of_mem_head? hc)⟩
  have hany : id.any isBlank = false := by simpa using hblank
  have hread : openAnnotation (line.lead.getLast?.or none) (line.opening ++ id) =
      some ((), []) := by
    simp only [hopened, openAnnotation, Option.bind_eq_bind, Option.bind_some, hany,
      Bool.false_eq_true, if_false]
  obtain ⟨hit, hhit, _⟩ := scanFrom_covers openAnnotation_consumes 0 none (line.withId id) rfl hread
  unfold typesAnnotation
  rw [firstHit?, List.isSome_head?]
  exact List.ne_nil_of_mem hhit

variable (hid : id ≠ [])

include hid

theorem annotationAt_opening : AnnotationAt (line.opening ++ id) id [] :=
  ⟨line.gap, line.space, by rw [List.append_nil]; rfl, line.gap_blank, line.space_ne_nil,
    line.space_blank, hid, hblank, by simp⟩

theorem trim_withId :
    trim (line.withId id) = line.lead.dropWhile isBlank ++ (line.opening ++ id) := by
  obtain ⟨init, last, rfl⟩ := (List.eq_nil_or_concat' id).resolve_left hid
  obtain ⟨more, hmore⟩ := line.exists_opening
  have hends : line.opening ++ (init ++ [last]) = '/' :: ('/' :: (more ++ init) ++ [last]) := by
    simp [hmore]
  rw [withId, hends]
  exact trim_of_ends line.lead _ (by decide) (hblank last (by simp))

end AnnotatedLine

theorem AnnotatedLine.lineNames_withId (line : AnnotatedLine) {id : String} (hid : id ≠ "")
    (hblank : ∀ c ∈ id.toList, isBlank c = false) : LineNames (line.withId id.toList) id := by
  have hne : id.toList ≠ [] := by simpa using hid
  have hlead : ¬"//".toList <:+: line.lead.dropWhile isBlank := by
    intro hslashes
    exact line.no_slashes (hslashes.trans (List.dropWhile_suffix isBlank).isInfix)
  rw [LineNames, line.trim_withId hblank hne]
  refine ⟨_, _, [], rfl, line.annotationAt_opening hblank hne, ?_⟩
  intro earlier later other rest hsplit hat
  exact line.length_le_of_annotationAt hlead hsplit hat

/-- With another id, the line stands in the text as before. -/
theorem AnnotatedLine.lineOf_withId (line : AnnotatedLine) {text above below token id : List Char}
    {number : Nat} (hline : LineOf text number above (line.withId token) below)
    (hblank : ∀ c ∈ id, isBlank c = false) :
    LineOf (above ++ (line.withId id ++ below)) number above (line.withId id) below where
  text_eq := rfl
  number_eq := hline.number_eq
  above_ends := hline.above_ends
  below_starts := hline.below_starts
  no_feed := by
    have hid : '\n' ∉ id := fun hmem => absurd (hblank _ hmem) (by decide)
    have hfeed := hline.no_feed
    simp only [withId, List.mem_append, not_or] at hfeed ⊢
    exact ⟨hfeed.1, hfeed.2.1, hid⟩

/-- A line near the top decides the runtime if no line above it does. -/
theorem runtimeFromContent?_of_line {doc : Document} {text line : List Char} {number : Nat}
    {id : String} (hline : (lines text)[number]? = some line) (hnumber : number < annotatedLines)
    (hnames : LineNames line id) (hid : id ∈ doc.runtimeNames)
    (hearlier : ∀ earlier ∈ (lines text).take number, ∀ named, LineNames earlier named →
      named ∉ doc.runtimeNames) : runtimeFromContent? doc text = some id := by
  rw [runtimeFromContent?_eq_some_iff]
  have hfound : ((lines text).take annotatedLines)[number]? = some line := by
    rw [List.getElem?_take_of_lt hnumber, hline]
  obtain ⟨hinside, hget⟩ := List.getElem?_eq_some_iff.mp hfound
  have htake : ((lines text).take annotatedLines).take number = (lines text).take number := by
    rw [List.take_take, Nat.min_eq_left hnumber.le]
  refine ⟨(lines text).take number, line, ((lines text).take annotatedLines).drop (number + 1), ?_,
    hnames, hid, hearlier⟩
  rw [← htake, ← hget, List.getElem_cons_drop, List.take_append_drop]

end Script

namespace Assist

open Schema Script

theorem labels_runtimeItems (doc : Document) :
    (runtimeItems doc).map Item.label = doc.runtimeNames := by
  rw [runtimeItems, List.map_map]
  exact List.map_id _

theorem complete_withId (line : AnnotatedLine) {text above below token : List Char} {number : Nat}
    (hline : LineOf text number above (line.withId token) below)
    (htoken : ∀ c ∈ token, isBlank c = false) (doc : Document) (runtime : Option String) :
    complete (some doc) text number (line.withId token).length runtime = runtimeItems doc := by
  have hbefore : upTo ((line.withId token).length : Nat) (lineAt text number) =
      line.withId token := by
    simp [lineAt, hline.lines_getElem?, upTo]
  simp only [complete, hbefore, line.typesAnnotation_withId htoken, if_true]

/-- At the end of a line that ends in an annotation, the ids of the runtimes are offered in their
order. On one of the first ten lines, each of them that can be written as an id decides the runtime
of the script once it is put in, unless a line above names a runtime already. -/
theorem offered_runtime_takes_effect (line : AnnotatedLine) {text above below token : List Char}
    {number : Nat} (hline : LineOf text number above (line.withId token) below)
    (hnumber : number < 10) (htoken : ∀ c ∈ token, isBlank c = false) (doc : Document)
    (runtime : Option String) :
    let offered :=
      (complete (some doc) text number (line.withId token).length runtime).map Item.label
    offered = doc.runtimeNames ∧
      ∀ id ∈ offered, id ≠ "" → (∀ c ∈ id.toList, isBlank c = false) →
        (∀ earlier ∈ (lines text).take number, ∀ named, LineNames earlier named →
          named ∉ doc.runtimeNames) →
        runtimeFromContent? doc (above ++ (line.withId id.toList ++ below)) = some id := by
  intro offered
  have hoffered : offered = doc.runtimeNames := by
    simp only [offered, complete_withId line hline htoken, labels_runtimeItems]
  refine ⟨hoffered, ?_⟩
  intro id hid hne hblank hearlier
  rw [hoffered] at hid
  have hline' := line.lineOf_withId hline hblank
  rw [hline.take_lines hline'] at hearlier
  exact runtimeFromContent?_of_line hline'.lines_getElem? hnumber
    (line.lineNames_withId hne hblank) hid hearlier

/-- A line with a slash right before its annotation. -/
def slashedLine : AnnotatedLine where
  lead := "x /".toList
  gap := "  ".toList
  space := " ".toList
  no_slashes := by decide
  gap_blank := List.all_eq_true.mp (by decide)
  space_ne_nil := by decide
  space_blank := List.all_eq_true.mp (by decide)

/-- On the line above, an annotation names a runtime that is not declared. -/
def slashedText : List Char := "// @context mob\nx ///  @context ev\n1;".toList

def twoRuntimes : Document := { runtimes := [("event:FAINTED", {}), ("npc", {})] }

theorem offered_runtime_takes_effect_slashed :
    (complete (some twoRuntimes) slashedText 1 18 none).map Item.label = ["event:FAINTED", "npc"] ∧
      runtimeFromContent? twoRuntimes "// @context mob\nx ///  @context npc\n1;".toList =
        some "npc" := by
  have hline : LineOf slashedText 1 "// @context mob\n".toList (slashedLine.withId "ev".toList)
      "\n1;".toList :=
    ⟨by decide, by decide, by rintro c ⟨⟩; rfl, by rintro c ⟨⟩; rfl, by decide⟩
  have hblank : ∀ c ∈ "npc".toList, isBlank c = false := by simp; decide
  obtain ⟨hoffered, heffect⟩ :=
    offered_runtime_takes_effect slashedLine hline (by decide) (by simp; decide) twoRuntimes none
  refine ⟨hoffered, heffect "npc" (by rw [hoffered]; decide) (by decide) hblank ?_⟩
  intro earlier hearlier named hnamed
  obtain rfl : earlier = "// @context mob".toList := by
    have hlines : (lines slashedText).take 1 = ["// @context mob".toList] := by decide +kernel
    rwa [hlines, List.mem_singleton] at hearlier
  have hmob : (firstHit? annotation (trim "// @context mob".toList)).map Hit.value =
      some "mob".toList := by decide +kernel
  rw [← firstHit?_annotation_iff, hmob, Option.some.injEq, String.toList_inj] at hnamed
  rw [← hnamed]
  decide

end Assist

end MolangAssist
