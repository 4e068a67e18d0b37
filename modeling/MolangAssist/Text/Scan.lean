import MolangAssist.Text.Characters

/-!
# Scanning a text from left to right

A recogniser looks at one place of a text.  `scan` tries it at every place from left to right
and goes on behind each success, so the hits never overlap.  All recognisers of the library are
built from the few readers at the end of this module.
-/
namespace MolangAssist.Text

/-- A place where a recogniser succeeded, as offsets into the scanned text. -/
structure Hit (α : Type) where
  start : Nat
  stop : Nat
  value : α
deriving Repr, DecidableEq

/-- A recogniser sees the character before a place and the text from there on.  It answers
with what it read and the text behind it. -/
abbrev Recogniser (α : Type) := Option Char → List Char → Option (α × List Char)

/-- The hits at or behind `offset`, the first `skip` characters being part of an earlier hit. -/
def scanFrom {α : Type} (r : Recogniser α) :
    (offset skip : Nat) → (before : Option Char) → List Char → List (Hit α)
  | _, _, _, [] => []
  | offset, skip + 1, _, c :: cs => scanFrom r (offset + 1) skip (some c) cs
  | offset, 0, before, c :: cs =>
    match r before (c :: cs) with
    | none => scanFrom r (offset + 1) 0 (some c) cs
    | some (value, rest) =>
      let used := cs.length + 1 - rest.length
      ⟨offset, offset + used, value⟩ :: scanFrom r (offset + 1) (used - 1) (some c) cs

/-- All hits of a recogniser, leftmost first and without overlap. -/
def scan {α : Type} (r : Recogniser α) (text : List Char) : List (Hit α) :=
  scanFrom r 0 0 none text

/-- The leftmost hit. -/
def firstHit? {α : Type} (r : Recogniser α) (text : List Char) : Option (Hit α) :=
  (scan r text).head?

/-- Each value once, where it first stands. -/
def firstOccurrences {α : Type} [DecidableEq α] : List α → List α
  | [] => []
  | a :: as => a :: (firstOccurrences as).filter (· ≠ a)

theorem mem_firstOccurrences {α : Type} [DecidableEq α] {items : List α} {a : α} :
    a ∈ firstOccurrences items ↔ a ∈ items := by
  induction items with
  | nil => simp [firstOccurrences]
  | cons b rest ih =>
    by_cases h : a = b
    · simp [firstOccurrences, h]
    · simp [firstOccurrences, h, ih]

theorem nodup_firstOccurrences {α : Type} [DecidableEq α] (items : List α) :
    (firstOccurrences items).Nodup := by
  induction items with
  | nil => exact List.nodup_nil
  | cons b rest ih =>
    refine List.nodup_cons.2 ⟨by simp, ?_⟩
    exact List.Sublist.nodup List.filter_sublist ih

/-! ## Readers -/

/-- The text behind a leading `word`. -/
def after? : (word text : List Char) → Option (List Char)
  | [], text => some text
  | _ :: _, [] => none
  | w :: ws, c :: cs => if w = c then after? ws cs else none

theorem after?_eq_some_iff {word text rest : List Char} :
    after? word text = some rest ↔ text = word ++ rest := by
  induction word generalizing text with
  | nil => simp [after?]
  | cons w ws ih =>
    cases text with
    | nil => simp [after?]
    | cons c cs =>
      by_cases h : w = c
      · simp [after?, h, ih]
      · simp [after?, h, Ne.symm h]

/-- The text behind the first occurrence of `word`. -/
def afterFirst? (word : List Char) : List Char → Option (List Char)
  | [] => after? word []
  | c :: cs =>
    match after? word (c :: cs) with
    | some rest => some rest
    | none => afterFirst? word cs

/-- Whether `word` stands somewhere in the text. -/
def occursIn (word text : List Char) : Bool := (afterFirst? word text).isSome

/-- The text behind leading blanks. -/
def skipBlanks (s : List Char) : List Char := s.dropWhile isBlank

/-- The text behind leading blanks, of which there must be one. -/
def skipSomeBlanks? : List Char → Option (List Char)
  | [] => none
  | c :: cs => if isBlank c then some (skipBlanks cs) else none

/-- The longest name at the start of the text. -/
def name? : List Char → Option (List Char × List Char)
  | [] => none
  | c :: cs =>
    if isNameStart c then some (c :: cs.takeWhile isWordChar, cs.dropWhile isWordChar) else none

/-- A non-empty text up to the next single quote, which is taken too. -/
def quoteBody? (s : List Char) : Option (List Char × List Char) :=
  match s.takeWhile (· != '\''), s.dropWhile (· != '\'') with
  | [], _ => none
  | _ :: _, [] => none
  | body, _ :: rest => some (body, rest)

/-- Cuts a text at every occurrence of `separator`; there is always one piece. -/
def splitAt (separator : Char) : List Char → List (List Char)
  | [] => [[]]
  | c :: cs =>
    if c = separator then [] :: splitAt separator cs
    else
      match splitAt separator cs with
      | [] => [[c]]
      | piece :: pieces => (c :: piece) :: pieces

theorem splitAt_ne_nil (separator : Char) (s : List Char) : splitAt separator s ≠ [] := by
  induction s with
  | nil => simp [splitAt]
  | cons c cs ih =>
    rw [splitAt]
    split
    · simp
    · split <;> simp

/-- Nothing is lost by cutting. -/
theorem intercalate_splitAt (separator : Char) (s : List Char) :
    [separator].intercalate (splitAt separator s) = s := by
  induction s with
  | nil => rfl
  | cons c cs ih =>
    rw [splitAt]
    split
    · next h =>
      cases hs : splitAt separator cs with
      | nil => exact absurd hs (splitAt_ne_nil separator cs)
      | cons piece pieces =>
        rw [hs] at ih
        simp [List.intercalate, List.intersperse] at ih ⊢
        exact ⟨h.symm, ih⟩
    · cases hs : splitAt separator cs with
      | nil => exact absurd hs (splitAt_ne_nil separator cs)
      | cons piece pieces =>
        rw [hs] at ih
        cases pieces with
        | nil => simpa [List.intercalate] using ih
        | cons next rest => simpa [List.intercalate, List.intersperse] using ih

end MolangAssist.Text
