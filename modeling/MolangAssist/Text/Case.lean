import MolangAssist.Text.CaseTable

/-!
# Upper and lower case

Full case mapping: a character may become several, and a capital sigma becomes a final sigma at
the end of a word.  ASCII letters are mapped without a table.
-/
namespace MolangAssist.Text

/-- Whether a code point lies in one of the ranges. -/
def inRanges (table : Array (Nat × Nat)) (n : Nat) : Bool :=
  table.any fun range => range.1 ≤ n && n ≤ range.2

/-- Whether a run maps the code point. -/
def CaseRun.covers (run : CaseRun) (n : Nat) : Bool :=
  run.first ≤ n && n ≤ run.last && (n - run.first) % run.step == 0

/-- The mapping of a character beyond ASCII by the tables, itself when they do not list it. -/
def mapByTable (runs : Array CaseRun) (expansions : Array (Nat × List Nat)) (c : Char) :
    List Char :=
  match expansions.find? (·.1 == c.toNat) with
  | some (_, codes) => codes.map Char.ofNat
  | none =>
    match runs.find? (·.covers c.toNat) with
    | some run => [Char.ofNat ((c.toNat : Int) + run.shift).toNat]
    | none => [c]

/-- The lower-case form of one character, without regard to its neighbours. -/
def lowerChar (c : Char) : List Char :=
  if c.toNat < 128 then [c.toLower] else mapByTable lowerRuns lowerExpansions c

/-- The upper-case form of one character. -/
def upperChar (c : Char) : List Char :=
  if c.toNat < 128 then [c.toUpper] else mapByTable upperRuns upperExpansions c

/-- Letters with case. -/
def isCased (c : Char) : Bool :=
  if c.toNat < 128 then c.isAlpha else inRanges casedRanges c.toNat

/-- Characters that the final-sigma rule looks through. -/
def isCaseIgnorable (c : Char) : Bool :=
  if c.toNat < 128 then c == '\'' || c == '.' || c == ':' || c == '^' || c.toNat == 0x60
  else inRanges caseIgnorableRanges c.toNat

/-- Whether the first character that case rules do not look through is a letter with case. -/
def startsCased (s : List Char) : Bool :=
  match s.dropWhile isCaseIgnorable with
  | [] => false
  | c :: _ => isCased c

/-- Lower case for the rest of a text; `inWord` tells whether a letter with case stands before
it, ignorable characters looked through. -/
def lowerFrom : (inWord : Bool) → List Char → List Char
  | _, [] => []
  | inWord, c :: cs =>
    let mapped :=
      if c = 'Σ' then [if inWord && !startsCased cs then 'ς' else 'σ'] else lowerChar c
    mapped ++ lowerFrom (if isCaseIgnorable c then inWord else isCased c) cs

/-- Lower case of a whole text. -/
def lower (s : List Char) : List Char := lowerFrom false s

/-- Upper case of a whole text. -/
def upper (s : List Char) : List Char := s.flatMap upperChar

end MolangAssist.Text
