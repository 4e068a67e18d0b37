import MolangAssist.Json.Value
import MolangAssist.Text.Numeral

/-!
# JSON tokens

Reads one token at the start of a text.  Beside the standard literals the names `NaN`,
`Infinity` and `-Infinity` are numbers.  Texts may not hold raw control characters.
-/
namespace MolangAssist.Json

/-- Why a text is not read as a JSON value. -/
inductive ReadError where
  /-- The text breaks the grammar. -/
  | malformed
  /-- Lists and objects are nested too deeply. -/
  | tooDeep
  /-- An integer has too many digits. -/
  | integerTooLong
deriving Repr, DecidableEq

def ReadError.message : ReadError → String
  | .malformed => "<json syntax error>"
  | .tooDeep => "<recursion error>"
  | .integerTooLong => "<integer too long>"

/-- How much a reader takes on. -/
structure Limits where
  depth : Nat
  digits : Nat
deriving Repr

/-- Punctuation, or a value without parts. -/
inductive Token where
  | openList
  | closeList
  | openObject
  | closeObject
  | comma
  | colon
  | text (s : String)
  | atom (v : Value)
deriving Repr

/-- A token and the number of characters it takes. -/
abbrev Lexeme := Token × Nat

/-- White space between tokens. -/
def isSpace (c : Char) : Bool := c == ' ' || c == '\t' || c == '\n' || c == '\r'

/-- The number written by four hexadecimal digits. -/
def hex4? (a b c d : Char) : Option Nat := do
  let a ← Text.hexValue? a
  let b ← Text.hexValue? b
  let c ← Text.hexValue? c
  let d ← Text.hexValue? d
  some (((a * 16 + b) * 16 + c) * 16 + d)

/-- The character that a backslash and one letter stand for. -/
def simpleEscape? : Char → Option Char
  | '"' => some '"'
  | '\\' => some '\\'
  | '/' => some '/'
  | 'b' => some (Char.ofNat 8)
  | 'f' => some (Char.ofNat 12)
  | 'n' => some '\n'
  | 'r' => some '\r'
  | 't' => some '\t'
  | _ => none

/-- Code points from code units: a pair of surrogates is one code point, and half a pair stays as
it is. -/
def joinUnits : List Nat → List Nat
  | [] => []
  | [unit] => [unit]
  | high :: low :: rest =>
    if 0xD800 ≤ high && high < 0xDC00 && 0xDC00 ≤ low && low < 0xE000 then
      (0x10000 + (high - 0xD800) * 0x400 + (low - 0xDC00)) :: joinUnits rest
    else high :: joinUnits (low :: rest)

/-- Whether a code point is half a pair of surrogates, which is no character. -/
def isHalf (code : Nat) : Bool := 0xD800 ≤ code && code < 0xE000

/-- Whether half a pair stands for a byte of a file name that is no UTF-8.  Other halves are not
in any path. -/
def isByteHalf (code : Nat) : Bool := 0xDC80 ≤ code && code < 0xDD00

/-- The mark before the character that stands for half a pair. -/
def halfMark : Nat := 0x10FFFF

/-- How far the characters that stand for halves of pairs are from these. -/
def halfShift : Nat := 0x101800

/-- Whether a character means something else behind a mark than it does alone. -/
def bindsMark (c : Char) : Bool := isHalf (c.toNat - halfShift) || c.toNat == halfMark

/-- Characters from code points.  Half a pair becomes a mark and a private character, with a zero
character before them if it is in no path, so that a path with it is refused as one with a zero
character is.  A mark of the text itself is doubled where it would be taken for such a mark, so
that different texts stay different. -/
def charactersOf : List Nat → List Char
  | [] => []
  | code :: rest =>
    let behind := charactersOf rest
    if isHalf code then
      (if isByteHalf code then [] else [Char.ofNat 0])
        ++ Char.ofNat halfMark :: Char.ofNat (code + halfShift) :: behind
    else if code = halfMark ∧ behind.head?.any bindsMark then
      Char.ofNat halfMark :: Char.ofNat halfMark :: behind
    else Char.ofNat code :: behind

/-- The rest of a text literal: its code units behind `done` (which is reversed) and how many
characters it takes, `used` being taken already. -/
def textBody? (done : List Nat) (used : Nat) : List Char → Option (List Nat × Nat)
  | [] => none
  | '"' :: _ => some (done.reverse, used + 1)
  | '\\' :: 'u' :: a :: b :: c :: d :: rest =>
    match hex4? a b c d with
    | some unit => textBody? (unit :: done) (used + 6) rest
    | none => none
  | '\\' :: c :: rest =>
    match simpleEscape? c with
    | some e => textBody? (e.toNat :: done) (used + 2) rest
    | none => none
  | c :: rest =>
    if c.toNat < 0x20 || c == '\\' then none else textBody? (c.toNat :: done) (used + 1) rest
termination_by structural s => s

/-- The token of a text literal, from what its body has. -/
def textToken : Option (List Nat × Nat) → Except ReadError Lexeme
  | some (units, used) => .ok (.text (String.ofList (charactersOf (joinUnits units))), used)
  | none => .error .malformed

/-- The digits of the fraction, with the point, and the text behind them. -/
def fraction : List Char → List Char × List Char
  | '.' :: rest =>
    match rest.takeWhile Char.isDigit with
    | [] => ([], '.' :: rest)
    | digits => ('.' :: digits, rest.dropWhile Char.isDigit)
  | rest => ([], rest)

/-- The exponent with its mark and sign. -/
def exponent : List Char → List Char
  | mark :: rest =>
    if mark == 'e' || mark == 'E' then
      let (sign, digits) :=
        match rest with
        | '+' :: more => (['+'], more)
        | '-' :: more => (['-'], more)
        | more => ([], more)
      match digits.takeWhile Char.isDigit with
      | [] => []
      | ds => mark :: sign ++ ds
    else []
  | [] => []

/-- A number at the start of a text, its sign read before. -/
def number (limits : Limits) (negative : Bool) (s : List Char) : Except ReadError Lexeme :=
  let whole :=
    match s with
    | '0' :: _ => ['0']
    | _ => s.takeWhile Char.isDigit
  if whole.isEmpty then .error .malformed
  else
    let signLength := if negative then 1 else 0
    let (frac, rest) := fraction (s.drop whole.length)
    let expo := exponent rest
    if frac.isEmpty && expo.isEmpty then
      if limits.digits < whole.length then .error .integerTooLong
      else
        let n : Int := Text.natOfDigits (whole.map fun c => c.toNat - '0'.toNat)
        .ok (.atom (.int (if negative then -n else n)), signLength + whole.length)
    else
      let literal := (if negative then ['-'] else []) ++ whole ++ frac ++ expo
      .ok (.atom (.real (String.ofList literal)), literal.length)

/-- The token at the start of a text that does not start with white space. -/
def token (limits : Limits) : List Char → Except ReadError Lexeme
  | '[' :: _ => .ok (.openList, 1)
  | ']' :: _ => .ok (.closeList, 1)
  | '\x7b' :: _ => .ok (.openObject, 1)
  | '\x7d' :: _ => .ok (.closeObject, 1)
  | ',' :: _ => .ok (.comma, 1)
  | ':' :: _ => .ok (.colon, 1)
  | '"' :: rest => textToken (textBody? [] 1 rest)
  | 'n' :: 'u' :: 'l' :: 'l' :: _ => .ok (.atom .null, 4)
  | 't' :: 'r' :: 'u' :: 'e' :: _ => .ok (.atom (.bool true), 4)
  | 'f' :: 'a' :: 'l' :: 's' :: 'e' :: _ => .ok (.atom (.bool false), 5)
  | 'N' :: 'a' :: 'N' :: _ => .ok (.atom (.real "NaN"), 3)
  | 'I' :: 'n' :: 'f' :: 'i' :: 'n' :: 'i' :: 't' :: 'y' :: _ =>
    .ok (.atom (.real "Infinity"), 8)
  | '-' :: 'I' :: 'n' :: 'f' :: 'i' :: 'n' :: 'i' :: 't' :: 'y' :: _ =>
    .ok (.atom (.real "-Infinity"), 9)
  | '-' :: rest => number limits true rest
  | s => number limits false s

end MolangAssist.Json
