import MolangAssist.Text.Characters

/-!
# Numerals

Reading of whole numbers as people type them: blanks around, a sign, single underscores between
digits, and the decimal digits of every script.
-/
namespace MolangAssist.Text

/-- The digit zero of each script; its nine successors are the other digits. -/
def zeroDigits : List Nat := [
    0x0030, 0x0660, 0x06F0, 0x07C0, 0x0966, 0x09E6, 0x0A66, 0x0AE6, 0x0B66, 0x0BE6, 0x0C66,
    0x0CE6, 0x0D66, 0x0DE6, 0x0E50, 0x0ED0, 0x0F20, 0x1040, 0x1090, 0x17E0, 0x1810, 0x1946,
    0x19D0, 0x1A80, 0x1A90, 0x1B50, 0x1BB0, 0x1C40, 0x1C50, 0xA620, 0xA8D0, 0xA900, 0xA9D0,
    0xA9F0, 0xAA50, 0xABF0, 0xFF10, 0x104A0, 0x10D30, 0x11066, 0x110F0, 0x11136, 0x111D0,
    0x112F0, 0x11450, 0x114D0, 0x11650, 0x116C0, 0x11730, 0x118E0, 0x11950, 0x11C50, 0x11D50,
    0x11DA0, 0x16A60, 0x16AC0, 0x16B50, 0x1D7CE, 0x1D7D8, 0x1D7E2, 0x1D7EC, 0x1D7F6, 0x1E140,
    0x1E2F0, 0x1E950, 0x1FBF0]

/-- The value of a decimal digit of any script. -/
def digit? (c : Char) : Option Nat :=
  zeroDigits.findSome? fun first =>
    if first ≤ c.toNat && c.toNat < first + 10 then some (c.toNat - first) else none

/-- Blanks that may surround a numeral: all but the information separators. -/
def isNumeralBlank (c : Char) : Bool := isBlank c && !(0x1C ≤ c.toNat && c.toNat < 0x20)

/-- Digits with single underscores between them, most significant first. -/
def digits? : List Char → Option (List Nat)
  | [] => none
  | [c] => (digit? c).map ([·])
  | c :: '_' :: rest => do
    let d ← digit? c
    let ds ← digits? rest
    some (d :: ds)
  | c :: rest => do
    let d ← digit? c
    let ds ← digits? rest
    some (d :: ds)

/-- The value of a hexadecimal digit. -/
def hexValue? (c : Char) : Option Nat :=
  if '0' ≤ c && c ≤ '9' then some (c.toNat - '0'.toNat)
  else if 'a' ≤ c && c ≤ 'f' then some (c.toNat - 'a'.toNat + 10)
  else if 'A' ≤ c && c ≤ 'F' then some (c.toNat - 'A'.toNat + 10)
  else none

/-- The longest numeral that is read. -/
def maxDigits : Nat := 4300

/-- The natural number with the given digits. -/
def natOfDigits (digits : List Nat) : Nat := digits.foldl (fun n d => 10 * n + d) 0

/-- A whole number, unless the text is no numeral or has too many digits. -/
def integer? (s : List Char) : Option Int :=
  let unsigned (cs : List Char) : Option Nat :=
    match digits? cs with
    | some ds => if ds.length ≤ maxDigits then some (natOfDigits ds) else none
    | none => none
  match trimWhile isNumeralBlank s with
  | '-' :: rest => (unsigned rest).map fun n => -(n : Int)
  | '+' :: rest => (unsigned rest).map fun n => (n : Int)
  | rest => (unsigned rest).map fun n => (n : Int)

end MolangAssist.Text
