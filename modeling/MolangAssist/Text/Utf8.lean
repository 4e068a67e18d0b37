/-!
# Bytes and characters

Files hold UTF-8.  Strict reading refuses anything else; percent escapes are read leniently,
with a replacement character for each ill-formed piece.
-/
namespace MolangAssist.Text

/-- Line ends `\r\n` and `\r` become `\n`. -/
def normalizeNewlines : List Char → List Char
  | [] => []
  | '\r' :: '\n' :: cs => '\n' :: normalizeNewlines cs
  | '\r' :: cs => '\n' :: normalizeNewlines cs
  | c :: cs => c :: normalizeNewlines cs

/-- The text of a file: strict UTF-8 with its line ends made uniform. -/
def decodeFile? (bytes : ByteArray) : Option String :=
  (String.fromUTF8? bytes).map fun s => String.ofList (normalizeNewlines s.toList)

/-- The number of continuation bytes a lead byte asks for, and the range allowed for the first
of them.  Overlong forms, surrogates and code points beyond the last are excluded here. -/
def continuation? (lead : Nat) : Option (Nat × Nat × Nat) :=
  if 0xC2 ≤ lead && lead ≤ 0xDF then some (1, 0x80, 0xBF)
  else if lead == 0xE0 then some (2, 0xA0, 0xBF)
  else if lead == 0xED then some (2, 0x80, 0x9F)
  else if 0xE1 ≤ lead && lead ≤ 0xEF then some (2, 0x80, 0xBF)
  else if lead == 0xF0 then some (3, 0x90, 0xBF)
  else if 0xF1 ≤ lead && lead ≤ 0xF3 then some (3, 0x80, 0xBF)
  else if lead == 0xF4 then some (3, 0x80, 0x8F)
  else none

/-- What a lenient reader is in the middle of: `code` so far, how many bytes are still owed,
and the range of the next one. -/
structure Pending where
  code : Nat
  owed : Nat
  least : Nat
  greatest : Nat
deriving Repr

/-- Stands for bytes that are no character. -/
def replacement : Char := Char.ofNat 0xFFFD

/-- Reads a byte that does not continue a character: text shown for it, and what it opens. -/
def leadByte (b : Nat) : List Char × Option Pending :=
  if b < 0x80 then ([Char.ofNat b], none)
  else
    match continuation? b with
    | none => ([replacement], none)
    | some (owed, least, greatest) =>
      let mask := if owed == 1 then 0x1F else if owed == 2 then 0x0F else 0x07
      ([], some ⟨b &&& mask, owed, least, greatest⟩)

/-- Lenient reading: every maximal ill-formed piece becomes one replacement character. -/
def decodeLeniently : Option Pending → List UInt8 → List Char
  | none, [] => []
  | some _, [] => [replacement]
  | none, b :: bs =>
    let (shown, pending) := leadByte b.toNat
    shown ++ decodeLeniently pending bs
  | some p, b :: bs =>
    let n := b.toNat
    if p.least ≤ n && n ≤ p.greatest then
      let code := p.code * 64 + (n - 0x80)
      if p.owed == 1 then Char.ofNat code :: decodeLeniently none bs
      else decodeLeniently (some ⟨code, p.owed - 1, 0x80, 0xBF⟩) bs
    else
      let (shown, pending) := leadByte n
      replacement :: shown ++ decodeLeniently pending bs

end MolangAssist.Text
