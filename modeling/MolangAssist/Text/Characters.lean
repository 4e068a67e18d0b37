/-!
# Character classes

Names and dotted chains are made of ASCII letters, digits and underscores.  Blanks follow
the Unicode white-space property together with the four information separators.
-/
namespace MolangAssist.Text

/-- Letters, digits and the underscore; only the ASCII ones count. -/
def isWordChar (c : Char) : Bool := c.isAlphanum || c == '_'

/-- A name starts with a letter or an underscore. -/
def isNameStart (c : Char) : Bool := c.isAlpha || c == '_'

/-- The characters of a dotted chain. -/
def isChainChar (c : Char) : Bool := isWordChar c || c == '.'

/-- A name: a letter or underscore, then letters, digits and underscores. -/
def isName : List Char → Bool
  | [] => false
  | c :: cs => isNameStart c && cs.all isWordChar

/-- White space in the Unicode sense, with the information separators `001C` to `001F`. -/
def isBlank (c : Char) : Bool :=
  let n := c.toNat
  (0x09 ≤ n && n ≤ 0x0D) || (0x1C ≤ n && n ≤ 0x20) || n == 0x85 || n == 0xA0 || n == 0x1680
    || (0x2000 ≤ n && n ≤ 0x200A) || n == 0x2028 || n == 0x2029 || n == 0x202F || n == 0x205F
    || n == 0x3000

theorem isWordChar_of_isNameStart {c : Char} (h : isNameStart c = true) :
    isWordChar c = true := by
  simp only [isNameStart, isWordChar, Char.isAlphanum, Bool.or_eq_true] at *
  rcases h with h | h
  · exact .inl (.inl h)
  · exact .inr h

/-- Leaves out the characters satisfying `p` at both ends. -/
def trimWhile (p : Char → Bool) (s : List Char) : List Char :=
  ((s.dropWhile p).reverse.dropWhile p).reverse

/-- Leaves out blanks at both ends. -/
def trim (s : List Char) : List Char := trimWhile isBlank s

/-- The text behind the last occurrence of `separator`, or all of it. -/
def lastPiece (separator : Char) (s : List Char) : List Char :=
  (s.reverse.takeWhile (· != separator)).reverse

/-- A text that is there and not empty. -/
def present? (text : Option String) : Option String := text.filter (· != "")

end MolangAssist.Text
