import MolangAssist.Text.Numeral
import MolangAssist.Text.Quoted
import MolangAssist.Text.Scan

/-!
# Authorities of URIs

The authority of a URI names a host, which may follow a user and an at sign and be followed by a
port.  Brackets stand around a host that is a numeric address of the newer kinds, and nowhere
else.
-/
namespace MolangAssist.Files

open Text

/-- Why a URI is refused. -/
inductive UriError where
  /-- A bracket has no partner, or something stands right before or behind the brackets. -/
  | looseBracket
  /-- The address says that it is of a later version but is not written like one. -/
  | badFutureAddress
  /-- Four octets stand in brackets. -/
  | bracketedOctets
  | noAddress (host : String)
  /-- A character of the authority is a compatibility form of a delimiter. -/
  | disguisedDelimiter (authority : String)
deriving Repr, DecidableEq

def UriError.message : UriError → String
  | .looseBracket => "Invalid IPv6 URL"
  | .badFutureAddress => "IPvFuture address is invalid"
  | .bracketedOctets => "An IPv4 address cannot be in brackets"
  | .noAddress host => quoted host ++ " does not appear to be an IPv4 or IPv6 address"
  | .disguisedDelimiter authority =>
    "netloc '" ++ authority ++ "' contains invalid characters under NFKC normalization"

/-! ## Numeric addresses -/

/-- A decimal number below 256 without needless zeros. -/
def isOctet (s : List Char) : Bool :=
  !s.isEmpty && s.length ≤ 3 && s.all Char.isDigit && (s == ['0'] || s.head? != some '0')
    && natOfDigits (s.filterMap digit?) < 256

/-- Four octets with points between them. -/
def isOctetAddress (s : List Char) : Bool :=
  let octets := splitAt '.' s
  octets.length == 4 && octets.all isOctet

/-- One to four hexadecimal digits. -/
def isGroup (s : List Char) : Bool :=
  !s.isEmpty && s.length ≤ 4 && s.all fun c => (hexValue? c).isSome

/-- How many groups a list of them makes up.  Four octets count as two groups, at the end of an
address only. -/
def groupCount? (atEnd : Bool) : List (List Char) → Option Nat
  | [] => some 0
  | [group] =>
    if isGroup group then some 1
    else if atEnd && isOctetAddress group then some 2
    else none
  | group :: rest => if isGroup group then (groupCount? atEnd rest).map (· + 1) else none

/-- The texts between colons; none in an empty text. -/
def colonPieces (s : List Char) : List (List Char) := if s.isEmpty then [] else splitAt ':' s

/-- Eight groups with colons between them.  Once, two colons may stand for one or more groups. -/
def isGroupAddress (s : List Char) : Bool :=
  match afterFirst? [':', ':'] s with
  | none => groupCount? true (colonPieces s) == some 8
  | some rest =>
    let start := s.take (s.length - rest.length - 2)
    match groupCount? false (colonPieces start), groupCount? true (colonPieces rest) with
    | some before, some behind => before + behind < 8
    | _, _ => false

/-- An address of groups, with or without a zone behind a percent sign. -/
def isScopedAddress (s : List Char) : Bool :=
  match s.dropWhile (· != '%') with
  | [] => isGroupAddress s
  | _ :: zone => !zone.isEmpty && !zone.contains '%' && isGroupAddress (s.takeWhile (· != '%'))

/-- An address of a later version: its number in hexadecimal, a point and any text. -/
def isFutureAddress : List Char → Bool
  | 'v' :: rest =>
    let isHex := fun c => (hexValue? c).isSome
    match rest.takeWhile isHex, rest.dropWhile isHex with
    | _ :: _, '.' :: _ :: _ => true
    | _, _ => false
  | _ => false

/-! ## Checks -/

/-- Checks the host in an authority with brackets. -/
def checkBracketedHost (host : List Char) : Except UriError Unit :=
  if host.head? = some 'v' then
    if isFutureAddress host then .ok () else .error .badFutureAddress
  else if isOctetAddress host then .error .bracketedOctets
  else if isScopedAddress host then .ok ()
  else .error (.noAddress (String.ofList host))

/-- Checks an authority that has both brackets.  The host stands behind the last at sign; without
brackets of its own it ends at a colon. -/
def checkBracketed (authority : List Char) : Except UriError Unit :=
  let server := lastPiece '@' authority
  match server.takeWhile (· != '['), server.dropWhile (· != '[') with
  | _, [] => checkBracketedHost (server.takeWhile (· != ':'))
  | [], _ :: rest =>
    match (rest.dropWhile (· != ']')).drop 1 with
    | [] | ':' :: _ => checkBracketedHost (rest.takeWhile (· != ']'))
    | _ => .error .looseBracket
  | _ :: _, _ => .error .looseBracket

/-- Checks the brackets of an authority. -/
def checkBrackets (authority : List Char) : Except UriError Unit :=
  match authority.contains '[', authority.contains ']' with
  | false, false => .ok ()
  | true, true => checkBracketed authority
  | _, _ => .error .looseBracket

/-- The characters whose compatibility form has a slash, question mark, number sign, at sign or
colon in it. -/
def disguisedDelimiters : List Nat := [
    0x2047, 0x2048, 0x2049, 0x2100, 0x2101, 0x2105, 0x2106, 0x2A74, 0xFE13, 0xFE16, 0xFE55,
    0xFE56, 0xFE5F, 0xFE6B, 0xFF03, 0xFF0F, 0xFF1A, 0xFF1F, 0xFF20]

/-- Checks an authority: its brackets first, then its characters. -/
def checkAuthority (authority : List Char) : Except UriError Unit := do
  checkBrackets authority
  if authority.any fun c => disguisedDelimiters.contains c.toNat then
    .error (.disguisedDelimiter (String.ofList authority))
  else .ok ()

end MolangAssist.Files
