import MolangAssist.Files.Authority
import MolangAssist.Files.Path
import MolangAssist.Text.Numeral
import MolangAssist.Text.Quoted
import MolangAssist.Text.Utf8

/-!
# URIs

Files are named by `file` URIs, in which the bytes of most characters are percent-encoded.
-/
namespace MolangAssist.Files

open Text

/-- Characters that stand for themselves in a URI. -/
def isUnreserved (c : Char) : Bool :=
  c.isAlphanum || c == '_' || c == '.' || c == '-' || c == '~' || c == '/'

/-- A byte as a percent escape with upper-case digits. -/
def percentByte (b : UInt8) : List Char := '%' :: (hexDigits 2 b.toNat).map Char.toUpper

/-- Percent-encodes all but the unreserved characters. -/
def percentEncode (text : String) : List Char :=
  text.toList.flatMap fun c =>
    if isUnreserved c then [c] else (c.toString.toUTF8.toList).flatMap percentByte

/-- The URI of a place. -/
def Place.uri (place : Place) : String :=
  "file://" ++ String.ofList (percentEncode place.toString)

/-- The bytes of an ASCII text with its percent escapes decoded. -/
def percentBytes : List Char → List UInt8
  | '%' :: a :: b :: rest =>
    match hexValue? a, hexValue? b with
    | some high, some low => UInt8.ofNat (16 * high + low) :: percentBytes rest
    | _, _ => '%'.toNat.toUInt8 :: percentBytes (a :: b :: rest)
  | c :: rest => c.toNat.toUInt8 :: percentBytes rest
  | [] => []

/-- Decodes the percent escapes.  Each stretch of ASCII characters, of which `run` holds the
last one in reverse, is decoded on its own. -/
def percentDecodeFrom (run : List Char) : List Char → List Char
  | [] => decodeLeniently none (percentBytes run.reverse)
  | c :: cs =>
    if c.toNat < 128 then percentDecodeFrom (c :: run) cs
    else decodeLeniently none (percentBytes run.reverse) ++ c :: percentDecodeFrom [] cs

/-- Decodes the percent escapes of a text. -/
def percentDecode (s : List Char) : List Char := percentDecodeFrom [] s

/-- The parts of a URI that say where a document is, percent-decoded. -/
structure Uri where
  scheme : List Char
  authority : List Char
  path : List Char
deriving Repr, DecidableEq

/-- Characters of a scheme. -/
def isSchemeChar (c : Char) : Bool := c.isAlphanum || c == '+' || c == '-' || c == '.'

/-- Splits off the scheme, in lower case, if there is one. -/
def splitScheme (s : List Char) : List Char × List Char :=
  match s with
  | c :: _ =>
    let scheme := s.takeWhile (· != ':')
    if c.isAlpha && s.contains ':' && scheme.all isSchemeChar then
      (scheme.map Char.toLower, s.drop (scheme.length + 1))
    else ([], s)
  | [] => ([], s)

/-- Splits off the authority behind two slashes. -/
def splitAuthority : List Char → List Char × List Char
  | '/' :: '/' :: rest =>
    let inAuthority := fun c => c != '/' && c != '?' && c != '#'
    (rest.takeWhile inAuthority, rest.dropWhile inAuthority)
  | rest => ([], rest)

/-- The schemes whose last path segment may carry parameters behind a semicolon. -/
def schemesWithParams : List String :=
  ["", "ftp", "hdl", "prospero", "http", "imap", "https", "shttp", "rtsp", "rtspu",
    "sip", "sips", "mms", "sftp", "tel"]

/-- Leaves out the parameters of the last segment. -/
def dropParams (path : List Char) : List Char :=
  let last := lastPiece '/' path
  path.take (path.length - last.length) ++ last.takeWhile (· != ';')

/-- Reads a URI.  Leading controls and blanks, tabs and line ends do not count; query and
fragment are left out. -/
def Uri.parse (text : String) : Except UriError Uri := do
  let s := (text.toList.dropWhile fun c => c.toNat ≤ 0x20).filter fun c =>
    c != '\t' && c != '\r' && c != '\n'
  let (scheme, s) := splitScheme s
  let (authority, s) := splitAuthority s
  checkAuthority authority
  let path := (s.takeWhile (· != '#')).takeWhile (· != '?')
  let path := if schemesWithParams.contains (String.ofList scheme) then dropParams path else path
  .ok ⟨percentDecode scheme, percentDecode authority, percentDecode path⟩

/-- The path of a `file` URI.  An authority becomes the start of a path with two slashes, and a
drive letter loses its slash and becomes lower case. -/
def Uri.filePath? (uri : Uri) : Option String :=
  if uri.scheme != "file".toList then none
  else if !uri.authority.isEmpty && !uri.path.isEmpty then
    some (String.ofList ('/' :: '/' :: uri.authority ++ uri.path))
  else
    match uri.path with
    | '/' :: drive :: ':' :: rest =>
      if drive.isAlpha then some (String.ofList (drive.toLower :: ':' :: rest))
      else some (String.ofList uri.path)
    | path => some (String.ofList path)

/-- Where the document of a URI is kept: the path of a file, else the path part of the URI. -/
def Uri.documentPath (uri : Uri) : String := uri.filePath?.getD (String.ofList uri.path)

/-- What a library for editors reads out of URIs. -/
structure UriReader where
  /-- The path of a file, if the URI names one. -/
  filePath? : String → Except UriError (Option String)
  /-- Where a document is kept. -/
  documentPath : String → Except UriError String

/-- Reads URIs by their parts. -/
def Uri.reader : UriReader where
  filePath? text := (Uri.parse text).map Uri.filePath?
  documentPath text := (Uri.parse text).map Uri.documentPath

end MolangAssist.Files
