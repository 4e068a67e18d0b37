import MolangAssist.Text.Numeral
import MolangAssist.Text.Quoted
import MolangAssist.Text.Scan

/-!
# Options of the command line

Options are long words, which may be shortened as long as they stay unique, and take their
value from the next argument or behind an equals sign.  All arguments are told apart first and
then read from left to right.
-/
namespace MolangAssist.CommandLine

open Text

/-- The options. -/
inductive Switch where
  | help
  | tcp
  | host
  | port
  | stdio
  | logLevel
  | schema
  | resolve
  | context
deriving Repr, DecidableEq

namespace Switch

/-- All options in the order of the usage text. -/
def all : List Switch :=
  [.help, .tcp, .host, .port, .stdio, .logLevel, .schema, .resolve, .context]

/-- The words for an option. -/
def words : Switch → List String
  | .help => ["-h", "--help"]
  | .tcp => ["--tcp"]
  | .host => ["--host"]
  | .port => ["--port"]
  | .stdio => ["--stdio"]
  | .logLevel => ["--log-level"]
  | .schema => ["--schema"]
  | .resolve => ["--resolve"]
  | .context => ["--context"]

def takesValue : Switch → Bool
  | .help | .tcp | .stdio => false
  | _ => true

/-- The option as error messages name it. -/
def title (switch : Switch) : String := "/".intercalate switch.words

/-- Every word with its option. -/
def lexicon : List (String × Switch) :=
  all.flatMap fun switch => switch.words.map fun word => (word, switch)

end Switch

/-- What is wrong with a command line. -/
inductive UsageError where
  | ambiguous (word : String) (candidates : List String)
  | expectedArgument (switch : Switch)
  | ignoredArgument (switch : Switch) (value : String)
  | invalidPort (value : String)
  | unrecognized (arguments : List String)
  | resolveWithTcp
deriving Repr, DecidableEq

def UsageError.message : UsageError → String
  | .ambiguous word candidates =>
    "ambiguous option: " ++ word ++ " could match " ++ ", ".intercalate candidates
  | .expectedArgument switch => "argument " ++ switch.title ++ ": expected one argument"
  | .ignoredArgument switch value =>
    "argument " ++ switch.title ++ ": ignored explicit argument " ++ quoted value
  | .invalidPort value =>
    "argument " ++ Switch.port.title ++ ": invalid int value: " ++ quoted value
  | .unrecognized arguments => "unrecognized arguments: " ++ " ".intercalate arguments
  | .resolveWithTcp => "--resolve cannot be combined with --tcp"

/-- A text written in the same argument as its option. -/
inductive Attached where
  | nothing
  /-- Behind a long option and an equals sign. -/
  | behindEquals (value : List Char)
  /-- Behind the short option, with or without an equals sign. -/
  | cluster (value : List Char)
deriving Repr, DecidableEq

/-- One argument. -/
inductive Argument where
  | plain (text : String)
  /-- Two dashes, behind which every argument is plain. -/
  | divider
  | unknown (text : String)
  | switch (switch : Switch) (attached : Attached)
deriving Repr, DecidableEq

/-- Whether a text looks like a negative number: digits with at most one point, behind a minus
sign. -/
def isNegativeNumber (s : List Char) : Bool :=
  let isDigit := fun c => (digit? c).isSome
  let s := if s.getLast? = some '\n' then s.dropLast else s
  match s with
  | '-' :: rest =>
    match rest.dropWhile isDigit with
    | [] => !rest.isEmpty
    | '.' :: places => !places.isEmpty && places.all isDigit
    | _ => false
  | _ => false

/-- The options that a shortened word may stand for. -/
def candidates (word : List Char) : List (String × Switch) :=
  Switch.lexicon.filter fun entry => word.isPrefixOf entry.1.toList

/-- Tells what an argument is. -/
def classify (text : String) : Except UsageError Argument :=
  let s := text.toList
  let word := s.takeWhile (· != '=')
  let attached : Attached :=
    if s.contains '=' then .behindEquals (s.drop (word.length + 1)) else .nothing
  if s.head? != some '-' then .ok (.plain text)
  else
    match Switch.lexicon.lookup text, Switch.lexicon.lookup (String.ofList word), s with
    | some switch, _, _ => .ok (.switch switch .nothing)
    | none, _, [_] => .ok (.plain text)
    | none, _, '-' :: 'h' :: '=' :: rest => .ok (.switch .help (.cluster rest))
    | none, _, '-' :: 'h' :: rest => .ok (.switch .help (.cluster rest))
    | none, some switch, _ => .ok (.switch switch attached)
    | none, none, _ =>
      let found := if ['-', '-'].isPrefixOf s then candidates word else []
      match found with
      | [(_, switch)] => .ok (.switch switch attached)
      | _ :: _ :: _ => .error (.ambiguous text (found.map Prod.fst))
      | [] =>
        if isNegativeNumber s || s.contains ' ' then .ok (.plain text) else .ok (.unknown text)

/-- Tells what the arguments are. -/
def classifyAll : List String → Except UsageError (List Argument)
  | [] => .ok []
  | text :: rest =>
    if text = "--" then .ok (.divider :: rest.map .plain)
    else do
      let argument ← classify text
      let arguments ← classifyAll rest
      .ok (argument :: arguments)

/-- What an option is set to.  Two dashes behind an equals sign are dropped like the divider,
which leaves the option without a value. -/
inductive Setting (α : Type) where
  | given (value : α)
  | emptied
deriving Repr, DecidableEq

/-- The value of a setting that has one. -/
def Setting.value? {α : Type} : Setting α → Option α
  | .given value => some value
  | .emptied => none

/-- The setting that a text behind an equals sign stands for. -/
def Setting.ofAttached (text : List Char) : Setting String :=
  if text = ['-', '-'] then .emptied else .given (String.ofList text)

/-- The options of a call. -/
structure Options where
  tcp : Bool := false
  host : Setting String := .given "127.0.0.1"
  port : Setting Int := .given 2087
  stdio : Bool := false
  logLevel : Setting String := .given "WARNING"
  schema : Option String := none
  resolve : Option String := none
  context : Option (Setting String) := none
deriving Repr, DecidableEq

/-- Why a call ends before it starts. -/
inductive Stop where
  | help
  | misuse (error : UsageError)
deriving Repr, DecidableEq

/-- Reads the number of a port. -/
def portOf : Setting String → Except Stop (Setting Int)
  | .emptied => .ok .emptied
  | .given text =>
    match integer? text.toList with
    | some port => .ok (.given port)
    | none => .error (.misuse (.invalidPort text))

/-- Sets an option.  Without a value, schema and chain count as not asked for. -/
def Options.set (options : Options) (switch : Switch) (value : Setting String) :
    Except Stop Options :=
  match switch with
  | .host => .ok { options with host := value }
  | .port => do
    let port ← portOf value
    .ok { options with port := port }
  | .logLevel => .ok { options with logLevel := value }
  | .schema => .ok { options with schema := value.value? }
  | .resolve => .ok { options with resolve := value.value? }
  | .context => .ok { options with context := some value }
  | .help | .tcp | .stdio => .ok options

/-- What the text attached to `-h` comes to.  Each `h` in it asks for help once more; anything
else is refused. -/
def attachedHelp : List Char → Stop
  | ['h'] => .help
  | 'h' :: rest => attachedHelp rest
  | rest => .misuse (.ignoredArgument .help (String.ofList rest))

/-- Turns an option without value on.  Text may be attached to the short form of one only. -/
def Options.turnOn (options : Options) (switch : Switch) : Attached → Except Stop Options
  | .behindEquals value => .error (.misuse (.ignoredArgument switch (String.ofList value)))
  | .cluster value => .error (attachedHelp value)
  | .nothing =>
    match switch with
    | .help => .error .help
    | .tcp => .ok { options with tcp := true }
    | .stdio => .ok { options with stdio := true }
    | _ => .ok options

/-- Reads arguments from left to right; `left` holds those that nobody takes, the last one
first. -/
def Options.read (options : Options) (left : List String) :
    List Argument → Except Stop Options
  | [] => if left.isEmpty then .ok options else .error (.misuse (.unrecognized left.reverse))
  | .plain text :: rest => options.read (text :: left) rest
  | .unknown text :: rest => options.read (text :: left) rest
  | .divider :: rest => options.read ("--" :: left) rest
  | .switch switch attached :: rest =>
    if switch.takesValue then
      match attached, rest with
      | .behindEquals value, rest => do
        let options ← options.set switch (.ofAttached value)
        options.read left rest
      | _, .plain value :: rest => do
        let options ← options.set switch (.given value)
        options.read left rest
      | _, _ => .error (.misuse (.expectedArgument switch))
    else do
      let options ← options.turnOn switch attached
      options.read left rest

/-- The options that the arguments of a call stand for. -/
def Options.ofArguments (arguments : List String) : Except Stop Options :=
  match classifyAll arguments with
  | .error error => .error (.misuse error)
  | .ok arguments => Options.read {} [] arguments

end MolangAssist.CommandLine
