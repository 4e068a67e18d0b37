import MolangAssist.CommandLine.Log
import MolangAssist.Schema.Resolution
import MolangAssist.Session

/-!
# Running the program

A call either resolves one chain and prints what it leads to, or asks for a server to be started.
-/
namespace MolangAssist.CommandLine

open Files Schema Text

/-- How a server talks to its editor. -/
inductive Transport where
  | stdio
  | tcp (host : Setting String) (port : Setting Int)
deriving Repr, DecidableEq

/-- What a call comes to.  There is no exit code when a server is started. -/
structure Outcome where
  exit : Option Nat := none
  stdout : String := ""
  stderr : String := ""
  started : List Transport := []
deriving Repr, DecidableEq

/-- Why a call comes to nothing. -/
inductive CallError where
  /-- The option for the log level was left without a value. -/
  | noLogLevel
  | workspace (cause : WorkspaceError)
deriving Repr, DecidableEq

def CallError.message : CallError → String
  | .noLogLevel => "'list' object has no attribute 'upper'"
  | .workspace cause => cause.message

/-- The surroundings of a call. -/
structure Surroundings where
  stack : Stack
  tree : Tree
  cwd : Place
  environment : Table String

/-- Lines of text, each with its line end. -/
def textOf (lines : List String) : String := String.join (lines.map (· ++ "\n"))

def usage : String := textOf [
  "usage: molang-ls [-h] [--tcp] [--host HOST] [--port PORT] [--stdio]",
  "                 [--log-level LOG_LEVEL] [--schema PATH] [--resolve CHAIN]",
  "                 [--context ID]"]

def helpText : String := usage ++ textOf [
  "",
  "MoLang schema-driven language server",
  "",
  "options:",
  "  -h, --help            show this help message and exit",
  "  --tcp                 Serve over TCP instead of stdin/stdout",
  "  --host HOST           Interface to bind with --tcp",
  "  --port PORT           Port to listen on with --tcp",
  "  --stdio               Serve over stdin/stdout (the default; accepted for",
  "                        editor clients)",
  "  --log-level LOG_LEVEL",
  "                        Log level for server diagnostics (DEBUG, INFO,",
  "                        WARNING, ERROR)",
  "  --schema PATH         Schema file to use instead of the configured or",
  "                        bundled one",
  "  --resolve CHAIN       Resolve a dot chain (e.g. pokemon.species) and print",
  "                        it",
  "  --context ID          Runtime context for --resolve (e.g.",
  "                        event:POKEMON_SENT_OUT)"]

/-- A refused call. -/
def misused (error : UsageError) : Outcome :=
  { exit := some 2, stderr := usage ++ "molang-ls: error: " ++ error.message ++ "\n" }

/-- The nearest directory, from the current one upwards, that has a settings file; the current
one if none has. -/
def workspaceRoot (tree : Tree) (cwd : Place) : Place :=
  let upwards := (List.range (cwd.length + 1)).reverse.map cwd.take
  (upwards.find? fun place =>
    (tree.node? (place ++ [settingsFile])).isSome).getD cwd

/-- The names of a chain as it is typed; empty ones do not count. -/
def chainNames (chain : String) : List String :=
  ((splitAt '.' chain.toList).filter (· != [])).map String.ofList

/-- What is printed for a resolved chain. -/
def printed (chain : String) (resolution : Resolution) : String :=
  let kind :=
    match resolution.entry with
    | some member => member.displayType
    | none => "struct"
  let description := present? (resolution.entry.bind fun member => member.notes.description)
  chain ++ ": " ++ kind ++ "\n"
    ++ (match description with
        | some description => "  " ++ description ++ "\n"
        | none => "")
    ++ String.join (resolution.members.map fun entry =>
        "  ." ++ entry.1 ++ ": " ++ entry.2.displayType ++ "\n")

/-- Resolves a chain with a loaded schema; `log` is what was logged so far. -/
def resolveWith (rank : Nat) (log : List Entry) (doc : Document) (chain : String)
    (context : Option (Setting String)) : Outcome :=
  let names := chainNames chain
  let runtime := context.bind Setting.value?
  match doc.resolve? runtime names with
  | some resolution =>
    { exit := some 0, stdout := printed chain resolution, stderr := render rank log }
  | none =>
    let known := (names.head?.bind (doc.root? runtime)).isSome
    { exit := some 1
      stderr := render rank (log ++ chainEntries known context names)
        ++ chain ++ ": not resolved\n" }

/-- Resolves a chain with the schema that the options or the settings name, and shows log lines
from a rank on. -/
def resolveChain (here : Surroundings) (options : Options) (rank : Nat) (chain : String) :
    Except WorkspaceError Outcome :=
  let root := workspaceRoot here.tree here.cwd
  match Settings.load here.stack here.tree here.cwd here.environment root.path with
  | .error fault => .error (.settings fault)
  | .ok report =>
    let path :=
      match present? options.schema with
      | some path => some (Path.ofString path)
      | none => report.settings.schemaPath
    let schema := Snapshot.attempt here.stack here.tree here.cwd path
    let log := settingsEntries report ++ schemaEntries schema
    match schema with
    | .held doc => .ok (resolveWith rank log doc chain options.context)
    | .failed why =>
      .ok { exit := some 2
            stderr := render rank log ++ "Schema not loaded: " ++ why.message ++ "\n" }
    | _ => .error .badSchemaPath

/-- Sets up a server. -/
def startServer (options : Options) (rank : Nat) : Outcome where
  stderr := render rank serverEntries
  started := [if options.tcp then .tcp options.host options.port else .stdio]

/-- Does what the options ask for, showing log lines from a rank on. -/
def runWith (here : Surroundings) (options : Options) (rank : Nat) :
    Except WorkspaceError Outcome :=
  match present? options.resolve with
  | some chain =>
    if options.tcp then .ok (misused .resolveWithTcp) else resolveChain here options rank chain
  | none => .ok (startServer options rank)

/-- Runs the program with the given arguments. -/
def run (here : Surroundings) (arguments : List String) : Except CallError Outcome :=
  match Options.ofArguments arguments with
  | .error .help => .ok { exit := some 0, stdout := helpText }
  | .error (.misuse error) => .ok (misused error)
  | .ok options =>
    match options.logLevel with
    | .emptied => .error .noLogLevel
    | .given level => (runWith here options (threshold level)).mapError .workspace

end MolangAssist.CommandLine
