import MolangAssist.CommandLine.Options
import MolangAssist.Schema.Snapshot
import MolangAssist.Settings
import MolangAssist.Text.Case

/-!
# Log lines

Each part of the program logs under a name of its own.  A line is shown if its level is at
least the chosen one.
-/
namespace MolangAssist.CommandLine

open Schema Text

/-- How much a log line matters. -/
inductive Level where
  | debug
  | info
  | warning
  | error
deriving Repr, DecidableEq

def Level.rank : Level → Nat
  | .debug => 10
  | .info => 20
  | .warning => 30
  | .error => 40

def Level.title : Level → String
  | .debug => "DEBUG"
  | .info => "INFO"
  | .warning => "WARNING"
  | .error => "ERROR"

/-- The rank from which on lines are shown, by the name of a level in any case; that of warnings
for an unknown name. -/
def threshold (name : String) : Nat :=
  let ranks := [("DEBUG", 10), ("INFO", 20), ("WARN", 30), ("WARNING", 30), ("ERROR", 40),
    ("CRITICAL", 50), ("FATAL", 50), ("NOTSET", 0)]
  (ranks.lookup (String.ofList (upper name.toList))).getD 30

/-- One log line. -/
structure Entry where
  level : Level
  logger : String
  message : String
deriving Repr, DecidableEq

def Entry.line (entry : Entry) : String :=
  entry.level.title ++ " " ++ entry.logger ++ ": " ++ entry.message ++ "\n"

/-- The lines that are shown from a rank on. -/
def render (rank : Nat) (entries : List Entry) : String :=
  String.join ((entries.filter fun entry => rank ≤ entry.level.rank).map Entry.line)

/-- What the settings of a workspace give rise to. -/
def settingsEntries (report : Settings.Report) : List Entry :=
  report.reported.map (⟨.warning, "molang_ls.config", ·⟩)
    ++ report.warnings.map (⟨.warning, "molang_ls.__main__", ·⟩)

/-- What an attempt to load a schema gives rise to. -/
def schemaEntries : Snapshot → List Entry
  | .pending | .broken => []
  | .failed (.notFound path) =>
    [⟨.warning, "molang_ls.schema.loader", "MoLang schema not found at " ++ path⟩]
  | .failed (.unreadable path cause) =>
    [⟨.error, "molang_ls.schema.loader",
      "Failed to read MoLang schema " ++ path ++ ": " ++ cause.message path⟩]
  | .failed (.unusable path cause) =>
    [⟨.error, "molang_ls.schema.loader",
      "Failed to parse MoLang schema " ++ path ++ ": " ++ cause.message⟩]
  | .held doc =>
    [⟨.info, "molang_ls.schema.loader",
      "MoLang schema loaded: " ++ toString doc.runtimes.length ++ " runtimes, "
        ++ toString doc.structs.length ++ " structs"⟩]

/-- A runtime context as log lines show it. -/
def shownContext : Option (Setting String) → String
  | none => "None"
  | some (.given context) => context
  | some .emptied => "[]"

/-- A chain whose root is not known gives rise to a line. -/
def chainEntries (rootKnown : Bool) (context : Option (Setting String)) :
    List String → List Entry
  | [] => []
  | root :: _ =>
    if rootKnown then []
    else
      [⟨.debug, "molang_ls.schema.resolver",
        "Chain root " ++ quoted root ++ " not found (context=" ++ shownContext context ++ ")"⟩]

/-- The messages that a server handles by itself. -/
def builtinMessages : List String :=
  ["exit", "initialize", "initialized", "notebookDocument/didChange",
    "notebookDocument/didClose", "notebookDocument/didOpen", "$/setTrace", "shutdown",
    "textDocument/didChange", "textDocument/didClose", "textDocument/didOpen",
    "window/workDoneProgress/cancel", "workspace/didChangeWorkspaceFolders",
    "workspace/executeCommand"]

/-- The messages that are answered, in the order in which they are registered, with their
options. -/
def registeredMessages : List (String × String) :=
  [("initialized", "None"),
    ("textDocument/completion",
      "CompletionOptions(trigger_characters=['.'], all_commit_characters=None, "
        ++ "resolve_provider=None, completion_item=None, work_done_progress=None)"),
    ("textDocument/hover", "None"),
    ("textDocument/definition", "None")]

/-- What setting up a server gives rise to. -/
def serverEntries : List Entry :=
  let entry (message : String) : Entry := ⟨.info, "pygls.feature_manager", message⟩
  builtinMessages.map (fun name => entry ("Registered builtin feature " ++ name))
    ++ registeredMessages.map fun (name, options) =>
      entry ("Registered \"" ++ name ++ "\" with options \"" ++ options ++ "\"")

end MolangAssist.CommandLine
