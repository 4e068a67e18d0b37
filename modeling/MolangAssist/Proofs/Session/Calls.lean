import MolangAssist.Session

/-!
# Runs of a session

A run is a sequence of calls on one session. Every call brings the file tree that it finds, and a
call that loads settings the environment, so that both may change at will between calls. Step
lemmas say what one call does to the schema and to the settings, run lemmas what all of them do.
-/
namespace MolangAssist

open Assist Files Schema

namespace Schema

/-- What may be asked of a schema: its parts by name, and what chains lead to. -/
inductive Question where
  | document
  | isLoaded
  | runtimeNames
  | structNames
  | runtime (id : String)
  | runtimeQuery (id : String)
  | struct (name : String)
  | functionSet (name : String)
  | composition (type : String)
  | queryVariables (context : Option String)
  | functionsFor (structType : Option String)
  | mathFunctions
  | generalFunctions
  | resolution (context : Option String) (path : List String)
  | member (context : Option String) (path : List String)
deriving Repr

inductive Reply where
  | document (found : Option Document)
  | truth (holds : Bool)
  | names (found : List String)
  | runtime (found : Option Runtime)
  | group (found : Option MemberGroup)
  | composition (found : Option Composition)
  | members (found : Members)
  | resolution (found : Option Resolution)
  | member (found : Option Member)
deriving Repr

/-- Nothing was found. -/
def Reply.isVoid : Reply → Bool
  | .document found => found.isNone
  | .truth holds => !holds
  | .names found => found.isEmpty
  | .runtime found => found.isNone
  | .group found => found.isNone
  | .composition found => found.isNone
  | .members found => found.isEmpty
  | .resolution found => found.isNone
  | .member found => found.isNone

def Snapshot.ask (snapshot : Snapshot) : Question → Reply
  | .document => .document snapshot.document?
  | .isLoaded => .truth snapshot.isLoaded
  | .runtimeNames => .names snapshot.document.runtimeNames
  | .structNames => .names (Table.names snapshot.document.structs)
  | .runtime id => .runtime (Table.get? snapshot.document.runtimes id)
  | .runtimeQuery id => .members (snapshot.document.runtimeQuery id)
  | .struct name => .group (Table.get? snapshot.document.structs name)
  | .functionSet name => .group (Table.get? snapshot.document.functionSets name)
  | .composition type => .composition (Table.get? snapshot.document.compositions type)
  | .queryVariables context => .members (snapshot.document.queryVariables context)
  | .functionsFor structType => .members (snapshot.document.functionsFor structType)
  | .mathFunctions => .members snapshot.document.mathFunctions
  | .generalFunctions => .members snapshot.document.generalFunctions
  | .resolution context path => .resolution (snapshot.document.resolve? context path)
  | .member context path => .member (snapshot.document.member? context path)

end Schema

/-- A call on a session. -/
inductive Call where
  | load (tree : Tree) (path : Option Path)
  | loadWorkspace (tree : Tree) (environment : Table String) (root : Path)
  | initialized (tree : Tree) (environment : Table String) (rootUri : Option String)
  | openDocument (uri text : String)
  | closeDocument (uri : String)
  | completion (tree : Tree) (uri : String) (line column : Int)
  | hover (tree : Tree) (uri : String) (line column : Int)
  | definition (tree : Tree) (uri : String) (line column : Int)
  | ask (question : Question)

inductive Answer where
  | loaded (result : Snapshot.LoadResult)
  | workspace (result : Except WorkspaceError Unit)
  | opened (result : Except UriError Unit)
  | closed
  | items (result : Except RequestError (List Item))
  | shown (result : Except RequestError (Option String))
  | targets (result : Except RequestError (List Target))
  | reply (reply : Reply)

namespace Session

/-- The session after a call, and the answer to the call. -/
def perform (session : Session) : Call → Session × Answer
  | .load tree path =>
    let (schema, result) := session.schema.load session.host.stack tree session.cwd path
    ({ session with schema := schema }, .loaded result)
  | .loadWorkspace tree environment root =>
    let (next, result) := session.loadWorkspace tree environment root
    (next, .workspace result)
  | .initialized tree environment rootUri =>
    let (next, result) := session.initialized tree environment rootUri
    (next, .workspace result)
  | .openDocument uri text =>
    match session.openDocument uri text with
    | .ok next => (next, .opened (.ok ()))
    | .error cause => (session, .opened (.error cause))
  | .closeDocument uri => (session.closeDocument uri, .closed)
  | .completion tree uri line column =>
    (session, .items (session.completion tree uri line column))
  | .hover tree uri line column => (session, .shown (session.hover tree uri line column))
  | .definition tree uri line column =>
    (session, .targets (session.definition tree uri line column))
  | .ask question => (session, .reply (session.schema.ask question))

/-- The session after some calls. -/
def after (session : Session) (calls : List Call) : Session :=
  calls.foldl (fun session call => (session.perform call).1) session

theorem after_cons (session : Session) (call : Call) (calls : List Call) :
    session.after (call :: calls) = (session.perform call).1.after calls := rfl

end Session

namespace Call

/-- The settings that a call loads, in a session with the given host and directory. -/
def settings? (host : Host) (cwd : Place) : Call → Option Settings
  | .loadWorkspace tree environment root =>
    (Settings.load host.stack tree cwd environment root).toOption.map Settings.Report.settings
  | .initialized tree environment rootUri =>
    (Session.rootOf host.uris cwd rootUri).toOption.bind fun root =>
      (Settings.load host.stack tree cwd environment root).toOption.map Settings.Report.settings
  | _ => none

/-- What comes of a call that tries to load a schema, if it is the first one. -/
def attempt? (host : Host) (cwd : Place) : Call → Option Snapshot
  | .load tree path => some (Snapshot.attempt host.stack tree cwd path)
  | .loadWorkspace tree environment root =>
    (settings? host cwd (.loadWorkspace tree environment root)).map fun settings =>
      Snapshot.attempt host.stack tree cwd settings.schemaPath
  | .initialized tree environment rootUri =>
    (settings? host cwd (.initialized tree environment rootUri)).map fun settings =>
      Snapshot.attempt host.stack tree cwd settings.schemaPath
  | _ => none

/-- Requests and questions only look at a session. -/
def isReadOnly : Call → Bool
  | .completion _ _ _ _ | .hover _ _ _ _ | .definition _ _ _ _ | .ask _ => true
  | _ => false

end Call

/-! ## One call -/

namespace Schema.Snapshot

theorem attempt_ne_pending (stack : Stack) (tree : Tree) (cwd : Place) (path : Option Path) :
    attempt stack tree cwd path ≠ .pending := by
  cases path with
  | none => simp [attempt]
  | some path =>
    simp only [attempt]
    split <;> try simp
    split <;> simp

/-- A snapshot that is pending takes the outcome of an attempt, if there is one. -/
def settle (snapshot : Snapshot) (outcome : Option Snapshot) : Snapshot :=
  match snapshot with
  | .pending => outcome.getD .pending
  | settled => settled

theorem settle_none (snapshot : Snapshot) : snapshot.settle none = snapshot := by
  cases snapshot <;> rfl

theorem settle_of_ne_pending {snapshot : Snapshot} (hsettled : snapshot ≠ .pending)
    (outcome : Option Snapshot) : snapshot.settle outcome = snapshot := by
  cases snapshot with
  | pending => exact absurd rfl hsettled
  | _ => rfl

/-- Later attempts look at no file. -/
theorem load_of_ne_pending {snapshot : Snapshot} (hsettled : snapshot ≠ .pending) (stack : Stack)
    (tree : Tree) (cwd : Place) (path : Option Path) :
    snapshot.load stack tree cwd path = (snapshot, .done snapshot.isLoaded) := by
  cases snapshot with
  | pending => exact absurd rfl hsettled
  | _ => rfl

/-- The first attempt counts. -/
theorem settle_settle {outcome : Snapshot} (houtcome : outcome ≠ .pending) (snapshot : Snapshot)
    (later : Option Snapshot) :
    (snapshot.settle (some outcome)).settle later = snapshot.settle (some outcome) := by
  cases snapshot with
  | pending => exact settle_of_ne_pending houtcome later
  | _ => rfl

theorem load_fst (snapshot : Snapshot) (stack : Stack) (tree : Tree) (cwd : Place)
    (path : Option Path) :
    (snapshot.load stack tree cwd path).1 =
      snapshot.settle (some (attempt stack tree cwd path)) := by
  cases snapshot with
  | pending =>
    rw [load, settle, Option.getD_some]
    split
    · next hbroken => exact hbroken.symm
    · rfl
  | _ => rfl

end Schema.Snapshot

theorem Call.attempt?_ne_pending {host : Host} {cwd : Place} {call : Call} {outcome : Snapshot}
    (hcall : call.attempt? host cwd = some outcome) : outcome ≠ .pending := by
  cases call with
  | load tree path =>
    cases hcall
    exact Snapshot.attempt_ne_pending host.stack tree cwd path
  | loadWorkspace tree environment root =>
    obtain ⟨settings, _, rfl⟩ := Option.map_eq_some_iff.mp hcall
    exact Snapshot.attempt_ne_pending host.stack tree cwd settings.schemaPath
  | initialized tree environment rootUri =>
    obtain ⟨settings, _, rfl⟩ := Option.map_eq_some_iff.mp hcall
    exact Snapshot.attempt_ne_pending host.stack tree cwd settings.schemaPath
  | _ => cases hcall

namespace Session

variable (session : Session)

/-- What loading a workspace does to a session, whether it succeeds or not. -/
theorem loadWorkspace_fst (tree : Tree) (environment : Table String) (root : Path) :
    (session.loadWorkspace tree environment root).1 =
      let settings := (Settings.load session.host.stack tree session.cwd environment
        root).toOption.map Settings.Report.settings
      { session with
        settings := settings.getD session.settings
        schema := session.schema.settle (settings.map fun settings =>
          Snapshot.attempt session.host.stack tree session.cwd settings.schemaPath) } := by
  rw [loadWorkspace]
  cases hload : Settings.load session.host.stack tree session.cwd environment root with
  | error fault => simp [Except.toOption, Snapshot.settle_none]
  | ok report =>
    have hschema := session.schema.load_fst session.host.stack tree session.cwd
      report.settings.schemaPath
    simp only [Except.toOption, Option.map_some, Option.getD_some, ← hschema]
    cases (session.schema.load session.host.stack tree session.cwd
      report.settings.schemaPath).2 <;> rfl

/-- What a call does to the host, the directory, the settings and the schema of a session.
Everything about runs follows from this. -/
theorem perform_state (call : Call) :
    (session.perform call).1.host = session.host ∧
      (session.perform call).1.cwd = session.cwd ∧
      (session.perform call).1.settings =
        (call.settings? session.host session.cwd).getD session.settings ∧
      (session.perform call).1.schema =
        session.schema.settle (call.attempt? session.host session.cwd) := by
  cases call with
  | load tree path =>
    exact ⟨rfl, rfl, rfl, session.schema.load_fst session.host.stack tree session.cwd path⟩
  | loadWorkspace tree environment root =>
    have hnext : (session.perform (.loadWorkspace tree environment root)).1 = _ :=
      session.loadWorkspace_fst tree environment root
    rw [hnext]
    exact ⟨rfl, rfl, rfl, rfl⟩
  | initialized tree environment rootUri =>
    simp only [perform, initialized, Call.settings?, Call.attempt?]
    cases rootOf session.host.uris session.cwd rootUri with
    | error cause => exact ⟨rfl, rfl, rfl, (session.schema.settle_none).symm⟩
    | ok root =>
      have hnext := loadWorkspace_fst { session with documents := [] } tree environment root
      rw [hnext]
      exact ⟨rfl, rfl, rfl, rfl⟩
  | openDocument uri text =>
    have hschema := (session.schema.settle_none).symm
    simp only [perform, openDocument]
    cases session.host.uris.documentPath uri with
    | error cause => exact ⟨rfl, rfl, rfl, hschema⟩
    | ok path => exact ⟨rfl, rfl, rfl, hschema⟩
  | _ => exact ⟨rfl, rfl, rfl, (session.schema.settle_none).symm⟩

theorem perform_of_isReadOnly {call : Call} (hcall : call.isReadOnly = true) :
    (session.perform call).1 = session := by
  cases call <;> first | rfl | cases hcall

/-! ## All calls of a run -/

theorem after_host (calls : List Call) : (session.after calls).host = session.host := by
  induction calls generalizing session with
  | nil => rfl
  | cons call rest ih => rw [after_cons, ih, (session.perform_state call).1]

theorem after_cwd (calls : List Call) : (session.after calls).cwd = session.cwd := by
  induction calls generalizing session with
  | nil => rfl
  | cons call rest ih => rw [after_cons, ih, (session.perform_state call).2.1]

/-- The last settings that were loaded count. -/
theorem after_settings (calls : List Call) :
    (session.after calls).settings =
      ((calls.filterMap (Call.settings? session.host session.cwd)).getLast?).getD
        session.settings := by
  induction calls generalizing session with
  | nil => rfl
  | cons call rest ih =>
    obtain ⟨hhost, hcwd, hsettings, _⟩ := session.perform_state call
    rw [after_cons, ih, hhost, hcwd, hsettings]
    cases hcall : call.settings? session.host session.cwd with
    | none => rw [List.filterMap_cons_none hcall, Option.getD_none]
    | some loaded =>
      rw [List.filterMap_cons_some hcall, List.getLast?_cons, Option.getD_some, Option.getD_some]

/-- The first attempt to load a schema counts. -/
theorem after_schema (calls : List Call) :
    (session.after calls).schema =
      session.schema.settle (calls.findSome? (Call.attempt? session.host session.cwd)) := by
  induction calls generalizing session with
  | nil => exact (session.schema.settle_none).symm
  | cons call rest ih =>
    obtain ⟨hhost, hcwd, _, hschema⟩ := session.perform_state call
    rw [after_cons, ih, hhost, hcwd, hschema, List.findSome?_cons]
    cases hcall : call.attempt? session.host session.cwd with
    | none => rw [Snapshot.settle_none]
    | some outcome => exact Snapshot.settle_settle (Call.attempt?_ne_pending hcall) _ _

end Session

end MolangAssist
