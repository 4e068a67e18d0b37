import MolangAssist.Proofs.Session.Calls

/-!
# One schema for a session

The first attempt to load a schema decides what a session knows, whatever happens to the files
later. Without a document, nothing is found by any question.
-/
namespace MolangAssist

open Files Schema Text

namespace Schema.Document

theorem queryVariables_empty (context : Option String) :
    ({} : Document).queryVariables context = [] := by
  rw [queryVariables]
  cases present? context <;> rfl

theorem functionsFor_empty (structType : Option String) :
    ({} : Document).functionsFor structType = [] := by
  rw [functionsFor]
  cases present? structType <;> rfl

theorem resolve?_empty (context : Option String) (path : List String) :
    ({} : Document).resolve? context path = none := by
  cases path with
  | nil => rfl
  | cons root names =>
    have hroot : ({} : Document).root? context root = none := by
      rw [root?, queryVariables_empty]
      rfl
    rw [resolve?, hroot]
    rfl

theorem member?_empty (context : Option String) (path : List String) :
    ({} : Document).member? context path = none := by
  match path with
  | [] => rfl
  | [name] =>
    rw [member?, queryVariables_empty]
    exact ite_self none
  | root :: next :: rest =>
    rw [member?, resolve?_empty]
    · exact List.cons_ne_nil root (next :: rest)
    · simp

end Schema.Document

namespace Schema.Snapshot

theorem isVoid_ask {snapshot : Snapshot} (hnone : snapshot.document? = none)
    (question : Question) : (snapshot.ask question).isVoid = true := by
  have hdocument : snapshot.document = {} := by
    rw [document, hnone]
    rfl
  cases question with
  | document => simp [ask, Reply.isVoid, hnone]
  | isLoaded => simp [ask, Reply.isVoid, isLoaded, hnone]
  | queryVariables context => simp [ask, Reply.isVoid, hdocument, Document.queryVariables_empty]
  | functionsFor structType => simp [ask, Reply.isVoid, hdocument, Document.functionsFor_empty]
  | resolution context path => simp [ask, Reply.isVoid, hdocument, Document.resolve?_empty]
  | member context path => simp [ask, Reply.isVoid, hdocument, Document.member?_empty]
  | _ => rw [ask, hdocument]; rfl

theorem failure?_of_document? {snapshot : Snapshot}
    (hheld : snapshot.document?.isSome = true) : snapshot.failure? = none := by
  cases snapshot with
  | failed why => cases hheld
  | _ => rfl

end Schema.Snapshot

/-- In every run, the schema is what came of the first attempt to load one, and the settings are
the last that were loaded. After the first attempt a schema is neither looked for nor exchanged,
and all questions about it keep their answers. Requests and questions change nothing. -/
theorem Session.schema_settled_by_first_attempt (host : Host) (cwd : Place) (calls : List Call) :
    let session := (Session.start host cwd).after calls
    session.schema = (calls.findSome? (Call.attempt? host cwd)).getD .pending ∧
    session.settings =
      ((calls.filterMap (Call.settings? host cwd)).getLast?).getD { root := cwd.path } ∧
    (session.schema.document?.isSome = true → session.schema.failure? = none) ∧
    (∀ call, Call.isReadOnly call = true → (session.perform call).1 = session) ∧
    (session.schema.document? = none →
      ∀ question, (session.schema.ask question).isVoid = true) ∧
    ∀ outcome, calls.findSome? (Call.attempt? host cwd) = some outcome →
      (∀ tree path, session.perform (.load tree path) =
        (session, .loaded (.done outcome.document?.isSome))) ∧
      (∀ tree environment root report,
        Settings.load host.stack tree cwd environment root = .ok report →
        session.perform (.loadWorkspace tree environment root) =
          ({ session with settings := report.settings }, .workspace (.ok ()))) ∧
      ∀ later, (session.after later).schema = outcome ∧
        ∀ question, ((session.after later).perform (.ask question)).2 =
          (session.perform (.ask question)).2 := by
  intro session
  have hhost : session.host = host := after_host (Session.start host cwd) calls
  have hcwd : session.cwd = cwd := after_cwd (Session.start host cwd) calls
  have hschema : session.schema = (calls.findSome? (Call.attempt? host cwd)).getD .pending :=
    after_schema (Session.start host cwd) calls
  refine ⟨hschema, after_settings (Session.start host cwd) calls, Snapshot.failure?_of_document?,
    fun call => session.perform_of_isReadOnly, Snapshot.isVoid_ask, ?_⟩
  intro outcome houtcome
  rw [houtcome, Option.getD_some] at hschema
  have hsettled : session.schema ≠ .pending := by
    obtain ⟨call, _, hcall⟩ := List.exists_of_findSome?_eq_some houtcome
    rw [hschema]
    exact Call.attempt?_ne_pending hcall
  have hload : ∀ tree path, session.schema.load session.host.stack tree session.cwd path =
      (session.schema, .done outcome.document?.isSome) := by
    intro tree path
    rw [Snapshot.load_of_ne_pending hsettled, hschema, Snapshot.isLoaded]
  refine ⟨?_, ?_, ?_⟩
  · intro tree path
    rw [perform, hload]
  · intro tree environment root report hreport
    rw [← hhost, ← hcwd] at hreport
    rw [perform, loadWorkspace]
    simp only [hreport, hload]
  · intro later
    have hlater : (session.after later).schema = session.schema := by
      rw [after_schema, Snapshot.settle_of_ne_pending hsettled]
    refine ⟨hlater.trans hschema, fun question => ?_⟩
    rw [perform, perform, hlater]

/-- The schema that comes with the library was loaded first, so that a missing file does no harm. -/
theorem Session.schema_settled_by_first_attempt_bundled :
    let missing : Path := Path.ofString "missing.json"
    let session := (Session.start .usual []).after [.ask .isLoaded, .load {} none]
    session.schema = .held bundled ∧
      session.perform (.load {} (some missing)) = (session, .loaded (.done true)) ∧
      ((session.after [.load {} (some missing)]).perform (.ask .isLoaded)).2 =
        .reply (.truth true) := by
  intro missing session
  obtain ⟨hschema, _, _, _, _, hsettled⟩ :=
    Session.schema_settled_by_first_attempt .usual [] [.ask .isLoaded, .load {} none]
  obtain ⟨hload, _, hlater⟩ := hsettled (.held bundled) rfl
  exact ⟨hschema, hload {} (some missing), (hlater [.load {} (some missing)]).2 .isLoaded⟩

end MolangAssist
