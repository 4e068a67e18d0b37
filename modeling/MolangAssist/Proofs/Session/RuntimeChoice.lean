import MolangAssist.Proofs.Script.RuntimeSources
import MolangAssist.Proofs.Session.Calls
import MolangAssist.Proofs.Settings.Keys

/-!
# The runtime of a script in a session

Four sources are asked in turn for the runtime of a script: its annotations, the folders of its
path, runtimes that its path mentions, and the settings. Whatever they answer is declared and not
empty, in every session that calls can lead to.
-/
namespace MolangAssist

open Files Schema Script Text

/-! ## Settings of a session -/

theorem Call.exists_load_of_settings? {host : Host} {cwd : Place} {call : Call}
    {settings : Settings} (hcall : call.settings? host cwd = some settings) :
    ∃ tree environment root report,
      Settings.load host.stack tree cwd environment root = .ok report ∧
        report.settings = settings := by
  have hload : ∀ tree environment root,
      (Settings.load host.stack tree cwd environment root).toOption.map
        Settings.Report.settings = some settings →
      ∃ report, Settings.load host.stack tree cwd environment root = .ok report ∧
        report.settings = settings := by
    intro tree environment root hsome
    cases hresult : Settings.load host.stack tree cwd environment root with
    | error fault => simp [hresult, Except.toOption] at hsome
    | ok report =>
      rw [hresult] at hsome
      exact ⟨report, rfl, Option.some.inj hsome⟩
  cases call with
  | loadWorkspace tree environment root =>
    exact ⟨tree, environment, root, hload tree environment root hcall⟩
  | initialized tree environment rootUri =>
    obtain ⟨root, _, hroot⟩ := Option.bind_eq_some_iff.mp hcall
    exact ⟨tree, environment, root, hload tree environment root hroot⟩
  | _ => cases hcall

theorem Session.sound_after (host : Host) (cwd : Place) (calls : List Call) :
    ((Session.start host cwd).after calls).settings.Sound := by
  rw [after_settings]
  change ((calls.filterMap (Call.settings? host cwd)).getLast?.getD _).Sound
  cases hlast : (calls.filterMap (Call.settings? host cwd)).getLast? with
  | none => exact Settings.sound_default cwd.path
  | some settings =>
    obtain ⟨call, _, hcall⟩ := List.mem_filterMap.mp (List.mem_of_getLast? hlast)
    obtain ⟨tree, environment, root, report, hload, rfl⟩ := Call.exists_load_of_settings? hcall
    exact Settings.sound_load hload

/-! ## The four sources -/

/-- The sources of a runtime in the order in which they are asked. Those that look at the path
have nothing without one. -/
def runtimeSources (declared : List String) (settings : Settings) (text : String)
    (path : Option String) : List (String → Prop) :=
  [FirstNaming ((lines text.toList).take 10) LineNames declared,
    fun id => ∃ file, path = some file ∧ file ≠ "" ∧
      FirstNaming settings.contextFolders (FolderNames (normalizePath file)) declared id,
    fun id => ∃ file, path = some file ∧ file ≠ "" ∧
      FirstNaming declared (MentionNames (normalizePath file)) declared id,
    fun id => settings.defaultRuntime = some id ∧ id ∈ declared]

theorem bind_present?_eq_some_iff {α : Type} (path : Option String) (f : String → Option α)
    (a : α) :
    (present? path).bind f = some a ↔ ∃ file, path = some file ∧ file ≠ "" ∧ f file = some a := by
  simp [present?, Option.bind_eq_some_iff, Option.filter_eq_some_iff, and_assoc]

namespace Session

theorem runtimeFor?_eq_or (session : Session) (text : String) (path : Option String) :
    session.runtimeFor? text path =
      (runtimeFromContent? session.schema.document text.toList).or
        (((present? path).bind fun file =>
            (session.settings.contextFolders.filterMap (eventBelow? (normalizePath file))).find?
              (session.schema.document.runtimeNames.contains ·)).or
          (((present? path).bind fun file =>
              session.schema.document.runtimeNames.find? fun name =>
                !(fuzzyKey name).isEmpty && occursIn (fuzzyKey name) (normalizePath file)).or
            (session.settings.defaultRuntime.filter
              (session.schema.document.runtimeNames.contains ·)))) := by
  simp only [runtimeFor?, inferRuntime?, runtimeFromPath?]
  cases runtimeFromContent? session.schema.document text.toList with
  | some id => rfl
  | none =>
    cases present? path with
    | none => rfl
    | some file =>
      simp only [Option.bind_some, Option.none_or]
      cases (session.settings.contextFolders.filterMap (eventBelow? (normalizePath file))).find?
          (session.schema.document.runtimeNames.contains ·) with
      | some id => rfl
      | none =>
        simp only [Option.none_or]
        cases session.schema.document.runtimeNames.find? fun name =>
            !(fuzzyKey name).isEmpty && occursIn (fuzzyKey name) (normalizePath file) <;> rfl

theorem runtimeFor?_eq_some_iff (session : Session) (text : String) (path : Option String)
    (id : String) :
    session.runtimeFor? text path = some id ↔
      FirstAvailable
        (runtimeSources session.schema.document.runtimeNames session.settings text path) id := by
  rw [runtimeFor?_eq_or]
  refine firstAvailable_cons (runtimeFromContent?_eq_some_iff _ _)
    (firstAvailable_cons ?_ (firstAvailable_cons ?_ ?_)) id
  · intro id
    simp only [bind_present?_eq_some_iff, folders_find?_eq_some_iff]
  · intro id
    simp only [bind_present?_eq_some_iff, mentions_find?_eq_some_iff]
  · intro id
    simp [FirstAvailable, Option.filter_eq_some_iff]

end Session

/-! ## Soundness -/

theorem exists_mem_of_firstAvailable {sources : List (String → Prop)} {id : String}
    (hfirst : FirstAvailable sources id) : ∃ source ∈ sources, source id := by
  induction sources with
  | nil => cases hfirst
  | cons source rest ih =>
    rcases hfirst with hsource | ⟨_, hrest⟩
    · exact ⟨source, List.mem_cons_self, hsource⟩
    · obtain ⟨other, hother, hid⟩ := ih hrest
      exact ⟨other, List.mem_cons_of_mem source hother, hid⟩

theorem sound_of_mem_runtimeSources {declared : List String} {settings : Settings}
    (hsettings : settings.Sound) {text : String} {path : Option String} {source : String → Prop}
    (hsource : source ∈ runtimeSources declared settings text path) {id : String}
    (hid : source id) : id ≠ "" ∧ id ∈ declared := by
  simp only [runtimeSources, List.mem_cons, List.not_mem_nil, or_false] at hsource
  rcases hsource with rfl | rfl | rfl | rfl
  · obtain ⟨_, line, _, _, hline, hdeclared, _⟩ := hid
    exact ⟨LineNames.ne_empty hline, hdeclared⟩
  · obtain ⟨_, _, _, _, folder, _, _, hfolder, hdeclared, _⟩ := hid
    exact ⟨FolderNames.ne_empty hfolder, hdeclared⟩
  · obtain ⟨_, _, _, _, runtime, _, _, hmention, hdeclared, _⟩ := hid
    exact ⟨MentionNames.ne_empty hmention, hdeclared⟩
  · refine ⟨?_, hid.2⟩
    rintro rfl
    exact hsettings.runtime hid.1

theorem Schema.Snapshot.exists_document?_of_mem {snapshot : Snapshot} {id : String}
    (hid : id ∈ snapshot.document.runtimeNames) :
    ∃ doc, snapshot.document? = some doc ∧ id ∈ doc.runtimeNames := by
  cases snapshot with
  | held doc => exact ⟨doc, rfl, hid⟩
  | _ => cases hid

/-- In every session, the runtime of a script is a declared one, and it is what the first source
says that says anything. -/
theorem Session.runtimeFor?_first_available (host : Host) (cwd : Place) (calls : List Call)
    (text : String) (path : Option String) :
    let session := (Session.start host cwd).after calls
    (∀ id, session.runtimeFor? text path = some id →
      id ≠ "" ∧ ∃ doc, session.schema.document? = some doc ∧ id ∈ doc.runtimeNames) ∧
    ∀ id, session.runtimeFor? text path = some id ↔
      FirstAvailable
        (runtimeSources session.schema.document.runtimeNames session.settings text path) id := by
  intro session
  refine ⟨fun id hid => ?_, session.runtimeFor?_eq_some_iff text path⟩
  obtain ⟨source, hsource, hnamed⟩ :=
    exists_mem_of_firstAvailable ((session.runtimeFor?_eq_some_iff text path id).mp hid)
  obtain ⟨hempty, hdeclared⟩ :=
    sound_of_mem_runtimeSources (Session.sound_after host cwd calls) hsource hnamed
  exact ⟨hempty, Snapshot.exists_document?_of_mem hdeclared⟩

/-- Settings with a default runtime. -/
def defaultingTree : Tree :=
  { entries := [([settingsFile], .file "\x7b\"defaultRuntime\":\"event:LEVEL_UP\"\x7d".toUTF8)] }

/-- The annotation names no runtime. So the folder behind the marker decides, or else the runtime
that the path mentions, or else the settings. -/
theorem Session.runtimeFor?_first_available_folder :
    let session := (Session.start .usual []).after [.loadWorkspace defaultingTree [] ⟨.root, []⟩]
    let text := "t.a = 1;\n// @context event:OTHER"
    let sources := fun path =>
      runtimeSources session.schema.document.runtimeNames session.settings text (some path)
    (session.runtimeFor? text (some "w\\Callbacks/pokemon_captured/x.molang") =
        some "event:POKEMON_CAPTURED" ∧
      (∃ doc, session.schema.document? = some doc ∧ "event:POKEMON_CAPTURED" ∈ doc.runtimeNames) ∧
      FirstAvailable (sources "w\\Callbacks/pokemon_captured/x.molang")
        "event:POKEMON_CAPTURED") ∧
    FirstAvailable (sources "w/BattleVictory/x.molang") "event:BATTLE_VICTORY" ∧
    FirstAvailable (sources "w/x.molang") "event:LEVEL_UP" := by
  intro session text sources
  have hranked := fun path =>
    Session.runtimeFor?_first_available .usual [] [.loadWorkspace defaultingTree [] ⟨.root, []⟩]
      text (some path)
  have hfolder : session.runtimeFor? text (some "w\\Callbacks/pokemon_captured/x.molang") =
      some "event:POKEMON_CAPTURED" := by decide +kernel
  have hmention : session.runtimeFor? text (some "w/BattleVictory/x.molang") =
      some "event:BATTLE_VICTORY" := by decide +kernel
  have hdefault : session.runtimeFor? text (some "w/x.molang") = some "event:LEVEL_UP" := by
    decide +kernel
  exact ⟨⟨hfolder, ((hranked _).1 _ hfolder).2, ((hranked _).2 _).mp hfolder⟩,
    ((hranked _).2 _).mp hmention, ((hranked _).2 _).mp hdefault⟩

end MolangAssist
