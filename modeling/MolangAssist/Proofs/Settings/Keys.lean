import MolangAssist.Proofs.Json.NestedLists
import MolangAssist.Proofs.Settings.Variables

/-!
# The keys of a settings file

Each of the four settings depends on the value under its own key alone. A bad value keeps the
default and is reported once, behind the variables that have no value. Only the depth of the whole
object concerns all keys: if the stack is not enough for it, nothing is loaded.
-/
namespace MolangAssist.Settings

open Files Json Text

/-- The keys that count, in the order in which problems with them are reported. -/
inductive Key where
  | schemaPath
  | contextFolders
  | defaultRuntime
  | searchLimit
deriving Repr, DecidableEq

namespace Key

def all : List Key := [.schemaPath, .contextFolders, .defaultRuntime, .searchLimit]

def name : Key → String
  | .schemaPath => "schemaPath"
  | .contextFolders => "contextFolders"
  | .defaultRuntime => "defaultRuntime"
  | .searchLimit => "workspaceSearchLimit"

def complaint : Key → String
  | .schemaPath => "schemaPath must be a non-empty string"
  | .contextFolders => "contextFolders must be a list of folder names"
  | .defaultRuntime => "defaultRuntime must be a runtime id string"
  | .searchLimit => "workspaceSearchLimit must be a positive integer"

/-- The values that are valid under a key. -/
def accepts : Key → Value → Bool
  | .schemaPath, .text s => s != ""
  | .contextFolders, .list _ => true
  | .defaultRuntime, .text s => s != ""
  | .searchLimit, .int n => 0 < n
  | _, _ => false

/-- The values that are reported under a key: null is not. -/
def refuses (key : Key) : Value → Bool
  | .null => false
  | v => !key.accepts v

/-- Two settings are alike in what a key stands for. -/
def Alike (first second : Settings) : Key → Prop
  | .schemaPath => first.schemaPath = second.schemaPath
  | .contextFolders => first.contextFolders = second.contextFolders
  | .defaultRuntime => first.defaultRuntime = second.defaultRuntime
  | .searchLimit => first.searchLimit = second.searchLimit

/-- The settings hold what a valid value under a key stands for. A path that is not absolute is
seen from the root. Of a list of folders, the texts that are not empty count, in order. -/
def Holds (settings : Settings) (root : Path) : Key → Value → Prop
  | .schemaPath, .text s =>
    settings.schemaPath =
      some (if (Path.ofString s).isAbsolute then Path.ofString s
        else root.below (Path.ofString s).parts)
  | .contextFolders, .list items =>
    settings.contextFolders = (items.filterMap Value.text?).filter (· != "")
  | .defaultRuntime, .text s => settings.defaultRuntime = some s
  | .searchLimit, .int n => settings.searchLimit = n
  | _, _ => False

end Key

/-- What all settings satisfy that are read from a file. -/
structure Sound (settings : Settings) : Prop where
  folders : ∀ folder ∈ settings.contextFolders, folder ≠ ""
  runtime : settings.defaultRuntime ≠ some ""
  limit : 0 < settings.searchLimit

/-! ## Readings

The readers of the single settings have one form: a missing value and null are absent, and any
other value is good or bad as the key has it. -/

namespace Reading

variable {α : Type}

def good? : Reading α → Option α
  | .good value => some value
  | _ => none

theorem getD_eq_good? (default : α) (reading : Reading α) :
    reading.getD default = reading.good?.getD default := by
  cases reading <;> rfl

end Reading

namespace Key

variable {α : Type} {key : Key} {convert : Value → α} {value : Option Value}

def reading (key : Key) (convert : Value → α) : Option Value → Reading α
  | none => .absent
  | some .null => .absent
  | some v => if key.accepts v then .good (convert v) else .bad

def textIn (v : Value) : String := v.text?.getD ""

def foldersIn : Value → List String
  | .list items => (items.filterMap Value.text?).filter (· != "")
  | _ => []

def limitIn : Value → Int
  | .int n => n
  | _ => 0

theorem readText_eq (hkey : key = .schemaPath ∨ key = .defaultRuntime) (value : Option Value) :
    readText value = key.reading textIn value := by
  rcases value with _ | (_ | _ | _ | _ | s | _ | _) <;> rcases hkey with rfl | rfl <;> try rfl
  all_goals by_cases hs : s = "" <;> simp [readText, reading, accepts, textIn, Value.text?, hs]

theorem readFolders_eq (value : Option Value) :
    readFolders value = contextFolders.reading foldersIn value := by
  rcases value with _ | (_ | _ | _ | _ | _ | items | _) <;> try rfl
  simp only [readFolders, reading, accepts, foldersIn, if_true, List.filter_filterMap]
  congr 2
  funext item
  cases item with
  | text s => by_cases hs : s = "" <;> simp [Value.text?, Option.filter, hs]
  | _ => rfl

theorem readLimit_eq (value : Option Value) :
    readLimit value = searchLimit.reading limitIn value := by
  rcases value with _ | (_ | _ | n | _ | _ | _ | _) <;> try rfl
  by_cases hn : 0 < n <;> simp [readLimit, reading, accepts, limitIn, hn]

theorem good?_reading :
    (key.reading convert value).good? = (value.filter key.accepts).map convert := by
  rcases value with _ | v
  · rfl
  · cases v with
    | null => cases key <;> rfl
    | _ =>
      simp only [reading, Option.filter_some]
      split <;> rfl

theorem warning_reading (text : String) :
    (key.reading convert value).warning text = if value.any key.refuses then [text] else [] := by
  rcases value with _ | v
  · rfl
  · cases v with
    | null => rfl
    | _ =>
      simp only [reading, refuses, Option.any_some]
      split <;> simp_all [Reading.warning]

end Key

/-! ## One key at a time -/

theorem flatMap_singleton_if {α β : Type} (p : α → Bool) (f : α → β) (items : List α) :
    (items.flatMap fun item => if p item then [f item] else []) = (items.filter p).map f := by
  induction items with
  | nil => rfl
  | cons item rest ih => by_cases hp : p item = true <;> simp [hp, ih]

section

variable (environment : Table String) (root : Path) (fields : List (String × Value))

/-- The value under a key after substitution. -/
def valueUnder (key : Key) : Option Value :=
  (Table.get? fields key.name).map (substitute (knownVariables environment root))

/-- The value under a key, if it is valid there. -/
def validUnder (key : Key) : Option Value :=
  (valueUnder environment root fields key).filter key.accepts

/-- The report on a key: one line if its value is refused, and else none. -/
def complaints (key : Key) : List String :=
  if (valueUnder environment root fields key).any key.refuses then [key.complaint] else []

theorem schemaPath_ofFields :
    (ofFields environment root fields).schemaPath =
      (validUnder environment root fields .schemaPath).map fun v =>
        root.join (Path.ofString (Key.textIn v)) := by
  have hread : (ofFields environment root fields).schemaPath =
      (readText (valueUnder environment root fields .schemaPath)).good?.map fun path =>
        root.join (Path.ofString path) := by
    simp only [ofFields, valueUnder, Key.name, get?_substituteFields]
    split <;> simp_all [Reading.good?]
  rw [hread, Key.readText_eq (.inl rfl), Key.good?_reading, Option.map_map]
  rfl

theorem contextFolders_ofFields :
    (ofFields environment root fields).contextFolders =
      ((validUnder environment root fields .contextFolders).map Key.foldersIn).getD
        Script.defaultFolders := by
  simp only [ofFields, get?_substituteFields, Reading.getD_eq_good?, Key.readFolders_eq,
    Key.good?_reading, validUnder, valueUnder, Key.name]

theorem defaultRuntime_ofFields :
    (ofFields environment root fields).defaultRuntime =
      (validUnder environment root fields .defaultRuntime).map Key.textIn := by
  have hread : (ofFields environment root fields).defaultRuntime =
      (readText (valueUnder environment root fields .defaultRuntime)).good? := by
    simp only [ofFields, valueUnder, Key.name, get?_substituteFields]
    split <;> simp_all [Reading.good?]
  rw [hread, Key.readText_eq (.inr rfl), Key.good?_reading, validUnder]

theorem searchLimit_ofFields :
    (ofFields environment root fields).searchLimit =
      ((validUnder environment root fields .searchLimit).map Key.limitIn).getD
        defaultSearchLimit := by
  simp only [ofFields, get?_substituteFields, Reading.getD_eq_good?, Key.readLimit_eq,
    Key.good?_reading, validUnder, valueUnder, Key.name]

/-- Unset variables come first, in the order of the texts that refer to them. -/
theorem warnings_ofFields :
    (ofFields environment root fields).warnings =
      ((textsWithinFields fields).flatMap fun s =>
          (referredNames s).filter (isUnset environment)).map unsetWarning
        ++ (Key.all.filter fun key =>
          (valueUnder environment root fields key).any key.refuses).map Key.complaint := by
  have hunset : unsetWithinFields (knownVariables environment root) fields =
      (textsWithinFields fields).flatMap fun s =>
        (referredNames s).filter (isUnset environment) := by
    rw [unsetWithinFields_eq]
    congr 1
    funext s
    exact unsetVariables_eq environment root s
  have hschema : (readText (valueUnder environment root fields .schemaPath)).warning
      Key.schemaPath.complaint = complaints environment root fields .schemaPath := by
    rw [Key.readText_eq (.inl rfl), Key.warning_reading, complaints]
  have hfolders : (readFolders (valueUnder environment root fields .contextFolders)).warning
      Key.contextFolders.complaint = complaints environment root fields .contextFolders := by
    rw [Key.readFolders_eq, Key.warning_reading, complaints]
  have hruntime : (readText (valueUnder environment root fields .defaultRuntime)).warning
      Key.defaultRuntime.complaint = complaints environment root fields .defaultRuntime := by
    rw [Key.readText_eq (.inr rfl), Key.warning_reading, complaints]
  have hlimit : (readLimit (valueUnder environment root fields .searchLimit)).warning
      Key.searchLimit.complaint = complaints environment root fields .searchLimit := by
    rw [Key.readLimit_eq, Key.warning_reading, complaints]
  have hkeys : ((Key.all.filter fun key =>
      (valueUnder environment root fields key).any key.refuses).map Key.complaint) =
        Key.all.flatMap (complaints environment root fields) :=
    (flatMap_singleton_if _ _ _).symm
  rw [hkeys, Key.all]
  simp only [List.flatMap_cons, List.flatMap_nil, List.append_nil, ← hschema, ← hfolders,
    ← hruntime, ← hlimit]
  simp only [ofFields, hunset, get?_substituteFields, valueUnder, Key.name, Key.complaint,
    List.append_assoc]

theorem alike_default {key : Key}
    (hkey : ∀ v ∈ valueUnder environment root fields key, key.accepts v = false) :
    key.Alike (ofFields environment root fields) { root := root } := by
  have hvalid : validUnder environment root fields key = none := by
    rw [validUnder, Option.filter_eq_none_iff]
    intro v hv
    simp [hkey v hv]
  cases key with
  | schemaPath => simp [Key.Alike, schemaPath_ofFields, hvalid]
  | contextFolders => simp [Key.Alike, contextFolders_ofFields, hvalid]
  | defaultRuntime => simp [Key.Alike, defaultRuntime_ofFields, hvalid]
  | searchLimit => simp [Key.Alike, searchLimit_ofFields, hvalid]

theorem holds_of_accepts {key : Key} {v : Value}
    (hvalue : valueUnder environment root fields key = some v) (hv : key.accepts v = true) :
    key.Holds (ofFields environment root fields) root v := by
  have hvalid : validUnder environment root fields key = some v := by
    rw [validUnder, hvalue, Option.filter_some, if_pos hv]
  cases key with
  | schemaPath =>
    cases v with
    | text s =>
      rw [Key.Holds, schemaPath_ofFields, hvalid]
      rfl
    | _ => cases hv
  | contextFolders =>
    cases v with
    | list items =>
      rw [Key.Holds, contextFolders_ofFields, hvalid]
      rfl
    | _ => cases hv
  | defaultRuntime =>
    cases v with
    | text s =>
      rw [Key.Holds, defaultRuntime_ofFields, hvalid]
      rfl
    | _ => cases hv
  | searchLimit =>
    cases v with
    | int n =>
      rw [Key.Holds, searchLimit_ofFields, hvalid]
      rfl
    | _ => cases hv

theorem alike_of_valueUnder_eq {environment' : Table String} {fields' : List (String × Value)}
    {key : Key}
    (hsame : valueUnder environment' root fields' key = valueUnder environment root fields key) :
    key.Alike (ofFields environment' root fields') (ofFields environment root fields) := by
  have hvalid : validUnder environment' root fields' key =
      validUnder environment root fields key := by
    rw [validUnder, validUnder, hsame]
  cases key with
  | schemaPath => rw [Key.Alike, schemaPath_ofFields, schemaPath_ofFields, hvalid]
  | contextFolders => rw [Key.Alike, contextFolders_ofFields, contextFolders_ofFields, hvalid]
  | defaultRuntime => rw [Key.Alike, defaultRuntime_ofFields, defaultRuntime_ofFields, hvalid]
  | searchLimit => rw [Key.Alike, searchLimit_ofFields, searchLimit_ofFields, hvalid]

end

/-! ## Settings files -/

theorem sound_default (root : Path) : Sound { root := root } where
  folders := by simp [Script.defaultFolders]
  runtime := by simp
  limit := by simp [defaultSearchLimit]

theorem sound_ofFields (environment : Table String) (root : Path)
    (fields : List (String × Value)) : Sound (ofFields environment root fields) where
  folders := by
    rw [contextFolders_ofFields]
    cases hvalid : validUnder environment root fields .contextFolders with
    | none => exact (sound_default root).folders
    | some v => cases v <;> simp [Key.foldersIn]
  runtime := by
    rw [defaultRuntime_ofFields]
    cases hvalid : validUnder environment root fields .defaultRuntime with
    | none => simp
    | some v =>
      have hv := (Option.filter_eq_some_iff.mp hvalid).2
      cases v <;> simp_all [Key.accepts, Key.textIn, Value.text?]
  limit := by
    rw [searchLimit_ofFields]
    cases hvalid : validUnder environment root fields .searchLimit with
    | none => exact (sound_default root).limit
    | some v =>
      have hv := (Option.filter_eq_some_iff.mp hvalid).2
      cases v <;> simp_all [Key.accepts, Key.limitIn]

theorem sound_load {stack : Stack} {tree : Tree} {cwd : Place} {environment : Table String}
    {root : Path} {report : Report} (hload : load stack tree cwd environment root = .ok report) :
    Sound report.settings := by
  simp only [load] at hload
  split at hload
  · cases hload
  · cases hload
    exact sound_default root
  · split at hload
    · cases hload
      exact sound_default root
    · simp only [ofText] at hload
      split at hload
      · cases hload
      · cases hload
        exact sound_default root
      · split at hload <;> cases hload
        exact sound_ofFields environment root _
      · cases hload
        exact sound_default root

theorem exists?_of_readText {tree : Tree} {cwd : Place} {path text : String}
    (htext : tree.readText cwd path = .ok text) : tree.exists? cwd path = .ok true := by
  rw [Tree.readText] at htext
  cases hfind : tree.find cwd path with
  | error cause => simp [hfind] at htext
  | ok found =>
    rw [Tree.exists?, Tree.probe, hfind]
    rfl

theorem load_of_object {stack : Stack} {tree : Tree} {cwd : Place} {root : Path} {text : String}
    {fields : List (String × Value)}
    (htext : tree.readText cwd (root.below [settingsFile]).toString = .ok text)
    (hobject : Json.readFile stack text = .ok (.object fields)) (environment : Table String) :
    load stack tree cwd environment root =
      if stack.frames < substitutionCalls stack (.object fields) then .error .tooDeep
      else .ok { settings := ofFields environment root fields
                 warnings := (ofFields environment root fields).warnings } := by
  simp only [load, exists?_of_readText htext, htext, ofText, hobject]

/-- Every item of a list of folders is substituted; an item that refers to an unset variable is
left out, and its neighbours stay in order. -/
theorem contextFolders_of_list (environment : Table String) (root : Path)
    {fields : List (String × Value)} {items : List Value}
    (hitems : Table.get? fields Key.contextFolders.name = some (.list items)) :
    (ofFields environment root fields).contextFolders =
      (((items.filterMap Value.text?).filter fun s =>
        !(referredNames s).any (isUnset environment)).map
          (expand (knownVariables environment root))).filter (· != "") := by
  have hvalue : valueUnder environment root fields .contextFolders =
      some (.list (items.map (substitute (knownVariables environment root)))) := by
    rw [valueUnder, hitems, Option.map_some, substitute, substituteItems_eq_map]
  rw [← texts_substituteItems]
  exact holds_of_accepts environment root fields hvalue rfl

/-- Each setting depends on the value under its own key alone, after substitution: it holds what a
valid value stands for and its default otherwise. In a list every item is substituted, and one that
refers to an unset variable is no folder. All problems are reported, each of them once. The settings
are loaded if the stack is enough to put variables into the whole object. -/
theorem ofFields_keys_independent (environment : Table String) (root : Path)
    (fields : List (String × Value)) :
    let settings := ofFields environment root fields
    let vars := knownVariables environment root
    let value := fun key : Key => (Table.get? fields key.name).map (substitute vars)
    (∀ stack tree cwd text, tree.readText cwd (root.below [settingsFile]).toString = .ok text →
      Json.readFile stack text = .ok (.object fields) →
        load stack tree cwd environment root =
          if stack.frames < substitutionCalls stack (.object fields) then .error .tooDeep
          else .ok { settings := settings, warnings := settings.warnings }) ∧
    (∀ key : Key, (∀ v ∈ value key, key.accepts v = false) →
      key.Alike settings { root := root }) ∧
    (∀ (key : Key) (v : Value), value key = some v → key.accepts v = true →
      key.Holds settings root v) ∧
    (∀ items, substitute vars (.list items) = .list (items.map (substitute vars))) ∧
    (∀ items, Table.get? fields Key.contextFolders.name = some (.list items) →
      settings.contextFolders =
        (((items.filterMap Value.text?).filter fun s =>
          !(referredNames s).any (isUnset environment)).map (expand vars)).filter (· != "")) ∧
    settings.Sound ∧
    settings.warnings =
      ((textsWithinFields fields).flatMap fun s =>
          (referredNames s).filter (isUnset environment)).map unsetWarning
        ++ (Key.all.filter fun key => (value key).any key.refuses).map Key.complaint ∧
    ∀ (environment' : Table String) (fields' : List (String × Value)) (key : Key),
      (Table.get? fields' key.name).map (substitute (knownVariables environment' root)) =
          value key →
        key.Alike (ofFields environment' root fields') settings := by
  intro settings vars value
  refine ⟨fun stack tree cwd text htext hobject => load_of_object htext hobject environment,
    fun key => alike_default environment root fields,
    fun key v => holds_of_accepts environment root fields,
    fun items => by rw [substitute, substituteItems_eq_map],
    fun items => contextFolders_of_list environment root,
    sound_ofFields environment root fields, warnings_ofFields environment root fields,
    fun environment' fields' key => alike_of_valueUnder_eq environment root fields⟩

/-- An unset variable under a key that does not count, a path behind a variable, folders of which
one refers to an unset variable and one is a number, and a number in place of a runtime. -/
def mixedText : String :=
  "\x7b\"a\":[\"$NO\"],\"schemaPath\":\"$DIR\",\"contextFolders\":[\"to/$DIR\",\"x$NO\",7],"
    ++ "\"defaultRuntime\":7\x7d"

def mixedFields : List (String × Value) :=
  [("a", .list [.text "$NO"]), ("schemaPath", .text "$DIR"),
    ("contextFolders", .list [.text "to/$DIR", .text "x$NO", .int 7]),
    ("defaultRuntime", .int 7)]

theorem ofFields_keys_independent_mixed :
    let tree : Tree := { entries := [([settingsFile], .file mixedText.toUTF8)] }
    let settings := ofFields [("DIR", "sub")] ⟨.root, []⟩ mixedFields
    load .usual tree [] [("DIR", "sub")] ⟨.root, []⟩ =
        .ok { settings := settings, warnings := settings.warnings } ∧
      settings.schemaPath = some ⟨.root, ["sub"]⟩ ∧
      settings.contextFolders = ["to/sub"] ∧
      settings.defaultRuntime = none ∧
      settings.warnings =
        [unsetWarning "NO", unsetWarning "NO", Key.defaultRuntime.complaint] := by
  intro tree settings
  obtain ⟨hload, hdefault, hholds, _, hfolders, _, hwarnings, _⟩ :=
    ofFields_keys_independent [("DIR", "sub")] ⟨.root, []⟩ mixedFields
  refine ⟨hload .usual tree [] mixedText rfl rfl, hholds .schemaPath (.text "sub") rfl (by decide),
    ?_, hdefault .defaultRuntime ?_, ?_⟩
  · rw [hfolders _ rfl]
    rfl
  · rintro v ⟨⟩
    rfl
  · rw [hwarnings]
    rfl

/-! ## An object that is too deep -/

/-- The start of a settings file with a runtime and lists within a list under another key. -/
def crowdedStart : String := "\x7b\"defaultRuntime\":\"event:A\",\"x\":["

def crowdedText (levels : Nat) : String :=
  String.ofList (crowdedStart.toList ++ (brackets levels ++ [']', '\x7d']))

def crowdedFields (levels : Nat) : List (String × Value) :=
  [("defaultRuntime", .text "event:A"), ("x", listWithin levels)]

theorem readFile_crowdedText {levels : Nat} (hlevels : levels < 985) :
    Json.readFile .usual (crowdedText levels) = .ok (.object (crowdedFields levels)) := by
  have hstart : Json.readFile .usual (crowdedText levels) =
      readFrom ⟨986, maxDigits⟩ (.value []) 0
        (crowdedStart.toList ++ (brackets levels ++ [']', '\x7d'])) := by
    rw [Json.readFile, if_neg (by decide), Json.read, crowdedText, String.toList_ofList]
    rfl
  have hprefix : ∀ tail, readFrom ⟨986, maxDigits⟩ (.value []) 0 (crowdedStart.toList ++ tail) =
      readFrom ⟨986, maxDigits⟩
        (.firstItem [.fields [("defaultRuntime", .text "event:A")] "x"]) 0 tail := fun _ => rfl
  rw [hstart, hprefix, readFrom_brackets _ (Nat.add_comm _ _ ▸ Nat.succ_lt_succ hlevels)]
  rfl

theorem substitutionCalls_listWithin (stack : Stack) (levels : Nat) :
    substitutionCalls stack (listWithin levels) = 2 * (levels + 1) := by
  induction levels with
  | zero => rfl
  | succ levels ih =>
    rw [listWithin, substitutionCalls, substitutionCallsItems, substitutionCallsItems, ih]
    omega

theorem lt_substitutionCalls_crowdedFields (stack : Stack) (levels : Nat) :
    2 * levels < substitutionCalls stack (.object (crowdedFields levels)) := by
  have hlists := substitutionCalls_listWithin stack levels
  simp only [crowdedFields, substitutionCalls, substitutionCallsFields, hlists]
  omega

theorem return_not_mem_crowdedText (levels : Nat) : '\r' ∉ (crowdedText levels).toList := by
  have hstart : '\r' ∉ crowdedStart.toList := by decide
  simp [crowdedText, hstart, return_not_mem_brackets]

/-- The text of a settings file that stands alone in a tree. -/
theorem readText_settingsFile {text : String} (htext : '\r' ∉ text.toList) :
    Tree.readText { entries := [([settingsFile], .file text.toUTF8)] } []
      (Path.below ⟨.root, []⟩ [settingsFile]).toString = .ok text := by
  have hfind : Tree.find { entries := [([settingsFile], .file text.toUTF8)] } []
      (Path.below ⟨.root, []⟩ [settingsFile]).toString =
        .ok ([settingsFile], .file text.toUTF8) := rfl
  rw [Tree.readText, hfind]
  simp only [decodeFile?_toUTF8 htext]

/-- The lists under one key take all settings with them, though the file is read. -/
theorem load_fails_on_unrelated_key :
    let tree : Tree := { entries := [([settingsFile], .file (crowdedText 700).toUTF8)] }
    Json.readFile .usual (crowdedText 700) = .ok (.object (crowdedFields 700)) ∧
      (ofFields [] ⟨.root, []⟩ (crowdedFields 700)).defaultRuntime = some "event:A" ∧
      load .usual tree [] [] ⟨.root, []⟩ = .error .tooDeep := by
  intro tree
  have hobject : Json.readFile .usual (crowdedText 700) = .ok (.object (crowdedFields 700)) :=
    readFile_crowdedText (by decide)
  have htext : tree.readText [] (Path.below ⟨.root, []⟩ [settingsFile]).toString =
      .ok (crowdedText 700) := readText_settingsFile (return_not_mem_crowdedText 700)
  refine ⟨hobject, rfl, ?_⟩
  rw [load_of_object htext hobject, if_pos]
  have hcalls := lt_substitutionCalls_crowdedFields .usual 700
  exact Nat.lt_trans (by decide) hcalls

end MolangAssist.Settings
