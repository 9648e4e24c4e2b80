import GatedPipeline.CommandLine.Basic
import GatedPipeline.Proofs.BuiltGraph

namespace GatedPipeline

namespace Files

open JobGraph (bind_eq_ok map_eq_ok)

variable {f g : Files} {names steps place : List String} {path p content new : String}
  {e : Entry} {executable : Bool}

theorem entry?_set_self (h : path ≠ "/") : entry? (f.set path e) path = some e := by
  unfold entry?
  rw [if_neg h]
  exact Bindings.get?_insert_self path e f.entries

theorem entry?_set_of_ne (h : p ≠ path) : entry? (f.set path e) p = f.entry? p := by
  unfold entry?
  split
  · rfl
  · exact Bindings.get?_insert_of_ne h e f.entries

theorem sizeOf_congr (h : g.inBytes = f.inBytes) (s : String) : g.sizeOf s = f.sizeOf s := by
  rw [sizeOf, h, sizeOf]

theorem walk_cons_eq_ok {step : String} (h : f.walk names (step :: steps) = .ok place) :
    f.entry? (Path.ofNames names) = some .directory ∧ f.sizeOf step ≤ longestName ∧
      f.walk (Path.follow names step) steps = .ok place := by
  rw [walk] at h
  split at h
  · cases h
  · cases h
  · rename_i hdirectory
    split at h
    · cases h
    · rename_i hshort
      exact ⟨hdirectory, Nat.not_lt.mp hshort, h⟩

/-- A path leads to the same place where all directories have stayed. -/
theorem walk_of_directories (hbytes : g.inBytes = f.inBytes)
    (hkeep : ∀ p, f.entry? p = some .directory → g.entry? p = some .directory)
    (h : f.walk names steps = .ok place) : g.walk names steps = .ok place := by
  induction steps generalizing names with
  | nil => exact h
  | cons step steps ih =>
    obtain ⟨hdirectory, hshort, hrest⟩ := walk_cons_eq_ok h
    rw [walk, hkeep _ hdirectory]
    dsimp only
    rw [if_neg (Nat.not_lt.mpr (sizeOf_congr hbytes step ▸ hshort))]
    exact ih hrest

/-- The directories on a path that leads somewhere are there: none has to be made. -/
theorem ensureDirectories_of_walk (h : f.walk names steps = .ok place) :
    f.ensureDirectories names (steps.dropLast.filter (!·.isEmpty)) = .ok f := by
  induction steps generalizing names with
  | nil => rfl
  | cons step steps ih =>
    obtain ⟨-, -, hrest⟩ := walk_cons_eq_ok h
    cases steps with
    | nil => rfl
    | cons next steps =>
      have hdirectory := (walk_cons_eq_ok hrest).1
      rw [List.dropLast_cons_cons]
      by_cases hstep : step = ""
      · subst hstep
        exact ih hrest
      · rw [List.filter_cons_of_pos (by simpa using hstep), ensureDirectories,
          hdirectory]
        exact ih hrest

theorem locate_eq_ok {directory place : String} (h : f.locate directory path = .ok place) :
    path.isEmpty = false ∧ f.sizeOf path ≤ longestPath ∧
      ∃ names, f.walk (if Path.isAbsolute path then [] else Path.names directory)
        (Text.splitAt '/' path) = .ok names ∧ place = Path.ofNames names := by
  unfold locate at h
  split at h
  · cases h
  · rename_i hempty
    split at h
    · cases h
    · rename_i hshort
      exact ⟨by simpa using hempty, Nat.not_lt.mp hshort, map_eq_ok h⟩

theorem locate_of_directories {directory place : String} (hbytes : g.inBytes = f.inBytes)
    (hkeep : ∀ p, f.entry? p = some .directory → g.entry? p = some .directory)
    (h : f.locate directory path = .ok place) : g.locate directory path = .ok place := by
  obtain ⟨hempty, hshort, names, hwalk, rfl⟩ := locate_eq_ok h
  unfold locate
  rw [if_neg (by simp [hempty]), if_neg (Nat.not_lt.mpr (sizeOf_congr hbytes path ▸ hshort)),
    walk_of_directories hbytes hkeep hwalk]
  rfl

theorem find_eq_ok {directory place : String} (h : f.find directory path = .ok (place, e)) :
    f.locate directory path = .ok place ∧ f.entry? place = some e := by
  obtain ⟨found, hfound, h⟩ := bind_eq_ok h
  split at h
  · rename_i hentry
    cases h
    exact ⟨hfound, hentry⟩
  · cases h

/-- A file that is there is written in its place, and nothing else is touched. -/
theorem save_of_find {place : String}
    (h : f.find "/" path = .ok (place, .file content executable)) (new : String) :
    f.save path new = .ok (f.set place (.file new executable)) := by
  obtain ⟨hlocate, hentry⟩ := find_eq_ok h
  obtain ⟨-, -, names, hwalk, -⟩ := locate_eq_ok hlocate
  have hroot : (if Path.isAbsolute path then [] else Path.names "/") = [] := by
    split
    · rfl
    · decide
  rw [hroot] at hwalk
  have hfile : f.isDirectory place = false := by
    rw [isDirectory, hentry]
    rfl
  rw [save, ensureDirectories_of_walk hwalk]
  dsimp only [bind, Except.bind]
  rw [hlocate]
  dsimp only
  rw [hfile, write, hentry]
  rfl

/-- A file that has been written in its place is found under the same path. -/
theorem find_set {place : String}
    (h : f.find "/" path = .ok (place, .file content executable)) (new : String) :
    (f.set place (.file new executable)).find "/" path =
      .ok (place, .file new executable) := by
  obtain ⟨hlocate, hentry⟩ := find_eq_ok h
  have hroot : place ≠ "/" := by
    rintro rfl
    cases hentry
  have hkeep : ∀ p, f.entry? p = some .directory →
      entry? (f.set place (.file new executable)) p = some .directory := by
    intro p hp
    rw [entry?_set_of_ne, hp]
    rintro rfl
    cases hentry.symm.trans hp
  have hlocate' : (f.set place (.file new executable)).locate "/" path = .ok place :=
    locate_of_directories (f := f) rfl hkeep hlocate
  rw [find, hlocate']
  dsimp only [bind, Except.bind]
  rw [entry?_set_self hroot]

theorem read_of_find {place : String}
    (h : f.find "/" path = .ok (place, .file content executable)) :
    f.read "/" path = .ok content := by
  rw [read, h]
  rfl

end Files

namespace Settings

/-- The settings have the same values, except that of this key. -/
structure AgreeApart (key : String) (s t : Settings) : Prop where
  defaultPipeline : key ≠ "default_pipeline" → t.defaultPipeline = s.defaultPipeline
  workspace : key ≠ "workspace" → t.workspace = s.workspace
  secretsFile : key ≠ "secrets_file" → t.secretsFile = s.secretsFile
  secretEnvPrefix : key ≠ "secret_env_prefix" → t.secretEnvPrefix = s.secretEnvPrefix
  outputFormat : key ≠ "output_format" → t.outputFormat = s.outputFormat
  passthroughEnv : key ≠ "passthrough_env" → t.passthroughEnv = s.passthroughEnv
  stepTimeoutMinutes : key ≠ "step_timeout_minutes" → t.stepTimeoutMinutes = s.stepTimeoutMinutes

variable {key value : String} {s t : Settings} {fault : SettingFault}

theorem AgreeApart.of_set (h : s.set key value = .ok t) : AgreeApart key s t := by
  -- A case for each key: its own field is the one whose condition fails, the others are copied.
  unfold set at h
  repeat' split at h
  all_goals cases h
  all_goals constructor <;> simp [*]

/-- Whether a value is refused for a key does not depend on the settings. -/
theorem set_eq_error (h : s.set key value = .error fault) (t : Settings) :
    t.set key value = .error fault := by
  unfold set at h
  repeat' split at h
  all_goals cases h
  all_goals simp [set, *]

theorem load_of_read {content : String} (h : read? content = some s) : load (some content) = s := by
  rw [load, Option.bind_some, h, Option.getD_some]

end Settings

namespace CommandLine

namespace Machine

variable {m : Machine} {path place content key value : String} {executable : Bool}

@[simp] theorem files_prepared (m : Machine) : m.prepared.files = m.files := by
  unfold prepared
  split <;> rfl

/-- The setting is changed in what the file could be read as, and in the initial settings if it
could not. -/
theorem setSetting_of_find (hpath : m.settingsPath? = some path)
    (hfile : m.files.find "/" path = .ok (place, .file content executable)) (key value : String) :
    m.setSetting key value =
      match (Settings.load (some content)).set key value with
      | .error fault => m.fails (.plain fault.message)
      | .ok t => ⟨"✓ Set " ++ key ++ " = " ++ value ++ "\n", .ok 0,
          m.files.set place (.file t.write executable)⟩ := by
  have hcontent : m.settingsContent? = some content := by
    rw [settingsContent?, hpath, Option.bind_some, Files.read_of_find hfile]
    rfl
  rw [setSetting, hcontent, Settings.change]
  cases (Settings.load (some content)).set key value with
  | error fault => rfl
  | ok t =>
    dsimp only [Except.map]
    rw [hpath]
    dsimp only
    rw [Files.save_of_find hfile]

end Machine

variable {words : List String} {m : Machine} {key value path place content : String}
  {executable : Bool}

theorem execute_setConfig (hwords : Request.ofWords? words = some (.setConfig key value))
    (hpath : m.prepared.settingsPath? = some path)
    (hfile : m.files.find "/" path = .ok (place, .file content executable)) :
    execute words m =
      match (Settings.load (some content)).set key value with
      | .error fault => ("", "Error: " ++ fault.message ++ "\n", 1, m.files)
      | .ok t => ("✓ Set " ++ key ++ " = " ++ value ++ "\n", "", 0,
          m.files.set place (.file t.write executable)) := by
  have hanswer := m.prepared.setSetting_of_find hpath (by rwa [Machine.files_prepared]) key value
  have hrun : execute words m =
      ((m.prepared.setSetting key value).output, (m.prepared.setSetting key value).error,
        (m.prepared.setSetting key value).code, (m.prepared.setSetting key value).files) := by
    rw [execute, hwords]
    rfl
  rw [hrun, hanswer, ← Machine.files_prepared m]
  cases (Settings.load (some content)).set key value <;> rfl

/-- What a change of one setting promises about the file at a path with this content: it is refused
and the file is as it was, or the file then holds settings that agree with those that it held on all
other keys. -/
def KeepsOthers (key path content : String) (r : String × String × Nat × Files) : Prop :=
  (r.2.2.1 ≠ 0 ∧ r.2.1 ≠ "" ∧ r.2.2.2.read "/" path = .ok content) ∨
    ∃ held new changed, Settings.read? content = some held ∧ r.2.2.1 = 0 ∧
      r.2.2.2.read "/" path = .ok new ∧ Settings.read? new = some changed ∧
      Settings.AgreeApart key held changed

/-- Changing a setting in a file that is there keeps the others exactly if the file could be read,
or if the value is refused: of a file that cannot be read, only the initial settings are left. -/
theorem setting_change_keeps_others_iff
    (hwords : Request.ofWords? words = some (.setConfig key value))
    (hpath : m.prepared.settingsPath? = some path)
    (hfile : m.files.find "/" path = .ok (place, .file content executable))
    (hback : ∀ t, (Settings.load (some content)).set key value = .ok t →
      Settings.read? t.write = some t) :
    (KeepsOthers key path content (execute words m) ↔
      (Settings.read? content).isSome = true ∨
        ∃ fault, Settings.initial.set key value = .error fault) ∧
    match (Settings.load (some content)).set key value with
    | .error fault => execute words m = ("", "Error: " ++ fault.message ++ "\n", 1, m.files)
    | .ok t =>
      Settings.AgreeApart key (Settings.load (some content)) t ∧
        ∃ files, execute words m = ("✓ Set " ++ key ++ " = " ++ value ++ "\n", "", 0, files) ∧
          files.read "/" path = .ok t.write ∧
          ∀ p, p ≠ place → files.entry? p = m.files.entry? p := by
  have hexecute := execute_setConfig hwords hpath hfile
  cases hset : (Settings.load (some content)).set key value with
  | error fault =>
    rw [hset] at hexecute
    refine ⟨⟨fun _ => .inr ⟨fault, Settings.set_eq_error hset _⟩, fun _ => .inl ?_⟩, hexecute⟩
    rw [hexecute]
    exact ⟨Nat.one_ne_zero, by simp, Files.read_of_find hfile⟩
  | ok t =>
    rw [hset] at hexecute
    have hwritten := Files.read_of_find (Files.find_set hfile t.write)
    have hagree := Settings.AgreeApart.of_set hset
    refine ⟨⟨?_, ?_⟩, hagree, _, hexecute, hwritten, fun p => Files.entry?_set_of_ne⟩
    · rw [hexecute]
      rintro (⟨hcode, -⟩ | ⟨held, -, -, hheld, -⟩)
      · exact absurd rfl hcode
      · exact .inl (Option.isSome_of_eq_some hheld)
    · rintro (hread | ⟨fault, hfault⟩)
      · obtain ⟨held, hheld⟩ := Option.isSome_iff_exists.mp hread
        rw [hexecute]
        rw [Settings.load_of_read hheld] at hagree
        exact .inr ⟨held, t.write, t, hheld, rfl, hwritten, hback t hset, hagree⟩
      · cases hset.symm.trans (Settings.set_eq_error hfault _)

def settingsFile : String := "/home/dev/.config/ferrule/config.yaml"

def machineWith (content : String) : Machine where
  environment := [("HOME", "/home/dev")]
  directory := "/home/dev"
  files := Files.empty.put settingsFile (.file content false)
  runId := .fresh 0 0
  clock := 0

def chooseJson : List String := ["config", "set", "output_format", "json"]

def settledText : String :=
  "default_pipeline: ci.yaml\nworkspace: /srv/work\npassthrough_env:\n- PATH\n"

def settled : Settings :=
  { Settings.initial with
    defaultPipeline := "ci.yaml", workspace := some "/srv/work", passthroughEnv := ["PATH"] }

/-- The same text with one more line, which is no number of minutes. -/
def unsettledText : String := settledText ++ "step_timeout_minutes: soon\n"

theorem ofWords?_chooseJson :
    Request.ofWords? chooseJson = some (.setConfig "output_format" "json") := by decide +kernel

theorem settingsPath?_machineWith : ∀ content ∈ [settledText, unsettledText],
    (machineWith content).prepared.settingsPath? = some settingsFile := by
  simp only [Machine.settingsPath?, Machine.settingsRoot?, Environment.value?,
    String.contains_char_eq]
  decide +kernel

theorem find_machineWith : ∀ content ∈ [settledText, unsettledText],
    (machineWith content).files.find "/" settingsFile =
      .ok (settingsFile, .file content false) := by decide +kernel

/-- All three settings of the file stay. -/
theorem setting_change_keeps_others_iff_settled :
    KeepsOthers "output_format" settingsFile settledText
      (execute chooseJson (machineWith settledText)) := by
  have hheld : Settings.read? settledText = some settled := by decide +kernel
  have hset : (Settings.load (some settledText)).set "output_format" "json" =
      .ok { settled with outputFormat := .json } := by
    rw [Settings.load_of_read hheld]
    rfl
  refine (setting_change_keeps_others_iff ofWords?_chooseJson
    (settingsPath?_machineWith settledText (by simp)) (find_machineWith settledText (by simp))
    fun t ht => ?_).1.mpr (.inl (Option.isSome_of_eq_some hheld))
  cases hset.symm.trans ht
  decide +kernel

/-- One line that cannot be read is enough: a change of another setting takes all of them away. -/
theorem setting_change_forgets :
    ¬ KeepsOthers "output_format" settingsFile unsettledText
        (execute chooseJson (machineWith unsettledText)) ∧
      (execute chooseJson (machineWith unsettledText)).2.2.2.read "/" settingsFile =
        .ok { Settings.initial with outputFormat := .json }.write := by
  have hunread : Settings.read? unsettledText = none := by decide +kernel
  have hset : (Settings.load (some unsettledText)).set "output_format" "json" =
      .ok { Settings.initial with outputFormat := .json } := by
    rw [Settings.load, Option.bind_some, hunread]
    rfl
  have hfile := find_machineWith unsettledText (by simp)
  have hexecute := execute_setConfig ofWords?_chooseJson
    (settingsPath?_machineWith unsettledText (by simp)) hfile
  rw [hset] at hexecute
  rw [hexecute]
  refine ⟨?_, Files.read_of_find (Files.find_set hfile _)⟩
  rintro (⟨hcode, -⟩ | ⟨held, -, -, hheld, -⟩)
  · exact absurd rfl hcode
  · cases hunread.symm.trans hheld

end CommandLine

end GatedPipeline
