import BenchLog.Proofs.Delivery
import BenchLog.Proofs.Loop
import BenchLog.Proofs.SettingsFile

/-!
# Where the settings of a run come from

A setting is what the option for it gives, else what the settings file has in its place, else its default
(`Settings.Chosen`). This holds for each setting apart from the others (`CommandLine.Layered`), whichever
keys the file has. There are no settings only if the file is no settings file or an option is no duration
(`Program.settings_layered`).
-/

namespace BenchLog

variable {ω α : Type}

namespace Settings

/-- A setting is what its option gives, else what is read from its place in a document, else the
    default. -/
def Chosen (option? : Option ω) (readOption : ω → Option α) (value? : Option Toml.Value)
    (readValue : Toml.Value → Option α) (default setting : α) : Prop :=
  match option?, value? with
  | some option, _ => readOption option = some setting
  | none, some value => readValue value = some setting
  | none, none => setting = default

section Chosen

variable {option? : Option ω} {readOption : ω → Option α} {value? : Option Toml.Value}
variable {readValue : Toml.Value → Option α} {default : α}

theorem Chosen.unique {setting setting' : α}
    (h : Chosen option? readOption value? readValue default setting)
    (h' : Chosen option? readOption value? readValue default setting') : setting = setting' := by
  match option?, value? with
  | some option, _ => exact Option.some.inj (h.symm.trans h')
  | none, some value => exact Option.some.inj (h.symm.trans h')
  | none, none => exact h.trans h'.symm

theorem chosen_of_mapM {given? written? : Option α} (hgiven : option?.mapM readOption = some given?)
    (hwritten : value?.mapM readValue = some written?) (default : α) :
    Chosen option? readOption value? readValue default (given?.getD (written?.getD default)) := by
  match option?, value? with
  | some option, _ =>
      obtain ⟨given, hread, rfl⟩ := Option.map_eq_some_iff.mp hgiven
      exact hread
  | none, some value =>
      cases hgiven
      obtain ⟨written, hread, rfl⟩ := Option.map_eq_some_iff.mp hwritten
      exact hread
  | none, none =>
      cases hgiven
      cases hwritten
      rfl

end Chosen

end Settings

namespace CommandLine

/-! ## Arguments and environment -/

/-- Options with the environment below them: it gives the number of workers if they do not, and nothing
    else. -/
structure Completes (workersVariable : Option String) (given options : Options) : Prop where
  others : options = { given with workers := options.workers }
  argued : ∀ workers, given.workers = some workers → options.workers = some workers
  fallback : given.workers = none → workersVariable.mapM readWorkers = .ok options.workers

/-- Put the environment below options. -/
def supply (workersVariable : Option String) (given : Options) : Except Refusal Options :=
  match given.workers, workersVariable with
  | none, some value => return { given with workers := some (← readWorkers value) }
  | _, _ => return given

theorem parse_eq_bind_supply (arguments : List String) (workersVariable : Option String) :
    parse arguments workersVariable = parse arguments none >>= supply workersVariable := by
  unfold parse
  cases arguments.foldlM Progress.step {} with
  | error refusal => rfl
  | ok progress =>
      simp only [Loop.ok_bind]
      cases progress.resolve with
      | error refusal => rfl
      | ok resolved =>
          simp only [Loop.ok_bind]
          cases hworkers : resolved.options.workers <;> cases workersVariable <;>
            simp [supply, hworkers]

theorem supply_eq_ok_iff {workersVariable : Option String} {given options : Options} :
    supply workersVariable given = .ok options ↔ Completes workersVariable given options := by
  cases hworkers : given.workers with
  | some workers =>
      have hsupply : supply workersVariable given = .ok given := by simp [supply, hworkers]
      rw [hsupply]
      constructor
      · rintro ⟨⟩
        refine ⟨rfl, fun _ h => h, ?_⟩
        intro hnone
        rw [hworkers] at hnone
        cases hnone
      · intro h
        rw [h.others, h.argued workers hworkers, ← hworkers]
  | none =>
      have hsupply : supply workersVariable given =
          workersVariable.mapM readWorkers >>= fun workers => .ok { given with workers := workers } := by
        cases workersVariable with
        | none =>
            have hsame : ({ given with workers := none } : Options) = given := by rw [← hworkers]
            simp [supply, hworkers, hsame]
        | some value =>
            simp only [supply, hworkers]
            cases hread : readWorkers value <;> simp [hread]
      rw [hsupply, Loop.bind_eq_ok_iff]
      constructor
      · rintro ⟨workers, hread, ⟨⟩⟩
        refine ⟨rfl, ?_, fun _ => hread⟩
        intro workers hsome
        rw [hworkers] at hsome
        cases hsome
      · intro h
        exact ⟨options.workers, h.fallback hworkers, by rw [← h.others]⟩

theorem parse_eq_ok_iff {arguments : List String} {workersVariable : Option String}
    {options : Options} :
    parse arguments workersVariable = .ok options ↔
      ∃ given, parse arguments none = .ok given ∧ Completes workersVariable given options := by
  simp only [parse_eq_bind_supply arguments workersVariable, Loop.bind_eq_ok_iff, supply_eq_ok_iff]

/-! ## Options -/

/-- The seconds that an option stands for, if it is a duration. -/
def readSeconds (text : String) : Option Float := (Duration.read text.toList).toOption

/-- Each of the settings, from its own option and its own place. -/
structure Layered (options : Options) (places : Settings.Places) (below settings : Settings) : Prop where
  logs : Settings.Chosen (if options.logs = [] then none else some options.logs) some
    places.logs Settings.paths? below.logs settings.logs
  duration : Settings.Chosen options.duration readSeconds
    places.duration Toml.Value.float? below.duration settings.duration
  warmup : Settings.Chosen options.warmup readSeconds
    places.warmup Toml.Value.float? below.warmup settings.warmup
  /-- The option can only be set, and then it does not matter what the file says. -/
  window : ∃ written, Settings.Chosen none some places.window Toml.Value.bool? below.window written ∧
    settings.window = (options.window || written)
  workers : Settings.Chosen options.workers some
    places.workers Settings.workers? below.workers settings.workers
  inputKind : Settings.Chosen options.inputKind some
    places.inputKind (Settings.choice? InputKind.ofName?) below.inputKind settings.inputKind
  follow : Settings.Chosen options.follow some
    places.follow Toml.Value.integer? below.tracked.follow settings.tracked.follow
  tweet : Settings.Chosen options.tweet some
    places.tweet Toml.Value.integer? below.tracked.tweet settings.tracked.tweet
  format : Settings.Chosen options.format some
    places.format (Settings.choice? Format.ofName?) below.format settings.format
  output : Settings.Chosen options.output (fun path => some (some path))
    places.output (fun value => value.text?.map some) below.output settings.output

/-- There is one way only to put three layers together. -/
theorem Layered.unique {options : Options} {places : Settings.Places} {below settings settings' : Settings}
    (h : Layered options places below settings) (h' : Layered options places below settings') :
    settings = settings' := by
  obtain ⟨written, hwritten, hwindow⟩ := h.window
  obtain ⟨written', hwritten', hwindow'⟩ := h'.window
  have window : settings.window = settings'.window := by
    rw [hwindow, hwindow', hwritten.unique hwritten']
  have tracked : settings.tracked = settings'.tracked := by
    show Tracked.mk settings.tracked.follow settings.tracked.tweet =
      Tracked.mk settings'.tracked.follow settings'.tracked.tweet
    rw [h.follow.unique h'.follow, h.tweet.unique h'.tweet]
  cases settings
  cases settings'
  simp only [Settings.mk.injEq]
  exact ⟨h.logs.unique h'.logs, h.duration.unique h'.duration, h.warmup.unique h'.warmup, window,
    h.workers.unique h'.workers, h.inputKind.unique h'.inputKind, tracked, h.format.unique h'.format,
    h.output.unique h'.output⟩

theorem mapM_readDuration_eq_ok_iff {option : DurationOption} {text? : Option String}
    {seconds? : Option Float} :
    text?.mapM (Options.readDuration option) = .ok seconds? ↔
      text?.mapM readSeconds = some seconds? := by
  cases text? with
  | none => simp
  | some text =>
      simp only [Option.mapM_some, Options.readDuration, readSeconds]
      cases Duration.read text.toList <;> simp [Except.mapError, Except.toOption]

/-- Only an option that is no duration keeps options from being a layer. -/
theorem exists_layer_iff (options : Options) :
    (∃ layer, options.layer = .ok layer) ↔
      Settings.Readable options.duration readSeconds ∧
        Settings.Readable options.warmup readSeconds := by
  rw [Settings.readable_iff, Settings.readable_iff]
  simp only [Options.layer, Loop.bind_eq_ok_iff, mapM_readDuration_eq_ok_iff]
  constructor
  · rintro ⟨layer, duration, hduration, warmup, hwarmup, -⟩
    exact ⟨⟨duration, hduration⟩, warmup, hwarmup⟩
  · rintro ⟨⟨duration, hduration⟩, warmup, hwarmup⟩
    exact ⟨_, duration, hduration, warmup, hwarmup, rfl⟩

/-- The layer of options, over that of a document, over what lies below both. -/
theorem layered_onto {options : Options} {asked written : Settings.Layer} {places : Settings.Places}
    (hasked : options.layer = .ok asked) (taken : Settings.Taken places written) (below : Settings) :
    Layered options places below (asked.onto (written.onto below)) := by
  have plain {β : Type} (option? : Option β) : option?.mapM some = some option? := by
    cases option? <;> rfl
  simp only [Options.layer, Loop.bind_eq_ok_iff, mapM_readDuration_eq_ok_iff] at hasked
  obtain ⟨duration, hduration, warmup, hwarmup, ⟨⟩⟩ := hasked
  refine ⟨?_, Settings.chosen_of_mapM hduration taken.duration _,
    Settings.chosen_of_mapM hwarmup taken.warmup _, ⟨_, Settings.chosen_of_mapM rfl taken.window _, ?_⟩,
    Settings.chosen_of_mapM (plain _) taken.workers _,
    Settings.chosen_of_mapM (plain _) taken.inputKind _,
    Settings.chosen_of_mapM (plain _) taken.follow _,
    Settings.chosen_of_mapM (plain _) taken.tweet _,
    Settings.chosen_of_mapM (plain _) taken.format _, ?_⟩
  · have hlogs := Settings.chosen_of_mapM (plain (if options.logs = [] then none else some options.logs))
      taken.logs below.logs
    simpa only [Settings.Layer.onto, List.isEmpty_iff] using hlogs
  · cases options.window <;> rfl
  · -- Having no file is a setting too, so a path that is given is one option deeper.
    have hgiven : options.output.mapM (fun path => some (some path)) =
        some (options.output.map some) := by
      cases options.output <;> rfl
    have hwritten : places.output.mapM (fun value => value.text?.map some) =
        some (written.output.map some) := by
      have houtput := taken.output
      cases hplace : places.output with
      | none =>
          rw [hplace] at houtput
          have hnone : none = written.output := Option.some.inj houtput
          simp [← hnone]
      | some value =>
          rw [hplace] at houtput
          obtain ⟨path, hpath, hwritten⟩ := Option.map_eq_some_iff.mp houtput
          simp [hpath, ← hwritten]
    have houtput := Settings.chosen_of_mapM hgiven hwritten below.output
    have hor (path? below? : Option String) : (path?.map some).getD below? = path?.or below? := by
      cases path? <;> rfl
    rwa [hor, hor] at houtput

end CommandLine

namespace Program

variable {tree : FileTree} {options : CommandLine.Options} {settings : Settings}

/-! ## The settings file -/

/-- The file at a path is a document with these members. -/
def Holds (tree : FileTree) (path : String) (members : Settings.Members) : Prop :=
  ∃ bytes text, tree.read path = .ok bytes ∧ Text.Utf8.decode? bytes = some text ∧
    Toml.read? text = some members

/-- The members of the settings file. Where no such file is named there are none. -/
def Given (tree : FileTree) (config : Option String) (members : Settings.Members) : Prop :=
  match config with
  | none => members = []
  | some path => Holds tree path members

theorem look_settingsOfFile_eq_ok_iff {path : String} :
    look tree (settingsOfFile path) = .ok settings ↔
      ∃ members written, Holds tree path members ∧
        Settings.Layer.ofMembers? members = some written ∧ settings = written.onto {} := by
  constructor
  · intro h
    obtain ⟨bytes, hbytes, h⟩ := look_bind_eq_ok_iff.mp h
    rw [look_readFile, Loop.mapError_eq_ok_iff] at hbytes
    cases htext : Text.Utf8.decode? bytes with
    | none =>
        rw [htext] at h
        cases h
    | some text =>
        rw [htext] at h
        obtain ⟨members, written, hread, hwritten, rfl⟩ :=
          Settings.ofDocument_eq_ok_iff.mp (Loop.mapError_eq_ok_iff.mp h)
        exact ⟨members, written, ⟨bytes, text, hbytes, htext, hread⟩, hwritten, rfl⟩
  · rintro ⟨members, written, ⟨bytes, text, hbytes, htext, hread⟩, hwritten, rfl⟩
    refine look_bind_eq_ok_iff.mpr ⟨bytes, ?_, ?_⟩
    · rw [look_readFile, hbytes]
      rfl
    · rw [htext]
      exact look_lift_of_ok (Settings.ofDocument_eq_ok_iff.mpr ⟨members, written, hread, hwritten, rfl⟩)

theorem look_settings_eq_ok_iff :
    look tree (Program.settings options) = .ok settings ↔
      ∃ members written asked, Given tree options.config members ∧
        Settings.Layer.ofMembers? members = some written ∧ options.layer = .ok asked ∧
        settings = asked.onto (written.onto {}) := by
  have honto (below : Settings) : look tree (lift .duration (options.onto below)) = .ok settings ↔
      ∃ asked, options.layer = .ok asked ∧ settings = asked.onto below := by
    rw [look_lift, Loop.mapError_eq_ok_iff, CommandLine.Options.onto, Loop.bind_eq_ok_iff]
    simp [eq_comm]
  unfold Program.settings
  cases options.config with
  | none =>
      show look tree (lift .duration (options.onto {})) = .ok settings ↔ _
      rw [honto]
      constructor
      · rintro ⟨asked, hasked, rfl⟩
        exact ⟨[], {}, asked, rfl, rfl, hasked, rfl⟩
      · rintro ⟨members, written, asked, rfl, ⟨⟩, hasked, rfl⟩
        exact ⟨asked, hasked, rfl⟩
  | some path =>
      simp only [look_bind_eq_ok_iff, honto, look_settingsOfFile_eq_ok_iff]
      constructor
      · rintro ⟨below, ⟨members, written, holds, hwritten, rfl⟩, asked, hasked, rfl⟩
        exact ⟨members, written, asked, holds, hwritten, hasked, rfl⟩
      · rintro ⟨members, written, asked, holds, hwritten, hasked, rfl⟩
        exact ⟨_, ⟨members, written, holds, hwritten, rfl⟩, asked, hasked, rfl⟩

/-- There are settings if the file can be read and what it has for them too, and the options that should be
    durations are durations. -/
theorem exists_look_settings_iff :
    (∃ settings, look tree (Program.settings options) = .ok settings) ↔
      (∀ path, options.config = some path →
        ∃ members, Holds tree path members ∧ Settings.Legible members) ∧
      Settings.Readable options.duration CommandLine.readSeconds ∧
      Settings.Readable options.warmup CommandLine.readSeconds := by
  have hgiven : (∃ members, Given tree options.config members ∧ Settings.Legible members) ↔
      ∀ path, options.config = some path →
        ∃ members, Holds tree path members ∧ Settings.Legible members := by
    cases options.config with
    | none =>
        have blank : Settings.Legible [] := (Settings.exists_ofMembers?_iff []).mp ⟨{}, rfl⟩
        simp [Given, blank]
    | some path => simp [Given]
  rw [← hgiven]
  simp only [← CommandLine.exists_layer_iff, ← Settings.exists_ofMembers?_iff, look_settings_eq_ok_iff]
  constructor
  · rintro ⟨settings, members, written, asked, given, hwritten, hasked, -⟩
    exact ⟨⟨members, given, written, hwritten⟩, asked, hasked⟩
  · rintro ⟨⟨members, given, written, hwritten⟩, asked, hasked⟩
    exact ⟨_, members, written, asked, given, hwritten, hasked, rfl⟩

/-- Options come from the arguments, but for the number of workers, which comes from the environment if no
    argument gives it. Every setting is what its option gives, else what the file has in its place, else
    its default, whatever the other options and keys are; the window is used if the option or the file says
    so. There are no settings if and only if the file cannot be read, or what it has for them cannot, or an
    option is no duration. Options that were put on once change nothing when they are put on again. -/
theorem settings_layered {arguments : List String} {workersVariable : Option String}
    (h : CommandLine.parse arguments workersVariable = .ok options) (tree : FileTree) :
    (∃ given, CommandLine.parse arguments none = .ok given ∧
      CommandLine.Completes workersVariable given options) ∧
    (∀ settings, look tree (Program.settings options) = .ok settings →
      ∃ members, Given tree options.config members ∧
        CommandLine.Layered options (.ofMembers members) {} settings) ∧
    ((∃ error, look tree (Program.settings options) = .error error) ↔
      (∃ path, options.config = some path ∧
        ¬∃ members, Holds tree path members ∧ Settings.Legible members) ∨
      (∃ text, options.duration = some text ∧ CommandLine.readSeconds text = none) ∨
      ∃ text, options.warmup = some text ∧ CommandLine.readSeconds text = none) ∧
    ∀ below, (options.onto below >>= options.onto) = options.onto below := by
  refine ⟨CommandLine.parse_eq_ok_iff.mp h, ?_, ?_, ?_⟩
  · intro settings hsettings
    obtain ⟨members, written, asked, given, hwritten, hasked, rfl⟩ := look_settings_eq_ok_iff.mp hsettings
    obtain ⟨-, taken⟩ := (Settings.ofMembers?_eq_some_iff members written).mp hwritten
    exact ⟨members, given, CommandLine.layered_onto hasked taken {}⟩
  · have hfails : (∃ error, look tree (Program.settings options) = .error error) ↔
        ¬∃ settings, look tree (Program.settings options) = .ok settings := by
      cases look tree (Program.settings options) <;> simp
    rw [hfails, exists_look_settings_iff, not_and_or, not_and_or, Settings.not_readable_iff,
      Settings.not_readable_iff]
    simp only [not_forall, exists_prop]
  · intro below
    unfold CommandLine.Options.onto
    cases options.layer with
    | error fault => rfl
    | ok layer => exact congrArg Except.ok (layer.onto_onto below)

/-- A settings file that has some keys and not others. -/
def someKeys : FileTree where
  root := [("run.toml",
    .file "duration_sec = 5\nworkers = 2\n[tracked_types]\nfollow = 7\n".toUTF8.toList)]

/-- The options have the last word, the environment has none, and what is missing from the group is left to
    its default. An option that is no duration leaves no settings. -/
theorem settings_layered_someKeys :
    (∃ options settings members,
      CommandLine.parse ["-c", "run.toml", "--warmup", "1m", "-w", "3", "a.log"] (some "5") =
        .ok options ∧
      look someKeys (Program.settings options) = .ok settings ∧
      CommandLine.Layered options (.ofMembers members) {} settings ∧
      settings.duration = 5 ∧ settings.warmup = 60 ∧ settings.workers = 3 ∧ settings.tracked = ⟨7, 3⟩) ∧
    ∃ options error, CommandLine.parse ["-d", "soon", "a.log"] none = .ok options ∧
      look someKeys (Program.settings options) = .error error := by
  refine ⟨?_, ?_⟩
  · have h : CommandLine.parse ["-c", "run.toml", "--warmup", "1m", "-w", "3", "a.log"] (some "5") =
        .ok { logs := ["a.log"], warmup := some "1m", workers := some 3, config := some "run.toml" } :=
      rfl
    have hsettings : (look someKeys (Program.settings
        { logs := ["a.log"], warmup := some "1m", workers := some 3, config := some "run.toml" })).toOption =
        some { logs := ["a.log"], duration := 5, warmup := 60, workers := 3, tracked := ⟨7, 3⟩ } := by
      decide +kernel
    have hlook := Loop.toOption_eq_some_iff.mp hsettings
    obtain ⟨members, -, layered⟩ := (settings_layered h someKeys).2.1 _ hlook
    exact ⟨_, _, members, h, hlook, layered, rfl, rfl, rfl, rfl⟩
  · have h : CommandLine.parse ["-d", "soon", "a.log"] none =
        .ok { logs := ["a.log"], duration := some "soon" } :=
      rfl
    have hsoon : CommandLine.readSeconds "soon" = none := by decide +kernel
    obtain ⟨error, herror⟩ :=
      (settings_layered h someKeys).2.2.1.mpr (Or.inr (Or.inl ⟨"soon", rfl, hsoon⟩))
    exact ⟨_, error, h, herror⟩

end Program

end BenchLog
