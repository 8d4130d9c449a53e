import BenchLog.Program
import BenchLog.Proofs.FileTree
import Mathlib.Data.List.Basic

/-!
# Where the document goes

Up to the document a run only reads: on a machine it does what it does with files that it cannot change
(`Program.Looks`). After that it writes a file or prints, once. A run that fails therefore leaves every file
as it was and prints nothing, and a run that succeeds has its document in one place, made from the files as
they were before (`Program.execute_delivers`). That the document may take the place of one of those files
does not matter.
-/

namespace BenchLog.Program

/-- What a program does on a machine. -/
abbrev Action : Type → Type := ExceptT ProgramError (StateM Machine)

/-- What a program does that can only read the files. -/
abbrev Reading : Type → Type := ExceptT ProgramError (ReaderM FileTree)

variable {α β : Type} {tree : FileTree} {machine : Machine}

/-- What a reading comes to on a tree. -/
def look (tree : FileTree) (reading : Reading α) : Except ProgramError α :=
  reading.run.run tree

/-- An action comes to what a reading of the files comes to, and leaves the machine as it is. -/
def Looks (action : Action α) (reading : Reading α) : Prop :=
  ∀ machine, action.run.run machine = (look machine.files reading, machine)

/-! ## Actions one after the other -/

theorem look_bind (tree : FileTree) (reading : Reading α) (next : α → Reading β) :
    look tree (reading >>= next) =
      match look tree reading with
      | .ok a => look tree (next a)
      | .error error => .error error := by
  show (ExceptT.bindCont next (reading.run.run tree)).run tree = _
  unfold look
  cases reading.run.run tree <;> rfl

theorem look_lift {ε : Type} (tree : FileTree) (fault : ε → ProgramError) (result : Except ε α) :
    look tree (lift fault result) = result.mapError fault := rfl

theorem look_lift_of_ok {ε : Type} {fault : ε → ProgramError} {result : Except ε α} {a : α}
    (h : result = .ok a) : look tree (lift fault result) = .ok a := by
  rw [h]
  rfl

theorem look_lift_of_error {ε : Type} {fault : ε → ProgramError} {result : Except ε α} {error : ε}
    (h : result = .error error) : look tree (lift fault result) = .error (fault error) := by
  rw [h]
  rfl

theorem look_bind_eq_ok_iff {reading : Reading α} {next : α → Reading β} {b : β} :
    look tree (reading >>= next) = .ok b ↔
      ∃ a, look tree reading = .ok a ∧ look tree (next a) = .ok b := by
  rw [look_bind]
  cases look tree reading <;> simp

theorem look_readFile (tree : FileTree) (path : String) (error : SystemFault → ProgramError) :
    look tree (readFile path error) = (tree.read path).mapError error := by
  have hread : look tree (liftM (FileReader.read path : ReaderM FileTree _)) =
      .ok (tree.read path) := rfl
  rw [readFile, look_bind, hread]
  cases tree.read path <;> rfl

theorem run_bind (machine : Machine) (action : Action α) (next : α → Action β) :
    (action >>= next).run.run machine =
      match action.run.run machine with
      | (.ok a, after) => (next a).run.run after
      | (.error error, after) => (.error error, after) := by
  show (ExceptT.bindCont next (action.run.run machine).1).run (action.run.run machine).2 = _
  obtain ⟨result, after⟩ := action.run.run machine
  cases result <;> rfl

namespace Looks

variable {action : Action α} {reading : Reading α} {next : α → Action β}

theorem pure (a : α) : Looks (pure a) (pure a) := fun _ => rfl

theorem throw (error : ProgramError) :
    Looks (throw error : Action α) (throw error) := fun _ => rfl

theorem lift {ε : Type} (error : ε → ProgramError) (result : Except ε α) :
    Looks (lift error result) (lift error result) := fun _ => rfl

theorem read (path : String) :
    Looks (liftM (FileReader.read path : StateM Machine _))
      (liftM (FileReader.read path : ReaderM FileTree _)) := fun _ => rfl

theorem bind {nextReading : α → Reading β} (h : Looks action reading)
    (hnext : ∀ a, Looks (next a) (nextReading a)) :
    Looks (action >>= next) (reading >>= nextReading) := by
  intro machine
  rw [run_bind, look_bind, h machine]
  cases look machine.files reading with
  | ok a => exact hnext a machine
  | error error => rfl

theorem mapM {action : α → Action β} {reading : α → Reading β}
    (h : ∀ a, Looks (action a) (reading a)) (items : List α) :
    Looks (items.mapM action) (items.mapM reading) := by
  induction items with
  | nil => exact pure []
  | cons item items ih =>
      rw [List.mapM_cons, List.mapM_cons]
      apply (h item).bind
      intro result
      apply ih.bind
      intro results
      exact pure (result :: results)

theorem run_bind_of_ok (h : Looks action reading) {a : α}
    (hlook : look machine.files reading = .ok a) (next : α → Action β) :
    (action >>= next).run.run machine = (next a).run.run machine := by
  rw [run_bind, h machine, hlook]

theorem run_bind_of_error (h : Looks action reading) {error : ProgramError}
    (hlook : look machine.files reading = .error error) (next : α → Action β) :
    (action >>= next).run.run machine = (.error error, machine) := by
  rw [run_bind, h machine, hlook]

end Looks

/-! ## The stages that only read -/

theorem looks_readFile (path : String) (error : SystemFault → ProgramError) :
    Looks (readFile path error) (readFile path error) := by
  unfold readFile
  apply (Looks.read path).bind
  intro result
  cases result with
  | ok bytes => exact .pure bytes
  | error fault => exact .throw (error fault)

theorem looks_settingsOfFile (path : String) :
    Looks (settingsOfFile path) (settingsOfFile path) := by
  unfold settingsOfFile
  apply (looks_readFile path _).bind
  intro bytes
  cases Text.Utf8.decode? bytes with
  | none => exact .throw _
  | some text => exact .lift _ _

theorem looks_settings (options : CommandLine.Options) :
    Looks (settings options) (settings options) := by
  unfold settings
  cases options.config with
  | none => exact .lift _ _
  | some path =>
      apply (looks_settingsOfFile path).bind
      intro below
      exact .lift _ _

theorem looks_openLog (path : String) : Looks (openLog path) (openLog path) := by
  unfold openLog
  apply (looks_readFile path _).bind
  intro bytes
  exact .lift _ _

theorem looks_report (settings : Settings) : Looks (report settings) (report settings) := by
  unfold report
  apply (Looks.mapM looks_openLog settings.logs).bind
  intro files
  exact .lift _ _

/-! ## How a run ends -/

variable {options : CommandLine.Options} {settings : Settings} {document : String}

/-- The options and the settings file come to these settings, and nothing is wrong with them. -/
structure Settled (tree : FileTree) (options : CommandLine.Options) (settings : Settings) : Prop where
  allowed : options.check = .ok ()
  found : look tree (Program.settings options) = .ok settings
  sound : settings.check = .ok ()

/-- The logs come to this document. -/
structure Rendered (tree : FileTree) (options : CommandLine.Options) (settings : Settings)
    (document : String) : Prop where
  settled : Settled tree options settings
  shown : ∃ report, look tree (Program.report settings) = .ok report ∧
    report.document settings.format = .ok document

/-- The machine after a document was delivered, or why it cannot be. -/
def delivered (machine : Machine) (settings : Settings) (document : String) :
    Except ProgramError Machine :=
  match settings.output with
  | some path =>
    match machine.files.write path document.toUTF8.toList with
    | .ok files => .ok { machine with files }
    | .error fault => .error (.unwritable path fault)
  | none =>
    match machine.stdout.print document with
    | .ok stdout => .ok { machine with stdout }
    | .error fault => .error (.unprintable fault)

theorem delivered_of_some {path : String} (h : settings.output = some path) :
    delivered machine settings document =
      match machine.files.write path document.toUTF8.toList with
      | .ok files => .ok { machine with files }
      | .error fault => .error (.unwritable path fault) := by
  rw [delivered, h]

theorem delivered_of_none (h : settings.output = none) :
    delivered machine settings document =
      match machine.stdout.print document with
      | .ok stdout => .ok { machine with stdout }
      | .error fault => .error (.unprintable fault) := by
  rw [delivered, h]

theorem exists_written {path : String} {after : Machine} (houtput : settings.output = some path)
    (h : delivered machine settings document = .ok after) :
    ∃ files, machine.files.write path document.toUTF8.toList = .ok files ∧
      { machine with files } = after := by
  rw [delivered_of_some houtput] at h
  split at h
  · rename_i files hwrite
    exact ⟨files, hwrite, Except.ok.inj h⟩
  · cases h

theorem eq_of_printed {after : Machine} (houtput : settings.output = none)
    (h : delivered machine settings document = .ok after) :
    after = { machine with stdout := machine.stdout.followedBy document } := by
  rw [delivered_of_none houtput, Stdout.print] at h
  cases hfault : machine.stdout.fault? with
  | some fault =>
      rw [hfault] at h
      cases h
  | none =>
      rw [hfault] at h
      cases h
      rfl

/-- A stage of the run fails with this error, and those before it do not. -/
inductive Fails (machine : Machine) (options : CommandLine.Options) : ProgramError → Prop where
  | options {fault : CommandLine.OptionsFault} (h : options.check = .error fault) :
      Fails machine options (.options fault)
  | settings {error : ProgramError} (allowed : options.check = .ok ())
      (h : look machine.files (Program.settings options) = .error error) :
      Fails machine options error
  | check {settings : Settings} {fault : Settings.Fault} (allowed : options.check = .ok ())
      (found : look machine.files (Program.settings options) = .ok settings)
      (h : settings.check = .error fault) : Fails machine options (.settings fault)
  | report {settings : Settings} {error : ProgramError}
      (settled : Settled machine.files options settings)
      (h : look machine.files (Program.report settings) = .error error) :
      Fails machine options error
  | document {settings : Settings} {report : Report} {fault : Csv.Fault}
      (settled : Settled machine.files options settings)
      (hreport : look machine.files (Program.report settings) = .ok report)
      (h : report.document settings.format = .error fault) :
      Fails machine options (.document fault)
  | writing {settings : Settings} {document path : String} {fault : SystemFault}
      (rendered : Rendered machine.files options settings document)
      (houtput : settings.output = some path)
      (h : machine.files.write path document.toUTF8.toList = .error fault) :
      Fails machine options (.unwritable path fault)
  | printing {settings : Settings} {document : String} {fault : SystemFault}
      (rendered : Rendered machine.files options settings document)
      (houtput : settings.output = none)
      (h : machine.stdout.print document = .error fault) :
      Fails machine options (.unprintable fault)

/-- A document that cannot be delivered is a stage that fails. -/
theorem fails_of_delivered {error : ProgramError}
    (rendered : Rendered machine.files options settings document)
    (h : delivered machine settings document = .error error) : Fails machine options error := by
  unfold delivered at h
  split at h
  · rename_i path houtput
    split at h
    · cases h
    · rename_i fault hwrite
      cases h
      exact .writing rendered houtput hwrite
  · rename_i houtput
    split at h
    · cases h
    · rename_i fault hprint
      cases h
      exact .printing rendered houtput hprint

/-- Either a stage fails, or there is a document and it can be delivered. -/
theorem fails_or_delivered (machine : Machine) (options : CommandLine.Options) :
    (∃ error, Fails machine options error) ∨
      ∃ settings document after, Rendered machine.files options settings document ∧
        delivered machine settings document = .ok after := by
  cases hallowed : options.check with
  | error fault => exact Or.inl ⟨_, .options hallowed⟩
  | ok _ =>
  cases hfound : look machine.files (Program.settings options) with
  | error error => exact Or.inl ⟨error, .settings hallowed hfound⟩
  | ok settings =>
  cases hsound : settings.check with
  | error fault => exact Or.inl ⟨_, .check hallowed hfound hsound⟩
  | ok _ =>
  have settled : Settled machine.files options settings := ⟨hallowed, hfound, hsound⟩
  cases hreport : look machine.files (Program.report settings) with
  | error error => exact Or.inl ⟨error, .report settled hreport⟩
  | ok report =>
  cases hdocument : report.document settings.format with
  | error fault => exact Or.inl ⟨_, .document settled hreport hdocument⟩
  | ok document =>
  have rendered : Rendered machine.files options settings document :=
    ⟨settled, report, hreport, hdocument⟩
  cases hdelivered : delivered machine settings document with
  | error error => exact Or.inl ⟨error, fails_of_delivered rendered hdelivered⟩
  | ok after => exact Or.inr ⟨settings, document, after, rendered, hdelivered⟩

/-! ## The run -/

theorem run_write (machine : Machine) (path text : String) :
    (FileAccess.write path text : StateM Machine (Except SystemFault Unit)).run machine =
      match machine.files.write path text.toUTF8.toList with
      | .ok files => (.ok (), { machine with files })
      | .error fault => (.error fault, machine) := by
  simp only [FileAccess.write, StateT.run_bind, StateT.run_get, pure_bind]
  cases machine.files.write path text.toUTF8.toList <;> rfl

theorem run_print (machine : Machine) (text : String) :
    (Console.print text : StateM Machine (Except SystemFault Unit)).run machine =
      match machine.stdout.print text with
      | .ok stdout => (.ok (), { machine with stdout })
      | .error fault => (.error fault, machine) := by
  simp only [Console.print, StateT.run_bind, StateT.run_get, pure_bind]
  cases machine.stdout.print text <;> rfl

/-- An operation of the machine within a run. -/
theorem run_liftM (machine : Machine) (operation : StateM Machine α) :
    (liftM operation : Action α).run.run machine =
      (.ok (operation.run machine).1, (operation.run machine).2) := rfl

theorem run_deliver (machine : Machine) (settings : Settings) (document : String) :
    (deliver settings document : Action Unit).run.run machine =
      match delivered machine settings document with
      | .ok after => (.ok (), after)
      | .error error => (.error error, machine) := by
  unfold deliver delivered
  cases settings.output with
  | some path =>
      simp only
      rw [run_bind, run_liftM, run_write]
      cases machine.files.write path document.toUTF8.toList <;> rfl
  | none =>
      simp only
      rw [run_bind, run_liftM, run_print]
      cases machine.stdout.print document <;> rfl

/-- Once the settings are known the run goes on with the logs, on a machine that is as it was. -/
theorem run_of_settled (h : Settled machine.files options settings) :
    (run options : Action Unit).run.run machine =
      (report settings >>= fun report =>
        lift .document (report.document settings.format) >>= fun document =>
          deliver settings document : Action Unit).run.run machine := by
  rw [run, (Looks.lift _ _).run_bind_of_ok (look_lift_of_ok h.allowed),
    (looks_settings options).run_bind_of_ok h.found,
    (Looks.lift _ _).run_bind_of_ok (look_lift_of_ok h.sound)]

theorem run_of_rendered (h : Rendered machine.files options settings document) :
    (run options : Action Unit).run.run machine =
      (deliver settings document : Action Unit).run.run machine := by
  obtain ⟨report, hreport, hdocument⟩ := h.shown
  rw [run_of_settled h.settled, (looks_report settings).run_bind_of_ok hreport,
    (Looks.lift _ _).run_bind_of_ok (look_lift_of_ok hdocument)]

/-- A run that fails leaves the machine as it was. -/
theorem run_of_fails {error : ProgramError} (h : Fails machine options error) :
    (run options : Action Unit).run.run machine = (.error error, machine) := by
  cases h with
  | options h => rw [run, (Looks.lift _ _).run_bind_of_error (look_lift_of_error h)]
  | settings allowed h =>
      rw [run, (Looks.lift _ _).run_bind_of_ok (look_lift_of_ok allowed),
        (looks_settings options).run_bind_of_error h]
  | check allowed found h =>
      rw [run, (Looks.lift _ _).run_bind_of_ok (look_lift_of_ok allowed),
        (looks_settings options).run_bind_of_ok found,
        (Looks.lift _ _).run_bind_of_error (look_lift_of_error h)]
  | report settled h => rw [run_of_settled settled, (looks_report _).run_bind_of_error h]
  | document settled hreport h =>
      rw [run_of_settled settled, (looks_report _).run_bind_of_ok hreport,
        (Looks.lift _ _).run_bind_of_error (look_lift_of_error h)]
  | writing rendered houtput h =>
      rw [run_of_rendered rendered, run_deliver, delivered_of_some houtput, h]
  | printing rendered houtput h =>
      rw [run_of_rendered rendered, run_deliver, delivered_of_none houtput, h]

/-! ## The program -/

/-- Once the arguments are understood, the exit follows from how the run ends. -/
theorem run_execute {arguments : List String} {workersVariable : Option String}
    (h : CommandLine.parse arguments workersVariable = .ok options) (machine : Machine) :
    (execute arguments workersVariable : StateM Machine Exit).run machine =
      match (run options : Action Unit).run.run machine with
      | (.ok (), after) => (⟨0, ""⟩, after)
      | (.error error, after) => (⟨1, ProgramError.report error.messages⟩, after) := by
  rw [execute, h]
  simp only
  rw [StateT.run_bind]
  show (match (run options : Action Unit).run.run machine with | (result, after) => _) = _
  obtain ⟨result, after⟩ := (run options : Action Unit).run.run machine
  cases result <;> rfl

/-- If a stage of the program fails, the exit code is one, nothing is printed, and no file is made or
    changed. Otherwise the exit code is zero and the whole document, made from the files as they were,
    goes to one place. If the settings name a file for it, that file then holds the document, nothing is
    printed and whatever stands elsewhere is as it was; without such a file it is printed, and no file is
    made or changed. -/
theorem execute_delivers {arguments : List String} {workersVariable : Option String}
    (h : CommandLine.parse arguments workersVariable = .ok options) (machine : Machine) :
    (∀ error, Fails machine options error →
      (execute arguments workersVariable : StateM Machine Exit).run machine =
        (⟨1, ProgramError.report error.messages⟩, machine)) ∧
    ((¬∃ error, Fails machine options error) →
      ∃ settings document, Rendered machine.files options settings document ∧
        (settings.output = none →
          (execute arguments workersVariable : StateM Machine Exit).run machine =
            (⟨0, ""⟩, { machine with stdout := machine.stdout.followedBy document })) ∧
        ∀ path, settings.output = some path →
          ∃ files, (execute arguments workersVariable : StateM Machine Exit).run machine =
              (⟨0, ""⟩, { machine with files }) ∧
            machine.files.OnlyChanged files path document.toUTF8.toList) := by
  refine ⟨?_, ?_⟩
  · intro error hfails
    rw [run_execute h, run_of_fails hfails]
  · intro hnone
    obtain ⟨settings, document, after, rendered, hdelivered⟩ :=
      (fails_or_delivered machine options).resolve_left hnone
    have hrun : (execute arguments workersVariable : StateM Machine Exit).run machine =
        (⟨0, ""⟩, after) := by
      rw [run_execute h, run_of_rendered rendered, run_deliver, hdelivered]
    refine ⟨settings, document, rendered, ?_, ?_⟩
    · intro houtput
      rw [hrun, eq_of_printed houtput hdelivered]
    · intro path houtput
      obtain ⟨files, hwrite, rfl⟩ := exists_written houtput hdelivered
      exact ⟨files, hrun, FileTree.onlyChanged_of_write hwrite⟩

/-- A directory with a log and a link to it beside an empty one, and a standard output that nobody reads. -/
def logAndLink : Machine where
  files :=
    { root := [("srv", .directory
        [("logs", .directory
          [("run.log", .file "1 0.0 0.1 5 1\n".toUTF8.toList), ("last", .link "../logs/run.log")]),
         ("out", .directory [])])]
      here := ["srv", "logs"] }
  stdout := { printed := "before", fault? := some ⟨"Broken pipe", some 32⟩ }

/-- The document takes the place of the log it is about, through a link to it. It cannot be printed, and
    without a duration there is none. -/
theorem execute_delivers_logAndLink :
    (∃ options settings document files,
      CommandLine.parse ["-d", "1", "-o", "last", "/srv/logs/run.log"] (some "3") = .ok options ∧
        Rendered logAndLink.files options settings document ∧
        (execute ["-d", "1", "-o", "last", "/srv/logs/run.log"] (some "3") :
            StateM Machine Exit).run logAndLink = (⟨0, ""⟩, { logAndLink with files }) ∧
        logAndLink.files.OnlyChanged files "last" document.toUTF8.toList) ∧
    (∃ options error, CommandLine.parse ["-d", "1", "run.log"] none = .ok options ∧
      Fails logAndLink options error ∧
        (execute ["-d", "1", "run.log"] none : StateM Machine Exit).run logAndLink =
          (⟨1, "Error: Failed to write result to stdout\n\nCaused by:\n    Broken pipe (os error 32)\n"⟩,
            logAndLink)) ∧
    ∃ options error, CommandLine.parse ["-o", "../out/new", "run.log"] none = .ok options ∧
      Fails logAndLink options error ∧
        (execute ["-o", "../out/new", "run.log"] none : StateM Machine Exit).run logAndLink =
          (⟨1, ProgramError.report error.messages⟩, logAndLink) := by
  refine ⟨?_, ?_, ?_⟩
  · have h : CommandLine.parse ["-d", "1", "-o", "last", "/srv/logs/run.log"] (some "3") =
        .ok { logs := ["/srv/logs/run.log"], duration := some "1", output := some "last",
              workers := some 3 } :=
      rfl
    have hcode : ((execute ["-d", "1", "-o", "last", "/srv/logs/run.log"] (some "3") :
        StateM Machine Exit).run logAndLink).1.code = 0 := by
      decide +kernel
    obtain ⟨failed, delivered⟩ := execute_delivers h logAndLink
    obtain ⟨settings, document, rendered, -, written⟩ := delivered (by
      intro ⟨error, hfails⟩
      rw [failed error hfails] at hcode
      cases hcode)
    have houtput : settings.output = some "last" := by
      cases rendered.settled.found
      rfl
    obtain ⟨files, hrun, honly⟩ := written "last" houtput
    exact ⟨_, settings, document, files, h, rendered, hrun, honly⟩
  · have h : CommandLine.parse ["-d", "1", "run.log"] none =
        .ok { logs := ["run.log"], duration := some "1" } :=
      rfl
    have hexit : ((execute ["-d", "1", "run.log"] none : StateM Machine Exit).run logAndLink).1 =
        ⟨1, "Error: Failed to write result to stdout\n\nCaused by:\n    Broken pipe (os error 32)\n"⟩ := by
      decide +kernel
    obtain ⟨failed, delivered⟩ := execute_delivers h logAndLink
    have hfails : ∃ error, Fails logAndLink { logs := ["run.log"], duration := some "1" } error := by
      by_contra hnone
      obtain ⟨settings, document, rendered, printed, -⟩ := delivered hnone
      have houtput : settings.output = none := by
        cases rendered.settled.found
        rfl
      rw [printed houtput] at hexit
      cases hexit
    obtain ⟨error, hfails⟩ := hfails
    have hrun := failed error hfails
    rw [hrun] at hexit
    refine ⟨_, error, h, hfails, ?_⟩
    rw [hrun]
    exact Prod.ext hexit rfl
  · have h : CommandLine.parse ["-o", "../out/new", "run.log"] none =
        .ok { logs := ["run.log"], output := some "../out/new" } :=
      rfl
    have hfails : Fails logAndLink { logs := ["run.log"], output := some "../out/new" }
        (.settings (.badDuration 0)) := .check rfl rfl rfl
    exact ⟨_, _, h, hfails, (execute_delivers h logAndLink).1 _ hfails⟩

end BenchLog.Program
