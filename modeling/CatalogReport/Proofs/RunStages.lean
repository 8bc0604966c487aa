import CatalogReport.Proofs.FailedQueries
import CatalogReport.Proofs.SettingValues
import CatalogReport.Shell.Run

/-!
# Stages of a run

A run without a database goes through its stages in a fixed order: the command, the form of the
settings, their values, the catalog, then the output and the command itself. A run that stops before
the output (`Session.Stops`) reports the first problem and leaves every file as it was. Any other is
ready (`Session.Ready`), and succeeds exactly if the output can be opened and takes what the command
writes and the command does not fail; then the output holds just that.
-/

namespace CatalogReport

open FileSystem

namespace Session

/-! ## Before the output -/

def Takes (setting : String) : Prop :=
  ∃ key value, Assigns setting key value ∧ Options.Suits key value

/-- The run stops with this text before its output is opened. Each stage is reached when those
before it are passed. -/
inductive Stops (a : Arguments) (files : Files) : String → Prop where
  | command {cause : CommandError} (wrong : MetaCommand.parse a.commandLine = .error cause) :
    Stops a files ("invalid command " ++ Text.quoted a.commandLine ++ ": " ++ cause.message)
  | setting {command : MetaCommand} {earlier later : List String} {setting : String}
    (parsed : MetaCommand.parse a.commandLine = .ok command)
    (cut : a.settings = earlier ++ setting :: later)
    (keyed : ∀ other ∈ earlier, ∃ key value, Assigns other key value)
    (keyless : ∀ key value, ¬Assigns setting key value) :
    Stops a files ("invalid --pset " ++ Text.quoted setting ++ ", expected KEY=VALUE")
  | value {command : MetaCommand} {earlier later : List String} {setting key value : String}
    (parsed : MetaCommand.parse a.commandLine = .ok command)
    (keyed : ∀ other ∈ a.settings, ∃ key value, Assigns other key value)
    (cut : a.settings = earlier ++ setting :: later) (taken : ∀ other ∈ earlier, Takes other)
    (assigns : Assigns setting key value) (unsuited : ¬Options.Suits key value) :
    Stops a files ("invalid --pset: " ++
      ("invalid value " ++ Text.quoted value ++ " for rendering option " ++ Text.quoted key))
  | noCatalog {command : MetaCommand} (parsed : MetaCommand.parse a.commandLine = .ok command)
    (taken : ∀ setting ∈ a.settings, Takes setting) (absent : a.snapshot = none) :
    Stops a files "no catalog to describe: pass --url or --snapshot"
  | unreadable {command : MetaCommand} {path : String} {e : FileError}
    (parsed : MetaCommand.parse a.commandLine = .ok command)
    (taken : ∀ setting ∈ a.settings, Takes setting) (given : a.snapshot = some path)
    (refused : files.text path = .error e) :
    Stops a files ("failed to load snapshot " ++ path ++ ": " ++ (Failure.output e.message).line)
  | undecodable {command : MetaCommand} {path text : String} {cause : Failure}
    (parsed : MetaCommand.parse a.commandLine = .ok command)
    (taken : ∀ setting ∈ a.settings, Takes setting) (given : a.snapshot = some path)
    (read : files.text path = .ok text) (wrong : Snapshot.ofText text = .error cause) :
    Stops a files ("failed to load snapshot " ++ path ++ ": " ++ cause.line)

/-- The run gets to its output, with this command, these options and this snapshot. -/
structure Ready (a : Arguments) (files : Files) (command : MetaCommand) (options : Options)
    (s : Snapshot) : Prop where
  parsed : MetaCommand.parse a.commandLine = .ok command
  options : ∃ pairs, Options.AssignAll a.settings pairs ∧
    (∀ pair ∈ pairs, Options.Suits pair.1 pair.2) ∧ Options.Follows pairs options
  snapshot : ∃ path text, a.snapshot = some path ∧ files.text path = .ok text ∧
    Snapshot.ofText text = .ok s

/-! ## Settings -/

/-- Either all have a property or there is a first one that has it not. -/
theorem forall_or_first {α : Type} (P : α → Prop) (l : List α) :
    (∀ x ∈ l, P x) ∨ ∃ earlier x later, l = earlier ++ x :: later ∧
      (∀ y ∈ earlier, P y) ∧ ¬P x := by
  induction l with
  | nil => simp
  | cons x l ih =>
    by_cases h : P x
    · rcases ih with all | ⟨earlier, y, later, rfl, before, wrong⟩
      · exact .inl (List.forall_mem_cons.2 ⟨h, all⟩)
      · exact .inr ⟨x :: earlier, y, later, rfl, List.forall_mem_cons.2 ⟨h, before⟩, wrong⟩
    · exact .inr ⟨[], x, l, rfl, by simp, h⟩

theorem settingsOf_of_keyless {earlier later : List String} {setting : String}
    (keyed : ∀ other ∈ earlier, ∃ key value, Assigns other key value)
    (keyless : ∀ key value, ¬Assigns setting key value) :
    settingsOf (earlier ++ setting :: later) = .error (.badSetting setting) := by
  induction earlier with
  | nil =>
    have none : settingOf? setting = none := by
      by_contra some
      obtain ⟨pair, given⟩ := Option.ne_none_iff_exists'.1 some
      exact keyless pair.1 pair.2 (settingOf?_eq_some_iff.1 given)
    rw [List.nil_append, settingsOf, none]
  | cons other earlier ih =>
    obtain ⟨⟨key, value, assigns⟩, keyed⟩ := List.forall_mem_cons.1 keyed
    rw [List.cons_append, settingsOf, settingOf?_eq_some_iff.2 assigns, ih keyed]
    rfl

theorem exists_settingsOf {settings : List String}
    (keyed : ∀ setting ∈ settings, ∃ key value, Assigns setting key value) :
    ∃ pairs, settingsOf settings = .ok pairs := by
  simp only [Options.settingsOf_eq_ok_iff, Options.AssignAll]
  induction settings with
  | nil => exact ⟨[], .nil⟩
  | cons setting rest ih =>
    obtain ⟨⟨key, value, assigns⟩, keyed⟩ := List.forall_mem_cons.1 keyed
    obtain ⟨pairs, given⟩ := ih keyed
    exact ⟨(key, value) :: pairs, .cons assigns given⟩

theorem setAll_of_unsuited {o : Options} {pairs : List (String × String)} {key value : String}
    {later : List (String × String)} (suits : ∀ pair ∈ pairs, Options.Suits pair.1 pair.2)
    (unsuited : ¬Options.Suits key value) :
    o.setAll (pairs ++ (key, value) :: later) = .error (.invalidOption key value) := by
  induction pairs generalizing o with
  | nil =>
    rw [List.nil_append, Options.setAll_cons]
    rcases o.set_cases key value with ⟨suits, -⟩ | ⟨-, refused⟩
    · exact absurd suits unsuited
    · rw [refused]
      rfl
  | cons pair pairs ih =>
    obtain ⟨suit, suits⟩ := List.forall_mem_cons.1 suits
    rw [List.cons_append, Options.setAll_cons]
    rcases o.set_cases pair.1 pair.2 with ⟨-, next, set, -⟩ | ⟨refuses, -⟩
    · rw [set]
      exact ih suits
    · exact absurd suit refuses

theorem ofSettings_of_unsuited {settings earlier later : List String} {setting key value : String}
    (keyed : ∀ other ∈ settings, ∃ key value, Assigns other key value)
    (cut : settings = earlier ++ setting :: later) (taken : ∀ other ∈ earlier, Takes other)
    (assigns : Assigns setting key value) (unsuited : ¬Options.Suits key value) :
    Options.ofSettings settings = .error (.badOption (.invalidOption key value)) := by
  obtain ⟨pairs, given⟩ := exists_settingsOf keyed
  have all := Options.settingsOf_eq_ok_iff.1 given
  rw [cut] at all
  obtain ⟨before, _, rfl, front, back⟩ := Options.assignAll_append all
  obtain ⟨pair, after, first, -, rfl⟩ := List.forall₂_cons_left_iff.1 back
  obtain rfl : (key, value) = pair := Option.some.inj <|
    (settingOf?_eq_some_iff.2 assigns).symm.trans (settingOf?_eq_some_iff.2 first)
  obtain ⟨same, given', suits⟩ := Options.assignAll_suiting_iff.2 taken
  obtain rfl : before = same := Except.ok.inj <|
    (Options.settingsOf_eq_ok_iff.2 front).symm.trans (Options.settingsOf_eq_ok_iff.2 given')
  rw [Options.ofSettings, given]
  change (Options.setAll {} _).mapError _ = _
  rw [setAll_of_unsuited suits unsuited]
  rfl

theorem ofArguments_eq (a : Arguments) (files : Files) :
    ofArguments a files = (do
      let command ← (MetaCommand.parse a.commandLine).mapError (.badCommand a.commandLine)
      let options ← Options.ofSettings a.settings
      let (catalog, changes) ← openCatalog a files
      .ok ⟨command, options, catalog, changes⟩) := by
  unfold ofArguments Options.ofSettings
  cases settingsOf a.settings <;> rfl

variable {a : Arguments} {files : Files} {text : String}

theorem openCatalog_eq {path : String} (given : a.snapshot = some path) : openCatalog a files =
    ((loadSnapshot (files.text path)).map fun s => (.snapshot s, {})).mapError
      (.noSnapshot path) := by
  rw [openCatalog, given]

/-- What stops a run is what opening its session reports. -/
theorem Stops.ofArguments (h : Stops a files text) (offline : a.url = none) :
    ∃ e, ofArguments a files = .error e ∧ e.line = text := by
  rw [ofArguments_eq]
  cases h with
  | command wrong =>
    rw [wrong]
    exact ⟨_, rfl, rfl⟩
  | setting parsed cut keyed keyless =>
    rw [parsed, Options.ofSettings, cut, settingsOf_of_keyless keyed keyless]
    exact ⟨_, rfl, rfl⟩
  | value parsed keyed cut taken assigns unsuited =>
    rw [parsed, ofSettings_of_unsuited keyed cut taken assigns unsuited]
    exact ⟨_, rfl, congrArg ("invalid --pset: " ++ ·) (String.intercalate_singleton ..)⟩
  | noCatalog parsed taken absent =>
    obtain ⟨options, given⟩ := (Options.ofSettings_ok_iff a.settings).2 taken
    rw [parsed, given, openCatalog, absent, offline]
    exact ⟨_, rfl, rfl⟩
  | unreadable parsed taken given refused =>
    obtain ⟨options, set⟩ := (Options.ofSettings_ok_iff a.settings).2 taken
    rw [parsed, set, openCatalog_eq given, refused]
    exact ⟨_, rfl, rfl⟩
  | undecodable parsed taken given read wrong =>
    obtain ⟨options, set⟩ := (Options.ofSettings_ok_iff a.settings).2 taken
    rw [parsed, set, openCatalog_eq given, read, loadSnapshot, wrong]
    exact ⟨_, rfl, rfl⟩

/-- A run that gets to its output has a session with just these parts. -/
theorem Ready.ofArguments {command : MetaCommand} {options : Options} {s : Snapshot}
    (h : Ready a files command options s) :
    ofArguments a files = .ok ⟨command, options, .snapshot s, {}⟩ := by
  obtain ⟨path, text, given, read, decoded⟩ := h.snapshot
  rw [ofArguments_eq, h.parsed, Options.ofSettings_eq_ok_iff.2 h.options, openCatalog_eq given,
    read, loadSnapshot, decoded]
  rfl

theorem stops_or_ready (a : Arguments) (files : Files) :
    (∃ text, Stops a files text) ∨ ∃ command options s, Ready a files command options s := by
  cases parsed : MetaCommand.parse a.commandLine with
  | error cause => exact .inl ⟨_, .command parsed⟩
  | ok command =>
    rcases forall_or_first (fun setting => ∃ key value, Assigns setting key value) a.settings with
      keyed | ⟨earlier, setting, later, cut, keyed, keyless⟩
    swap
    · exact .inl ⟨_, .setting parsed cut keyed fun key value assigns =>
        keyless ⟨key, value, assigns⟩⟩
    rcases forall_or_first Takes a.settings with
      taken | ⟨earlier, setting, later, cut, taken, refused⟩
    swap
    · obtain ⟨key, value, assigns⟩ := keyed setting (by simp [cut])
      exact .inl ⟨_, .value parsed keyed cut taken assigns fun suits =>
        refused ⟨key, value, assigns, suits⟩⟩
    cases given : a.snapshot with
    | none => exact .inl ⟨_, .noCatalog parsed taken given⟩
    | some path =>
      cases read : files.text path with
      | error e => exact .inl ⟨_, .unreadable parsed taken given read⟩
      | ok text =>
        cases decoded : Snapshot.ofText text with
        | error cause => exact .inl ⟨_, .undecodable parsed taken given read decoded⟩
        | ok s =>
          obtain ⟨options, set⟩ := (Options.ofSettings_ok_iff a.settings).2 taken
          exact .inr ⟨command, options, s, parsed, Options.ofSettings_eq_ok_iff.1 set, path, text,
            given, read, decoded⟩

end Session

/-! ## Recorded queries -/

namespace Dialogue

variable {α σ : Type}

/-- A record changes nothing but that it has the queries. -/
theorem run_recording (d : Dialogue α) (r : Reader σ) (encoder : Encoder) (state : σ)
    (asked : List (Kind × Filter)) (sink : Sink) :
    d.run r.recording encoder (state, asked) sink =
      let run := d.run r encoder state sink
      let added := (d.exchanges r encoder state sink).map fun e => (e.kind, e.filter)
      (run.1, (run.2.1, added.reverse ++ asked), run.2.2) := by
  induction d generalizing state asked sink with
  | done value => rfl
  | fail failure => rfl
  | ask k filter next ih =>
    simp only [run, exchanges, Reader.recording] at ih ⊢
    rw [ih]
    simp
  | hand document next ih =>
    simp only [run, exchanges]
    cases sink.put (encoder.encode document) with
    | ok sink => exact ih (.ok ()) state asked sink
    | error failure => exact ih (.error failure) state asked sink

end Dialogue

/-! ## Simulated hosts -/

namespace Run

variable {σ : Type}

theorem bind_run {α β : Type} (x : Simulated σ α) (f : α → Simulated σ β) (around : Surroundings)
    (w : World σ) : (x >>= f) around w = f (x around w).1 around (x around w).2 :=
  rfl

theorem forM_nil_run {α : Type} (f : α → Simulated σ Unit) (around : Surroundings) (w : World σ) :
    (List.forM [] f) around w = ((), w) :=
  rfl

variable [FileSystem σ]

/-- The events that are logged: those that the environment asks for or, where it says nothing, all
with `--debug`. -/
def noted (a : Arguments) (around : Surroundings) (events : List Event) : List Event :=
  events.filter fun event => around.logged.elim a.debug (· event)

/-- What the text of a command goes to: `stdout`, or what is made at the path of the output. -/
inductive Opens (folder : σ) (stdout : Device) : Option String → Target → σ → Prop where
  | stdout : Opens folder stdout none (.device stdout) folder
  | made {path : String} {target : Target} {folder' : σ}
    (h : create folder path = .ok (target, folder')) :
    Opens folder stdout (some path) target folder'

section Steps

variable (a : Arguments) (around : Surroundings) (w : World σ)

theorem log_run (event : Event) : (log a event : Simulated σ Unit) around w =
    ((), { w with log := w.log ++ noted a around [event] }) := by
  have step : (log a event : Simulated σ Unit) around w =
      (if around.logged.elim a.debug (· event) then Host.note event
        else pure () : Simulated σ Unit) around w := rfl
  rw [step, noted, List.filter_singleton]
  cases around.logged.elim a.debug (· event) with
  | true => rfl
  | false =>
    simp only [List.append_nil, cond_false]
    rfl

theorem forM_log_run (queries : List (Kind × Filter)) :
    (queries.forM fun query => log a (.query query.1 query.2) : Simulated σ Unit) around w =
      ((), { w with
        log := w.log ++ noted a around (queries.map fun query => .query query.1 query.2) }) := by
  induction queries generalizing w with
  | nil =>
    simp only [noted, List.map_nil, List.filter_nil, List.append_nil]
    rfl
  | cons query queries ih =>
    change (log a (.query query.1 query.2) >>= fun _ => List.forM queries _ : Simulated σ Unit)
      around w = _
    rw [bind_run, log_run, ih]
    simp only [noted, List.append_assoc, ← List.filter_append, List.map_cons, List.singleton_append]

/-- The output is opened, or it is not and nothing has changed. -/
theorem target_cases (output : Option String) :
    (∃ made folder, Opens w.folder around.stdout output made folder ∧
      (target output : Simulated σ _) around w = (.ok made, { w with folder := folder })) ∨
    ∃ message, (target output : Simulated σ (Except String Target)) around w = (.error message, w) ∧
      ∀ made folder, ¬Opens w.folder around.stdout output made folder := by
  cases output with
  | none => exact .inl ⟨_, _, .stdout, rfl⟩
  | some path =>
    have step : (target (some path) : Simulated σ (Except String Target)) around w =
        ((w.create path).1.mapError (outputError path), (w.create path).2) := rfl
    rw [step, World.create]
    cases found : create w.folder path with
    | ok made => exact .inl ⟨_, _, .made found, rfl⟩
    | error e =>
      refine .inr ⟨_, rfl, fun made folder opens => ?_⟩
      cases opens with
      | made h => exact absurd (found.symm.trans h) (by simp)

theorem onSession_of_closed {session : Session} {message : String}
    (h : (target a.output : Simulated σ (Except String Target)) around w = (.error message, w)) :
    ((onSession a session : Simulated σ Nat) around w).1 = failed := by
  rw [onSession, bind_run, h]
  rfl

theorem files_run (paths : List String) :
    (Host.files paths : Simulated σ Files) around w = (files w.folder, w) :=
  rfl

theorem isTerminal_run :
    (Host.isTerminal : Simulated σ Bool) around w = (around.stdout == .terminal, w) :=
  rfl

theorem write_run (made : Target) (text : String) :
    (Host.write made text : Simulated σ (Except FileError Unit)) around w = w.write made text :=
  rfl

theorem finish_run (code : Nat) (text : String) :
    (finish code text : Simulated σ Nat) around w = (code, { w with err := w.err ++ text }) :=
  rfl

theorem closingUnwritten_code (held : Performance) (e : FileError) :
    (closingUnwritten held e).1 = failed := by
  unfold closingUnwritten
  cases held.result <;> rfl

section Opened

variable {a around w} {session : Session} {s : Snapshot} (given : session.catalog = .snapshot s)
  {made : Target} {w' w'' : World σ}
  (opened : (target a.output : Simulated σ (Except String Target)) around w = (.ok made, w'))
  {whole : Performance} (performed : session.perform (files w'.folder)
    (Session.encoderFor a (around.stdout == .terminal)) {} = whole)

include given opened performed

theorem onSession_of_taken
    (taken : World.write
        { w' with log := w'.log ++ noted a around [.executing session.command.name] }
      made whole.text = (.ok (), w'')) :
    (onSession a session : Simulated σ Nat) around w = ((closing whole.result).1, { w'' with
      err := w''.err ++ (closing whole.result).2
      log :=
        w''.log ++ noted a around (whole.queries.map fun query => .query query.1 query.2) }) := by
  have none (files : Files) : session.catalog.leftovers files = [] := by rw [given]; rfl
  rw [onSession, bind_run, opened]
  simp only [bind_run, log_run, files_run, isTerminal_run, none, forM_nil_run, write_run, performed,
    taken, forM_log_run]
  exact finish_run _ _ _ _

theorem onSession_of_refused {e : FileError}
    (refused : World.write
        { w' with log := w'.log ++ noted a around [.executing session.command.name] }
      made whole.text = (.error e, w'')) :
    ((onSession a session : Simulated σ Nat) around w).1 = failed := by
  have none (files : Files) : session.catalog.leftovers files = [] := by rw [given]; rfl
  rw [onSession, bind_run, opened]
  simp only [bind_run, log_run, files_run, isTerminal_run, none, forM_nil_run, write_run, performed,
    refused, forM_log_run]
  exact closingUnwritten_code _ e

end Opened

theorem onArguments_of_stops {text : String} (stops : Session.Stops a (files w.folder) text)
    (offline : a.url = none) :
    (onArguments a : Simulated σ Nat) around w =
      (66, { w with err := w.err ++ ("metascope: error: " ++ text ++ "\n") }) := by
  obtain ⟨e, stopped, rfl⟩ := stops.ofArguments offline
  rw [onArguments, bind_run, files_run]
  simp only [stopped]
  rfl

theorem onArguments_of_ready {command : MetaCommand} {options : Options} {s : Snapshot}
    (ready : Session.Ready a (files w.folder) command options s) :
    (onArguments a : Simulated σ Nat) around w =
      (onSession a ⟨command, options, .snapshot s, {}⟩ : Simulated σ Nat) around
        { w with log := w.log ++ noted a around [.catalogReady s.driverName .all] } := by
  rw [onArguments, bind_run, files_run]
  simp only [ready.ofArguments]
  rw [bind_run]
  change (log a _ >>= fun _ => _ : Simulated σ Nat) around w = _
  rw [bind_run, log_run]
  rfl

end Steps

end Run

/-! ## The end of a run -/

section World

variable {σ : Type}

/-- What a device shows of a text that it took, and nothing else is printed. -/
def World.Prints (w : World σ) (d : Device) (text : String) : Prop :=
  match d with
  | .print | .terminal => w.out = text ∧ w.err = ""
  | .report => w.out = "" ∧ w.err = text
  | .drop | .refuse => w.out = "" ∧ w.err = ""

/-- What was opened holds the text: a file is read back with it at the path of the output. -/
def World.Holds [FileSystem σ] (w : World σ) (output : Option String) (opened : Target)
    (folder : σ) (text : String) : Prop :=
  match opened with
  | .file _ => w.out = "" ∧ w.err = "" ∧ ∃ path, output = some path ∧
    (files w.folder).text path = .ok text ∧ (files w.folder).bytes path = .ok text.toUTF8.toList
  | .device d => w.folder = folder ∧ w.Prints d text

end World

namespace Run

variable {σ : Type} [FileSystem σ]

theorem Opens.unique {folder folder' folder'' : σ} {stdout : Device} {output : Option String}
    {made made' : Target} (h : Opens folder stdout output made folder')
    (h' : Opens folder stdout output made' folder'') : made = made' ∧ folder' = folder'' := by
  cases h with
  | stdout =>
    cases h'
    exact ⟨rfl, rfl⟩
  | made h =>
    cases h' with
    | made h' => simpa using h.symm.trans h'

/-- What was opened takes a text and holds it then, or it refuses one that is not empty. -/
theorem write_cases {folder folder' : σ} {stdout : Device} {output : Option String} {made : Target}
    (opens : Opens folder stdout output made folder') (log : List Event) (text : String) :
    (∃ w, World.write { folder := folder', log := log } made text = (.ok (), w) ∧ w.log = log ∧
      (made = .device .refuse → text = "") ∧
      ∀ log', World.Holds { w with err := w.err ++ "", log := log' } output made folder' text) ∨
    (∃ e w, World.write { folder := folder', log := log } made text = (.error e, w)) ∧
      made = .device .refuse ∧ text ≠ "" := by
  cases made with
  | file name =>
    cases opens with
    | made h =>
      exact .inl ⟨_, rfl, rfl, by simp,
        fun _ => ⟨rfl, rfl, _, rfl, text_put text h, bytes_put text h⟩⟩
  | device d =>
    cases d with
    | refuse =>
      by_cases empty : text = ""
      · subst empty
        exact .inl ⟨_, rfl, rfl, fun _ => rfl, fun _ => ⟨rfl, rfl, rfl⟩⟩
      · refine .inr ⟨⟨.noSpace, { folder := folder', log := log }, ?_⟩, rfl, empty⟩
        rw [World.write, if_neg (by simpa using empty)]
    | _ =>
      refine .inl ⟨_, rfl, rfl, by simp, fun _ => ⟨rfl, ?_⟩⟩
      simp [World.Prints]

/-- The end of a command with this result, text and events: its run succeeds if the command does not
fail and the output can be opened and takes the text, and then the output holds the text. -/
structure Ends (a : Arguments) (folder : σ) (around : Surroundings) (result : Except Failure Unit)
    (text : String) (events : List Event) (o : Outcome σ) : Prop where
  code_eq : o.code = 0 ∨ o.code = 1
  succeeds : o.code = 0 ↔ result = .ok () ∧ ∃ opened folder',
    Opens folder around.stdout a.output opened folder' ∧ (opened = .device .refuse → text = "")
  holds : o.code = 0 → ∃ opened folder', Opens folder around.stdout a.output opened folder' ∧
    o.Holds a.output opened folder' text
  logged : o.code = 0 → o.log = events.filter fun event => around.logged.elim a.debug (· event)

theorem ends_of_failure {a : Arguments} {folder : σ} {around : Surroundings}
    {result : Except Failure Unit} {text : String} {events : List Event} {o : Outcome σ}
    (code : o.code = 1) (wrong : result = .ok () → ∀ opened folder',
      Opens folder around.stdout a.output opened folder' → opened = .device .refuse ∧ text ≠ "") :
    Ends a folder around result text events o where
  code_eq := .inr code
  succeeds := by
    refine iff_of_false (by simp [code]) ?_
    rintro ⟨fine, opened, folder', opens, takes⟩
    obtain ⟨refuses, nonempty⟩ := wrong fine opened folder' opens
    exact nonempty (takes refuses)
  holds := by simp [code]
  logged := by simp [code]

/-- A session with a snapshot ends as its command and its output do. -/
theorem ends_onSession (a : Arguments) (around : Surroundings) (folder : σ) (earlier : List Event)
    {session : Session} {s : Snapshot} (given : session.catalog = .snapshot s) {whole : Performance}
    (performed : ∀ files,
      session.perform files (Session.encoderFor a (around.stdout == .terminal)) {} = whole) :
    let done := (onSession a session : Simulated σ Nat) around
      { folder := folder, log := noted a around earlier }
    Ends a folder around whole.result whole.text
      (earlier ++ .executing session.command.name ::
        whole.queries.map fun query => .query query.1 query.2)
      { done.2 with code := done.1 } := by
  intro done
  rcases target_cases around { folder := folder, log := noted a around earlier } a.output with
    ⟨made, folder', opens, opened⟩ | ⟨message, closed, none⟩
  swap
  · exact ends_of_failure (onSession_of_closed a around _ closed) fun _ made folder' opens =>
      absurd opens (none made folder')
  rcases write_cases opens
    (noted a around earlier ++ noted a around [.executing session.command.name])
    whole.text with ⟨w, taken, logged, takes, holds⟩ | ⟨⟨e, w, refused⟩, refuses, nonempty⟩
  swap
  · exact ends_of_failure (onSession_of_refused given opened (performed _) refused)
      fun _ made' folder'' opens' => ⟨(opens'.unique opens).1.trans refuses, nonempty⟩
  have ran : done = _ := onSession_of_taken given opened (performed _) taken
  cases result : whole.result with
  | error failure =>
    refine ends_of_failure ?_ fun fine => nomatch fine
    rw [ran, result]
    rfl
  | ok _ =>
    rw [result] at ran
    exact {
      code_eq := .inl (by rw [ran]; rfl)
      succeeds := iff_of_true (by rw [ran]; rfl) ⟨rfl, made, folder', opens, takes⟩
      holds := fun _ => ⟨made, folder', opens, by rw [ran]; exact holds _⟩
      logged := fun _ => by simp [ran, logged, noted, ← List.filter_append] }

end Run

/-- A snapshot's session goes as its command goes with the reader of the snapshot. -/
theorem Session.perform_snapshot (command : MetaCommand) (options : Options) (s : Snapshot)
    (files : Files) (encoder : Encoder) :
    perform ⟨command, options, .snapshot s, {}⟩ files encoder {} =
      let r := s.reader .all .none
      let dialogue := command.dialogue (.ofReader r (configFor s.driverName options))
      let run := dialogue.run r encoder [] {}
      ⟨run.1, run.2.2.text, (dialogue.exchanges r encoder [] {}).map fun e =>
        (e.kind, e.filter)⟩ := by
  have recorded := (command.dialogue (.ofReader (s.reader .all .none)
    (configFor s.driverName options))).run_recording (s.reader .all .none) encoder [] [] {}
  have same : Describer.ofReader (s.reader .all .none).recording (configFor s.driverName options) =
      .ofReader (s.reader .all .none) (configFor s.driverName options) := rfl
  have driver : (Catalog.snapshot s).driver = s.driverName := rfl
  simp only [perform, Catalog.hold, driver, same, recorded]
  simp

/-! ## Whole runs -/

namespace Run

variable {σ : Type} [FileSystem σ]

theorem configFor_eq (driver : String) (options : Options) :
    Session.configFor driver options = match Engine.ofDriver? driver with
      | some e => { options := options, systemSchemas := .ofList e.systemSchemas }
      | none => { options := options } := by
  unfold Session.configFor
  cases Engine.ofDriver? driver <;> rfl

/-- A run without a database either stops before its output or gets to it:

* a run that stops reports the first problem, ends with 66, prints nothing and changes no file;
* any other ends with 0 or 1, and with 0 exactly if the command does not fail and the output can be
  opened and takes its text; then the output holds just that text, and the catalog, the command and
  its queries are logged as far as that is wanted. -/
theorem ofWords_staged {words : List String} {a : Arguments}
    (accepted : Arguments.ofWords words = .ok a) (offline : a.url = none) (folder : σ)
    (around : Surroundings) :
    ((∃ text, Session.Stops a (files folder) text) ∨
      ∃ command options s, Session.Ready a (files folder) command options s) ∧
    (∀ text, Session.Stops a (files folder) text → ofWords folder words around =
      { code := 66, out := "", err := "metascope: error: " ++ text ++ "\n", log := [],
        folder := folder }) ∧
    ∀ command options s, Session.Ready a (files folder) command options s →
      let config : Config := match Engine.ofDriver? s.driverName with
        | some e => { options := options, systemSchemas := .ofList e.systemSchemas }
        | none => { options := options }
      let encoder : Encoder := match a.format with
        | .table => .table (around.stdout == .terminal && !a.noColor && a.output.isNone)
        | .json => .json (if a.compact then .compact else .indented)
      let r := s.reader .all .none
      let dialogue := command.dialogue (.ofReader r config)
      let run := dialogue.run r encoder [] {}
      Ends a folder around run.1 run.2.2.text
        ([.catalogReady s.driverName .all, .executing command.name] ++
          (dialogue.exchanges r encoder [] {}).map fun e => Event.query e.kind e.filter)
        (ofWords folder words around) := by
  have start : ofWords folder words around =
      { ((onArguments a : Simulated σ Nat) around { folder := folder }).2 with
        code := ((onArguments a : Simulated σ Nat) around { folder := folder }).1 } := by
    simp only [ofWords, onWords, accepted]
    rcases (onArguments a : Simulated σ Nat) around { folder := folder } with ⟨code, world⟩
    rfl
  refine ⟨Session.stops_or_ready a _, fun text stops => ?_, fun command options s ready => ?_⟩
  · rw [start, onArguments_of_stops a around { folder := folder } stops offline]
    simp
  · intro config encoder r dialogue run
    have performed (files : Files) :
        Session.perform ⟨command, options, .snapshot s, {}⟩ files
          (Session.encoderFor a (around.stdout == .terminal)) {} =
            ⟨run.1, run.2.2.text,
              (dialogue.exchanges r encoder [] {}).map fun e => (e.kind, e.filter)⟩ := by
      rw [Session.perform_snapshot, configFor_eq]
      rfl
    have ends := ends_onSession a around folder [.catalogReady s.driverName .all] rfl performed
    rw [start, onArguments_of_ready a around { folder := folder } ready]
    simpa [Function.comp_def] using ends

def schemaText : String :=
  "\x7b\"driver\":\"x\",\"schemas\":[\x7b\"schema\":\"a\"\x7d]\x7d"

def schemaList : String :=
  "\x7b\"rows\":[\x7b\"Catalog\":\"\",\"Schema\":\"a\"\x7d],\"title\":\"List of schemas\"\x7d\n"

theorem ofText_schemaText : ∃ s, Snapshot.ofText schemaText = .ok s ∧ s.driver = "x" ∧
    s.schemas = [{ schema := "a" }] := by
  have parts : (Snapshot.ofText schemaText).toOption.map (fun s =>
      (s.driver, s.schemas.map fun row => (row.schema, row.catalog))) =
        some ("x", [("a", "")]) := by
    decide +kernel
  cases loaded : Snapshot.ofText schemaText with
  | error e => simp [loaded, Except.toOption] at parts
  | ok s =>
    simp only [loaded, Except.toOption, Option.map_some, Option.some.injEq, Prod.mk.injEq,
      List.map_eq_singleton_iff] at parts
    obtain ⟨driver, ⟨schema, catalog⟩, schemas, rfl, rfl⟩ := parts
    exact ⟨s, rfl, driver, schemas⟩

/-- A setting without a key leaves the output file as it was; without the setting the schema is
written to it and the run is logged. -/
theorem ofWords_staged_schemas :
    ofWords ([("out", "kept")] : Folder) ["-o", "out", "--pset", "border", "\\dn"] =
        { code := 66, out := "", log := [], folder := [("out", "kept")],
          err := "metascope: error: " ++
            ("invalid --pset " ++ Text.quoted "border" ++ ", expected KEY=VALUE") ++ "\n" } ∧
      let o := ofWords ([("in", schemaText), ("out", "kept")] : Folder)
        ["-s", "in", "-o", "out", "-f", "json", "-c", "--debug", "\\dn"]
      o.code = 0 ∧ o.out = "" ∧ o.err = "" ∧ (files o.folder).text "out" = .ok schemaList ∧
        o.log = [.catalogReady "x" .all, .executing "list_schemas", .query .schemas {}] := by
  have keyless : Arguments.ofWords ["-o", "out", "--pset", "border", "\\dn"] =
      .ok { command := ["\\dn"], settings := ["border"], output := some "out" } := rfl
  have accepted :
      Arguments.ofWords ["-s", "in", "-o", "out", "-f", "json", "-c", "--debug", "\\dn"] =
      .ok
        { command := ["\\dn"], snapshot := some "in", output := some "out", format := .json,
          compact := true, debug := true } := rfl
  have stops : Session.Stops { command := ["\\dn"], settings := ["border"], output := some "out" }
      (files ([("out", "kept")] : Folder))
      ("invalid --pset " ++ Text.quoted "border" ++ ", expected KEY=VALUE") := by
    refine .setting rfl (show ["border"] = [] ++ "border" :: [] from rfl) (by simp)
      fun key value assigns => ?_
    have none : settingOf? "border" = none := rfl
    rw [settingOf?_eq_some_iff.2 assigns] at none
    cases none
  refine ⟨(ofWords_staged keyless rfl ([("out", "kept")] : Folder) {}).2.1 _ stops, ?_⟩
  obtain ⟨s, loaded, driver, schemas⟩ := ofText_schemaText
  obtain ⟨⟩ := s
  subst driver schemas
  have ready : Session.Ready
      { command := ["\\dn"], snapshot := some "in", output := some "out", format := .json,
        compact := true, debug := true }
      (files ([("in", schemaText), ("out", "kept")] : Folder)) (.listSchemas "" false false) {} _ :=
    ⟨rfl, ⟨[], .nil, by simp, Options.follows_nil⟩, "in", schemaText, rfl, rfl, loaded⟩
  have ends := (ofWords_staged accepted rfl ([("in", schemaText), ("out", "kept")] : Folder) {}).2.2
    _ _ _ ready
  generalize ofWords ([("in", schemaText), ("out", "kept")] : Folder)
    ["-s", "in", "-o", "out", "-f", "json", "-c", "--debug", "\\dn"] {} = o at ends ⊢
  have created : create ([("in", schemaText), ("out", "kept")] : Folder) "out" =
      .ok (.file "out", ([("in", schemaText), ("out", "")] : Folder)) := rfl
  have code : o.code = 0 := ends.succeeds.2 ⟨rfl, _, _, .made created, by simp⟩
  obtain ⟨opened, folder', opens, holds⟩ := ends.holds code
  obtain ⟨rfl, rfl⟩ := opens.unique (.made created)
  obtain ⟨out, err, path, given, text, -⟩ := holds
  obtain rfl : "out" = path := Option.some.inj given
  have written : "" ++ Encoder.encode (.json .compact) (.table ⟨["Schema", "Catalog"], [["a", ""]]⟩
      { title := some "List of schemas" }) = schemaList := by decide +kernel
  exact ⟨code, out, err, text.trans (congrArg _ written), ends.logged code⟩

end Run

end CatalogReport
