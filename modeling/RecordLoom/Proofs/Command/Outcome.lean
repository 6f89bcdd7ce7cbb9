import RecordLoom.Command.Run
import RecordLoom.Proofs.Command.Printing
import RecordLoom.Proofs.Generation.Outcome
import RecordLoom.Proofs.Inputs.Writing

/-!
# What a command leaves behind

A command line either succeeds or leaves nothing: no text on its output and the folder as it was.  A
call of `generate` that succeeds delivers the source text of the generation, to its output or to a
file; `inspect` then reports the model of the same generation.
-/

namespace RecordLoom.Command

open RecordLoom.Catalog
open RecordLoom.Inputs
open RecordLoom.Report

/-! ## Calls -/

/-- A command line that calls a command, with the reading of what follows its name. -/
structure Invokes (arguments : List String) (name : String) (line : Line) : Prop where
  called : ∃ group rest, readLine groupSwitches false none arguments = some group ∧
    World.askedText? group = none ∧ group.operands = name :: rest ∧
    readLine (switchesOf name) true none rest = some line
  noHelp : line.has .help = false

/-- The folder after a command, with the files that it wrote. -/
def Outcome.folderAfter (outcome : Outcome) (folder : Folder) : Folder :=
  outcome.writes.foldl (fun folder file => folder.write file.1 file.2.toUTF8.data.toList) folder

/-- A command failed and left nothing. -/
structure Outcome.LeavesNothing (outcome : Outcome) (folder : Folder) : Prop where
  output : outcome.output = ""
  folder : outcome.folderAfter folder = folder

/-! ## Switches that are read -/

def Knows (switches : List Switch) (key : Key) : Prop := ∃ switch ∈ switches, switch.key = key

def Step.IsKnown (switches : List Switch) (step : Step) : Prop :=
  (∀ x ∈ step.1, Knows switches x.1) ∧ ∀ key, step.2 = some key → Knows switches key

theorem isKnown_of_readWord {switches : List Switch} {body : List Char} {step : Step}
    (h : readWord switches body = some step) : step.IsKnown switches := by
  obtain ⟨switch, hfind, h⟩ := Option.bind_eq_some_iff.mp h
  have hknown : Knows switches switch.key := ⟨switch, List.mem_of_find?_eq_some hfind, rfl⟩
  split at h <;> cases h <;> simp [Step.IsKnown, hknown]

theorem isKnown_of_readLetters {switches : List Switch} {letters : List Char} {step : Step}
    (h : readLetters switches letters = some step) : step.IsKnown switches := by
  induction letters generalizing step with
  | nil =>
      cases h
      simp [Step.IsKnown]
  | cons letter rest ih =>
      rw [readLetters] at h
      obtain ⟨switch, hfind, h⟩ := Option.bind_eq_some_iff.mp h
      have hknown : Knows switches switch.key := ⟨switch, List.mem_of_find?_eq_some hfind, rfl⟩
      split at h
      · cases h
        split <;> simp [Step.IsKnown, hknown]
      · obtain ⟨⟨given, wanted⟩, hrest, h⟩ := Option.bind_eq_some_iff.mp h
        cases h
        obtain ⟨hgiven, hwanted⟩ := ih hrest
        exact ⟨List.forall_mem_cons.mpr ⟨hknown, hgiven⟩, hwanted⟩

theorem isKnown_of_readSwitch {switches : List Switch} {argument : List Char} {step : Step}
    (h : readSwitch switches argument = some step) : step.IsKnown switches := by
  unfold readSwitch at h
  split at h
  · exact isKnown_of_readWord h
  · exact isKnown_of_readLetters h
  · cases h

theorem knows_of_readLine {switches : List Switch} {between : Bool} {wanted : Option Key}
    {arguments : List String} {line : Line}
    (h : readLine switches between wanted arguments = some line)
    (hwanted : ∀ key, wanted = some key → Knows switches key) :
    ∀ x ∈ line.given, Knows switches x.1 := by
  induction arguments generalizing wanted line with
  | nil =>
      rw [readLine] at h
      split at h <;> cases h
      simp
  | cons argument rest ih =>
      cases wanted with
      | some key =>
          rw [readLine] at h
          obtain ⟨read, hread, rfl⟩ := Option.map_eq_some_iff.mp h
          exact List.forall_mem_append.mpr ⟨by simpa using hwanted key rfl, ih hread nofun⟩
      | none =>
          rw [readLine] at h
          split_ifs at h
          · cases h
            simp
          · obtain ⟨⟨given, next⟩, hstep, h⟩ := Option.bind_eq_some_iff.mp h
            obtain ⟨read, hread, rfl⟩ := Option.map_eq_some_iff.mp h
            obtain ⟨hgiven, hnext⟩ := isKnown_of_readSwitch hstep
            exact List.forall_mem_append.mpr ⟨hgiven, ih hread hnext⟩
          · obtain ⟨read, hread, rfl⟩ := Option.map_eq_some_iff.mp h
            have hgiven : ∀ x ∈ read.given, Knows switches x.1 := ih hread nofun
            exact hgiven
          · cases h
            simp

theorem value?_of_not_knows {switches : List Switch} {arguments : List String} {line : Line}
    {key : Key} (h : readLine switches true none arguments = some line)
    (hkey : ¬ Knows switches key) : line.value? key = none := by
  rw [Line.value?, List.lookup_eq_none_iff]
  intro x hx
  have hknown := knows_of_readLine h nofun x (List.mem_reverse.mp hx)
  exact bne_iff_ne.mpr fun hsame => hkey (hsame ▸ hknown)

variable {State : Type} (world : World State)

namespace World

/-- What a call of `generate` asks for is generated. -/
structure Generates (line : Line) (state : State) (g : Generation) : Prop where
  proper : world.isProper line = true
  generated : ∃ settings, world.settings line = .ok settings ∧
    (Generation.run world.engine world.folder settings (paths line) (wantedName line)
      (.start state)).1 = .ok g

/-- A call of `generate` succeeds with a source text: it is printed, without escape sequences, or
written as it is to the file that the call names. -/
structure Delivers (folder : Folder) (line : Line) (g : Generation) (outcome : Outcome) :
    Prop where
  exitCode : outcome.exitCode = 0
  printed : line.value? .output = none →
    outcome.output = Text.withoutSequences g.source ∧
      (outcome.output = g.source ↔ ¬ Text.HoldsSequence g.source) ∧
      outcome.folderAfter folder = folder
  written : ∀ path, line.value? .output = some path → outcome.output = "" ∧
    folder.Wrote (outcome.folderAfter folder) (.ofString path) g.source.toUTF8.data.toList

end World

/-! ## Failures -/

def Outcome.IsClean (outcome : Outcome) : Prop :=
  outcome.exitCode = 0 ∨ outcome.output = "" ∧ outcome.writes = []

theorem Outcome.IsClean.leavesNothing {outcome : Outcome} (h : outcome.IsClean)
    (hexit : outcome.exitCode ≠ 0) (folder : Folder) : outcome.LeavesNothing folder := by
  obtain ⟨houtput, hwrites⟩ := h.resolve_left hexit
  exact ⟨houtput, by rw [Outcome.folderAfter, hwrites, List.foldl_nil]⟩

namespace World

theorem delivered_isClean (g : Generation) (path : Path) (status : List String) :
    (world.delivered g path status).IsClean := by
  unfold delivered
  split
  · exact .inl rfl
  · exact .inr ⟨rfl, rfl⟩

theorem generateOutcome_isClean (line : Line) (result : Except Failure Generation) :
    (world.generateOutcome line result).IsClean := by
  cases result with
  | error f => exact .inr ⟨rfl, rfl⟩
  | ok g =>
      unfold generateOutcome
      dsimp only
      split
      · exact delivered_isClean world g _ _
      · exact .inl rfl

theorem inspectOutcome_isClean (line : Line) (result : Except Failure Database) :
    (inspectOutcome line result).IsClean := by
  cases result with
  | error f => exact .inr ⟨rfl, rfl⟩
  | ok database =>
      unfold inspectOutcome
      dsimp only
      split <;> exact .inl rfl

section

variable {command : Line → Settings → State → Ended State} {line : Line} {state : State}

theorem withSettings_improper (verbose : Bool) (h : world.isProper line = false) :
    (world.withSettings verbose line command state).outcome = .misuse := by
  simp [withSettings, h]

theorem withSettings_error (verbose : Bool) {f : Failure} (hproper : world.isProper line = true)
    (h : world.settings line = .error f) :
    (world.withSettings verbose line command state).outcome = .failed [] f := by
  simp [withSettings, hproper, h]

theorem withSettings_ok (verbose : Bool) {settings : Settings}
    (hproper : world.isProper line = true) (h : world.settings line = .ok settings) :
    (world.withSettings verbose line command state).outcome =
      (command line settings state).outcome := by
  simp [withSettings, hproper, h]

theorem withSettings_isClean (verbose : Bool)
    (hcommand : ∀ settings, (command line settings state).outcome.IsClean) :
    (world.withSettings verbose line command state).outcome.IsClean := by
  cases hproper : world.isProper line with
  | false =>
      rw [withSettings_improper world verbose hproper]
      exact .inr ⟨rfl, rfl⟩
  | true =>
      cases hsettings : world.settings line with
      | error f =>
          rw [withSettings_error world verbose hproper hsettings]
          exact .inr ⟨rfl, rfl⟩
      | ok settings =>
          rw [withSettings_ok world verbose hproper hsettings]
          exact hcommand settings

end

theorem withArguments_isClean (verbose : Bool) (arguments : List String)
    (switches : List Switch) (help : String) {command : Line → Settings → State → Ended State}
    {state : State} (hcommand : ∀ line settings, (command line settings state).outcome.IsClean) :
    (world.withArguments verbose arguments switches help command state).outcome.IsClean := by
  unfold withArguments
  split
  · exact .inr ⟨rfl, rfl⟩
  · split
    · exact .inl rfl
    · exact withSettings_isClean world verbose (hcommand _)

theorem command_isClean (verbose : Bool) (name : String) (arguments : List String)
    (state : State) : (world.command verbose name arguments state).outcome.IsClean := by
  unfold command
  split
  · exact withArguments_isClean world verbose _ _ _ fun line settings =>
      generateOutcome_isClean world line _
  · exact withArguments_isClean world verbose _ _ _ fun line settings =>
      inspectOutcome_isClean line _
  · exact .inr ⟨rfl, rfl⟩

theorem run_isClean (arguments : List String) (state : State) :
    (world.run arguments state).outcome.IsClean := by
  unfold run
  split
  · exact .inr ⟨rfl, rfl⟩
  · split
    · exact .inl rfl
    · exact .inr ⟨rfl, rfl⟩
    · exact command_isClean world _ _ _ state

/-! ## Calls of one command -/

theorem run_of_invokes {name : String} {help : String}
    {body : Line → Settings → State → Ended State} {state : State}
    (hcommand : ∀ verbose arguments, world.command verbose name arguments state =
      world.withArguments verbose arguments (switchesOf name) help body state)
    {arguments : List String} {line : Line} (h : Invokes arguments name line) :
    ∃ verbose, (world.run arguments state).outcome =
      (world.withSettings verbose line body state).outcome := by
  obtain ⟨⟨group, rest, hgroup, hasked, hoperands, hline⟩, hhelp⟩ := h
  refine ⟨group.has .verbose, ?_⟩
  simp [run, hgroup, hasked, hoperands, hcommand, withArguments, hline, hhelp]

theorem generate_outcome (line : Line) (settings : Settings) (state : State) :
    (world.generate line settings state).outcome = world.generateOutcome line
      (Generation.run world.engine world.folder settings (paths line) (wantedName line)
        (.start state)).1 :=
  rfl

theorem inspect_outcome (line : Line) (settings : Settings) (state : State) :
    (world.inspect line settings state).outcome = inspectOutcome line
      (Generation.describe world.engine world.folder settings.naming (paths line)
        (Generation.rawName (wantedName line) (paths line)) (.start state)).1 :=
  rfl

theorem generateOutcome_delivers {line : Line} (g : Generation)
    (hwritable : ∀ path, line.value? .output = some path →
      world.folder.isWritable (.ofString path) = true) :
    Delivers world.folder line g (world.generateOutcome line (.ok g)) := by
  cases houtput : line.value? .output with
  | none =>
      simp only [generateOutcome, houtput]
      refine ⟨rfl, fun _ => ⟨rfl, Text.withoutSequences_eq_self_iff g.source, rfl⟩, ?_⟩
      intro path hpath
      rw [houtput] at hpath
      cases hpath
  | some path =>
      have hpath := hwritable path houtput
      simp only [generateOutcome, houtput, delivered, if_pos hpath]
      refine ⟨rfl, fun hnone => ?_, fun other hother => ?_⟩
      · rw [houtput] at hnone
        cases hnone
      · rw [houtput] at hother
        cases hother
        exact ⟨rfl, Folder.wrote_write hpath _⟩

theorem generates_iff {line : Line} {settings : Settings} {state : State} {g : Generation}
    (hproper : world.isProper line = true) (hsettings : world.settings line = .ok settings) :
    world.Generates line state g ↔
      (Generation.run world.engine world.folder settings (paths line) (wantedName line)
        (.start state)).1 = .ok g := by
  constructor
  · rintro ⟨-, other, hother, hg⟩
    rw [hsettings] at hother
    cases hother
    exact hg
  · exact fun hg => ⟨hproper, settings, hsettings, hg⟩

/-- A call of `generate` generates and delivers, or it fails. -/
theorem run_delivers {arguments : List String} {line : Line} (state : State)
    (h : Invokes arguments "generate" line)
    (hwritable : ∀ path, line.value? .output = some path →
      world.folder.isWritable (.ofString path) = true) :
    (∃ g, world.Generates line state g ∧
        Delivers world.folder line g (world.run arguments state).outcome) ∨
      (∀ g, ¬ world.Generates line state g) ∧ (world.run arguments state).outcome.exitCode ≠ 0 := by
  obtain ⟨verbose, hrun⟩ := run_of_invokes world (fun _ _ => rfl) h
  rw [hrun]
  cases hproper : world.isProper line with
  | false =>
      rw [withSettings_improper world verbose hproper]
      exact .inr ⟨fun g hg => by simp [hg.proper] at hproper, nofun⟩
  | true =>
      cases hsettings : world.settings line with
      | error f =>
          rw [withSettings_error world verbose hproper hsettings]
          refine .inr ⟨fun g hg => ?_, nofun⟩
          obtain ⟨settings, hother, -⟩ := hg.generated
          rw [hsettings] at hother
          cases hother
      | ok settings =>
          rw [withSettings_ok world verbose hproper hsettings, generate_outcome]
          simp only [generates_iff world hproper hsettings]
          cases (Generation.run world.engine world.folder settings (paths line)
              (wantedName line) (.start state)).1 with
          | error f => exact .inr ⟨nofun, nofun⟩
          | ok g => exact .inl ⟨g, rfl, generateOutcome_delivers world g hwritable⟩

/-! ## Both commands -/

/-- Both commands see the same model: `describe` is the first part of a generation. -/
theorem describe_of_run {engine : Engine State} {folder : Folder} {settings : Settings}
    {paths : List Path} {name : Option String} {state : State} {g : Generation}
    (h : (Generation.run engine folder settings paths name (.start state)).1 = .ok g) :
    (Generation.describe engine folder settings.naming paths (Generation.rawName name paths)
      (.start state)).1 = .ok g.database := by
  rw [Generation.run_result] at h
  rcases hacquire : acquire engine folder paths (.start state) with ⟨f | schema, acquired⟩
  · rw [hacquire] at h
    cases h
  · rw [hacquire] at h
    have hcomplete := Generation.finish_ok settings paths name h
    rw [hcomplete.database]
    obtain ⟨next, hdescribe⟩ := Generation.describe_ok engine folder paths hacquire
    rw [hdescribe]

/-- The output of `inspect` in the form for programs: the name of a database, the names of its
records by SQL name, and its diagnostics. -/
def modelReport (database : Database) : String :=
  (Json.obj [("database", .str database.name), ("records", .obj (recordNames database)),
    ("diagnostics", .arr (database.diagnostics.map diagnosticDocument))]).pretty ++ "\n"

/-- Two calls name the same inputs, the same settings and the same database. -/
structure Agree (line other : Line) : Prop where
  operands : other.operands = line.operands
  config : other.value? .config = line.value? .config
  name : other.value? .name = line.value? .name

theorem run_inspects {arguments : List String} {line other : Line} {state : State} {g : Generation}
    (h : Invokes arguments "inspect" other) (hagree : Agree line other)
    (hjson : other.has .json = true) (hg : world.Generates line state g) :
    (world.run arguments state).outcome =
      { Outcome.done with output := modelReport g.database } := by
  obtain ⟨verbose, hrun⟩ := run_of_invokes world (fun _ _ => rfl) h
  obtain ⟨hproper, settings, hsettings, hresult⟩ := hg
  have houtput : other.value? .output = none := by
    obtain ⟨_, _, -, -, -, hread⟩ := h.called
    refine value?_of_not_knows hread ?_
    simp [Knows, switchesOf, inspectSwitches, sharedSwitches, helpSwitch]
  have hother : world.isProper other = true := by
    simp only [isProper, Bool.and_eq_true] at hproper ⊢
    rw [hagree.operands, hagree.config, houtput]
    exact ⟨hproper.1, rfl⟩
  have hsame : world.settings other = .ok settings := by
    rw [World.settings, hagree.config]
    exact hsettings
  have hpaths : paths other = paths line := by rw [paths, hagree.operands, paths]
  have hname : wantedName other = wantedName line := hagree.name
  rw [hrun, withSettings_ok world verbose hother hsame, inspect_outcome, hpaths, hname,
    describe_of_run hresult]
  simp only [inspectOutcome, hjson, if_true,
    (databaseDocument_ofTexts g.database).withoutSequences_pretty]
  rfl

/-- The commands are all or nothing, and they agree. -/
structure AllOrNothing (state : State) : Prop where
  failed : ∀ arguments, (world.run arguments state).outcome.exitCode ≠ 0 →
    (world.run arguments state).outcome.LeavesNothing world.folder
  delivered : ∀ arguments line, Invokes arguments "generate" line →
    (∀ path, line.value? .output = some path →
      world.folder.isWritable (.ofString path) = true) →
    (∃ g, world.Generates line state g ∧
      Delivers world.folder line g (world.run arguments state).outcome) ∨
    (∀ g, ¬ world.Generates line state g) ∧ (world.run arguments state).outcome.exitCode ≠ 0
  inspected : ∀ arguments line other g, Invokes arguments "inspect" other → Agree line other →
    other.has .json = true → world.Generates line state g →
    (world.run arguments state).outcome =
      { Outcome.done with output := modelReport g.database }

theorem run_allOrNothing (state : State) : world.AllOrNothing state where
  failed arguments hexit := (run_isClean world arguments state).leavesNothing hexit _
  delivered _ _ h hwritable := run_delivers world state h hwritable
  inspected _ _ _ _ h hagree hjson hg := run_inspects world h hagree hjson hg

def emptyScript : World Unit where
  sources := ⟨⟨[(.ofString "a.sql", .file [])]⟩, fun _ => .ok .null, .ofString "user.yaml", [], "/"⟩
  engine := Generation.emptyEngine
  freshId := ""

def generateLine : Line := ⟨[(.output, "out/A.swift")], ["a.sql"]⟩

def inspectLine : Line := ⟨[(.json, "")], ["a.sql"]⟩

/-- The source text of the script is written to a new folder, the report is about the same model,
and a command without inputs leaves nothing. -/
theorem emptyScript_allOrNothing :
    (emptyScript.run ["generate"] ()).outcome.LeavesNothing emptyScript.folder ∧
      ∃ g, emptyScript.Generates generateLine () g ∧
        Delivers emptyScript.folder generateLine g
          (emptyScript.run ["generate", "a.sql", "-o", "out/A.swift"] ()).outcome ∧
        (emptyScript.run ["inspect", "a.sql", "--json"] ()).outcome =
          { Outcome.done with output := modelReport g.database } := by
  have hnothing := run_allOrNothing emptyScript ()
  have hgenerate : Invokes ["generate", "a.sql", "-o", "out/A.swift"] "generate" generateLine :=
    ⟨⟨⟨[], ["generate", "a.sql", "-o", "out/A.swift"]⟩, _, rfl, rfl, rfl, rfl⟩, rfl⟩
  have hinspect : Invokes ["inspect", "a.sql", "--json"] "inspect" inspectLine :=
    ⟨⟨⟨[], ["inspect", "a.sql", "--json"]⟩, _, rfl, rfl, rfl, rfl⟩, rfl⟩
  have hwritable : ∀ path, generateLine.value? .output = some path →
      emptyScript.folder.isWritable (.ofString path) = true := by
    intro path hpath
    obtain rfl : "out/A.swift" = path := Option.some.inj hpath
    decide +kernel
  refine ⟨hnothing.failed ["generate"] (by decide +kernel), ?_⟩
  rcases hnothing.delivered _ _ hgenerate hwritable with ⟨g, hg, hdelivers⟩ | ⟨-, hfailed⟩
  · exact ⟨g, hg, hdelivers,
      hnothing.inspected _ generateLine inspectLine g hinspect ⟨rfl, rfl, rfl⟩ rfl hg⟩
  · exact absurd (by decide +kernel) hfailed

end World

end RecordLoom.Command
