import RecordLoom.Inputs.Acquire
import RecordLoom.Proofs.Catalog.Runs

/-!
# How acquisition fails

A failure of acquisition is attributed to an input, apart from four that are not: an input that
nobody can look at, a column that cannot be read, a call that breaks down, and a scratch database
that refuses the user version of a database replayed into it.
-/

namespace RecordLoom.Inputs

open RecordLoom.Catalog

def Blamed (f : Failure) : Prop := Attributed f ∨ ∃ e, f = .engineRefused e

def Folder.Opens (folder : Folder) (path : Path) : Prop :=
  ∃ bytes, folder.entry? path = some (.file bytes)

def Folder.Hides (folder : Folder) (path : Path) : Prop :=
  ∃ reason, folder.entry? path = some (.hidden reason)

/-- Whether the first input that cannot be opened is one that nobody can look at. -/
def StopsAtHidden (folder : Folder) (paths : List Path) : Prop :=
  ∃ before path after, paths = before ++ path :: after ∧ (∀ p ∈ before, folder.Opens p) ∧
    folder.Hides path

section

variable {State : Type} (engine : Engine State) (folder : Folder)

/-! ## Parts of acquisition -/

theorem readDatabase_keeps (path : Path) :
    Run.Keeps engine Attributed (readDatabase engine folder path) :=
  .withConnection (fetchSchema_keeps engine _ _) fun _ => rfl

theorem replayStatement_keeps (source : String) (s : StoredStatement) :
    Run.Keeps engine Attributed (replayStatement engine source s) :=
  .send (fun _ => rfl) (fun _ => id) (fun _ => Iff.rfl) (fun _ => rfl) fun _ => ⟨nofun, nofun⟩

theorem replayStatements_keeps (source : String) (statements : List StoredStatement) :
    Run.Keeps engine Attributed (statements.forM (replayStatement engine source)) :=
  .forM fun s _ => replayStatement_keeps engine source s

def setVersion (path : Path) (schema : Schema) : Run State Unit := do
  let sql := userVersionStatement schema.userVersion
  Run.ask (.execute sql) (engine.execute sql) (Rejection.blame .engineRefused)
  Run.tell (.note .debug "database_replayed"
    [("source", .str path.toString), ("statements", .int (objectStatements schema).length)])

theorem setVersion_keeps (path : Path) (schema : Schema) :
    Run.Keeps engine Blamed (setVersion engine path schema) :=
  .bind (.send (fun _ => rfl) (fun _ => id) (fun _ => Iff.rfl) (fun e => .inr ⟨e, rfl⟩)
    fun _ => ⟨nofun, nofun⟩) fun _ => .tell _

theorem replayDatabase_eq (path : Path) :
    replayDatabase engine folder path = (do
      let schema ← readDatabase engine folder path
      (storedStatements schema).forM (replayStatement engine path.toString)
      setVersion engine path schema) := rfl

theorem replaySchema_keeps (path : Path) (schema : Schema) :
    Run.Keeps engine Blamed (do
      (storedStatements schema).forM (replayStatement engine path.toString)
      setVersion engine path schema) :=
  .bind ((replayStatements_keeps engine _ _).mono fun _ => .inl) fun _ =>
    setVersion_keeps engine path schema

theorem replayDatabase_keeps (path : Path) :
    Run.Keeps engine Blamed (replayDatabase engine folder path) :=
  .bind ((readDatabase_keeps engine folder path).mono fun _ => .inl) fun schema =>
    replaySchema_keeps engine path schema

theorem readScript_source {path : Path} {f : Failure} (h : readScript folder path = .error f) :
    f.source? = some path.toString := by
  unfold readScript at h
  split at h
  · split at h
    · cases h
    · cases h
      rfl
  all_goals
    cases h
    rfl

theorem readScript_attributed {path : Path} {f : Failure} (h : readScript folder path = .error f) :
    Attributed f := by
  rw [Attributed, readScript_source folder h, Option.isSome_some]

theorem replayScript_keeps (path : Path) :
    Run.Keeps engine Attributed (replayScript engine folder path) := by
  refine .bind (.ofExcept (fun f => readScript_attributed folder)
    fun f h => (readScript_attributed folder h).foreseen) fun text => ?_
  refine .bind (.send (fun _ => rfl) (fun _ => id) (fun _ => Iff.rfl) (fun _ => rfl)
    fun _ => ⟨nofun, nofun⟩) fun _ => ?_
  exact .tell _

theorem replay_keeps (input : Path × InputKind) :
    Run.Keeps engine Blamed (replay engine folder input) := by
  obtain ⟨path, _ | _⟩ := input
  · exact replayDatabase_keeps engine folder path
  · exact (replayScript_keeps engine folder path).mono fun _ => .inl

theorem replayAll_keeps (inputs : List (Path × InputKind)) :
    Run.Keeps engine Blamed (replayAll engine folder inputs) := by
  refine .withConnection (.bind (.forM fun input _ => replay_keeps engine folder input) fun _ => ?_)
    fun _ => .inl rfl
  exact (fetchSchema_keeps engine _ _).mono fun _ => .inl

theorem acquireKinds_keeps (inputs : List (Path × InputKind)) :
    Run.Keeps engine Blamed (acquireKinds engine folder inputs) := by
  unfold acquireKinds
  split
  · exact (readDatabase_keeps engine folder _).mono fun _ => .inl
  · exact replayAll_keeps engine folder inputs

theorem classify_error {path : Path} {f : Failure} (h : classify folder path = .error f) :
    Attributed f ∨ ∃ reason, folder.entry? path = some (.hidden reason) ∧
      f = .pathHidden path.toString reason := by
  unfold classify at h
  split at h
  case h_3 reason hentry =>
    cases h
    exact .inr ⟨reason, hentry, rfl⟩
  case h_1 => cases h
  all_goals
    cases h
    exact .inl rfl

theorem classify_ok {path : Path} {kind : InputKind} (h : classify folder path = .ok kind) :
    folder.Opens path := by
  unfold classify at h
  split at h
  case h_1 bytes hentry => exact ⟨bytes, hentry⟩
  all_goals cases h

theorem classifyAll_cons (path : Path) (rest : List Path) :
    classifyAll folder (path :: rest) =
      (classify folder path).bind fun kind =>
        (classifyAll folder rest).map ((path, kind) :: ·) := by
  simp only [classifyAll, List.mapM_cons]
  cases classify folder path with
  | error f => rfl
  | ok kind =>
      cases rest.mapM fun path => (classify folder path).map (path, ·) <;> rfl

/-- Inputs are told apart one by one, up to the first that cannot be. -/
theorem classifyAll_first (paths : List Path) :
    (∃ before path after f, paths = before ++ path :: after ∧ (∀ p ∈ before, folder.Opens p) ∧
        classify folder path = .error f ∧ classifyAll folder paths = .error f) ∨
      ∃ inputs, classifyAll folder paths = .ok inputs ∧
        List.Forall₂ (fun path input => input.1 = path ∧ classify folder path = .ok input.2)
          paths inputs := by
  induction paths with
  | nil => exact .inr ⟨[], rfl, .nil⟩
  | cons path rest ih =>
      rw [classifyAll_cons]
      cases hpath : classify folder path with
      | error f => exact .inl ⟨[], path, rest, f, rfl, List.forall_mem_nil _, hpath, rfl⟩
      | ok kind =>
          rcases ih with
            ⟨before, stopped, after, f, rfl, hopens, hstopped, hrest⟩ | ⟨inputs, hrest, hinputs⟩
          · exact .inl ⟨path :: before, stopped, after, f, rfl,
              List.forall_mem_cons.mpr ⟨classify_ok folder hpath, hopens⟩, hstopped,
              by rw [hrest]; rfl⟩
          · exact .inr ⟨(path, kind) :: inputs, by rw [hrest]; rfl, .cons ⟨rfl, hpath⟩ hinputs⟩

theorem classifyAll_error {paths : List Path} {f : Failure}
    (h : classifyAll folder paths = .error f) :
    Attributed f ∨ (∃ path reason, f = .pathHidden path reason) ∧ StopsAtHidden folder paths := by
  rcases classifyAll_first folder paths with
    ⟨before, path, after, g, rfl, hopens, hpath, hall⟩ | ⟨inputs, hall, -⟩
  · obtain rfl : g = f := Except.error.inj (hall.symm.trans h)
    rcases classify_error folder hpath with hattributed | ⟨reason, hentry, hfailure⟩
    · exact .inl hattributed
    · exact .inr ⟨⟨_, _, hfailure⟩, before, path, after, rfl, hopens, reason, hentry⟩
  · rw [hall] at h
    cases h

theorem classifyAll_of_stopsAtHidden {paths : List Path} (h : StopsAtHidden folder paths) :
    ∃ path reason, classifyAll folder paths = .error (.pathHidden path reason) := by
  obtain ⟨before, path, after, rfl, hopens, reason, hentry⟩ := h
  refine ⟨path.toString, reason, ?_⟩
  induction before with
  | nil =>
      have hclassify : classify folder path = .error (.pathHidden path.toString reason) := by
        rw [classify, hentry]
      rw [List.nil_append, classifyAll_cons, hclassify]
      rfl
  | cons first before ih =>
      obtain ⟨⟨bytes, hfile⟩, hopens⟩ := List.forall_mem_cons.mp hopens
      rw [List.cons_append, classifyAll_cons, classify, hfile, ih hopens]
      rfl

theorem acquire_keeps (paths : List Path) :
    Run.Keeps engine (fun f => Blamed f ∨ ∃ path reason, f = .pathHidden path reason)
      (acquire engine folder paths) := by
  refine .bind (.ofExcept (fun f h => ?_) fun f h => ?_) fun inputs => ?_
  · exact (classifyAll_error folder h).imp .inl And.left
  · rcases classifyAll_error folder h with hattributed | ⟨⟨path, reason, rfl⟩, -⟩
    · exact hattributed.foreseen
    · exact ⟨nofun, nofun⟩
  · refine .bind ((acquireKinds_keeps engine folder inputs).mono fun _ => .inl) fun schema => ?_
    exact (Run.Keeps.tell _).bind fun _ => .pure _

/-! ## The user version -/

/-- Whether a database is read and its statements are executed, and then the engine refuses the
statement that sets the user version. -/
def RefusesVersionOf (state : State) (path : Path) : Prop :=
  ∃ schema read replayed e, readDatabase engine folder path (.start state) = (.ok schema, read) ∧
    (storedStatements schema).forM (replayStatement engine path.toString) (.start read.engine) =
      (.ok (), replayed) ∧
    (engine.execute (userVersionStatement schema.userVersion) replayed.engine).1 =
      .error (.refused e)

/-- Whether replaying inputs comes to a database whose user version is refused. -/
inductive RefusesVersion : State → List (Path × InputKind) → Prop
  | here {state : State} {path : Path} {rest : List (Path × InputKind)}
      (h : RefusesVersionOf engine folder state path) :
      RefusesVersion state ((path, .database) :: rest)
  | later {state : State} {input : Path × InputKind} {rest : List (Path × InputKind)}
      {replayed : Trace State}
      (hinput : replay engine folder input (.start state) = (.ok (), replayed))
      (hrest : RefusesVersion replayed.engine rest) : RefusesVersion state (input :: rest)

theorem not_refused {engine : Engine State} {α : Type} {x : Run State α}
    (h : Run.Keeps engine Attributed x) (state : State) (e : EngineError) :
    (x (.start state)).1 ≠ .error (.engineRefused e) := by
  intro hfailed
  rcases (h.ends state).failure _ hfailed with hattributed | hunforeseen
  · cases hattributed
  · exact hunforeseen ⟨nofun, nofun⟩

theorem setVersion_refused_iff (path : Path) (schema : Schema) (state : State) (e : EngineError) :
    (setVersion engine path schema (.start state)).1 = .error (.engineRefused e) ↔
      (engine.execute (userVersionStatement schema.userVersion) state).1 =
        .error (.refused e) := by
  rw [setVersion, Run.bind_failure_iff, Run.ask_failure_iff]
  constructor
  · rintro (⟨_ | _, hrefused, hfailure⟩ | ⟨_, next, -, htold⟩)
    · cases hfailure
      exact hrefused
    · cases hfailure
    · exact absurd htold Run.tell_ne_error
  · intro hrefused
    exact .inl ⟨.refused e, hrefused, rfl⟩

theorem replayDatabase_refused_iff (state : State) (path : Path) :
    (∃ e, (replayDatabase engine folder path (.start state)).1 = .error (.engineRefused e)) ↔
      RefusesVersionOf engine folder state path := by
  simp only [replayDatabase_eq, RefusesVersionOf,
    Run.Keeps.bind_failure_iff (replaySchema_keeps engine path),
    Run.Keeps.bind_failure_iff fun _ => setVersion_keeps engine path _,
    not_refused (readDatabase_keeps engine folder path),
    not_refused (replayStatements_keeps engine path.toString _), setVersion_refused_iff, false_or]
  constructor
  · rintro ⟨e, schema, read, hread, _, replayed, hreplayed, hrefused⟩
    exact ⟨schema, read, replayed, e, hread, hreplayed, hrefused⟩
  · rintro ⟨schema, read, replayed, e, hread, hreplayed, hrefused⟩
    exact ⟨e, schema, read, hread, (), replayed, hreplayed, hrefused⟩

theorem replayEach_refused_iff (inputs : List (Path × InputKind)) (state : State) :
    (∃ e, (inputs.forM (replay engine folder) (.start state)).1 = .error (.engineRefused e)) ↔
      RefusesVersion engine folder state inputs := by
  -- On the inputs that are left; each starts where the one before it leaves the engine.
  induction inputs generalizing state with
  | nil => exact ⟨nofun, nofun⟩
  | cons input rest ih =>
      have hforM : (input :: rest).forM (replay engine folder) =
          (replay engine folder input >>= fun _ => rest.forM (replay engine folder)) := rfl
      have hrest : ∀ _ : Unit, Run.Keeps engine Blamed (rest.forM (replay engine folder)) :=
        fun _ => .forM fun input _ => replay_keeps engine folder input
      rw [hforM]
      simp only [Run.Keeps.bind_failure_iff hrest]
      constructor
      · rintro ⟨e, hinput | ⟨_, replayed, hinput, hlater⟩⟩
        · obtain ⟨path, _ | _⟩ := input
          · exact .here ((replayDatabase_refused_iff engine folder state path).mp ⟨e, hinput⟩)
          · exact absurd hinput (not_refused (replayScript_keeps engine folder path) state e)
        · exact .later hinput ((ih replayed.engine).mp ⟨e, hlater⟩)
      · rintro (h | ⟨hinput, hlater⟩)
        · obtain ⟨e, he⟩ := (replayDatabase_refused_iff engine folder state _).mpr h
          exact ⟨e, .inl he⟩
        · obtain ⟨e, he⟩ := (ih _).mpr hlater
          exact ⟨e, .inr ⟨(), _, hinput, he⟩⟩

/-- Whether the inputs are replayed, the scratch database is there, and it refuses the user version
of one of them. -/
def StopsAtVersion (state : State) (paths : List Path) : Prop :=
  ∃ inputs scratch, classifyAll folder paths = .ok inputs ∧
    (∀ path, inputs ≠ [(path, .database)]) ∧ engine.connect .scratch state = (.ok (), scratch) ∧
    RefusesVersion engine folder scratch inputs

theorem replayAll_refused_iff (inputs : List (Path × InputKind)) (state : State) :
    (∃ e, (replayAll engine folder inputs (.start state)).1 = .error (.engineRefused e)) ↔
      ∃ scratch, engine.connect .scratch state = (.ok (), scratch) ∧
        RefusesVersion engine folder scratch inputs := by
  have hfetch : Run.Keeps engine Attributed (fetchSchema engine .scratch scratchSource) :=
    fetchSchema_keeps engine .scratch scratchSource
  have hbody : Run.Keeps engine Blamed (do
      inputs.forM (replay engine folder)
      fetchSchema engine .scratch scratchSource) :=
    .bind (.forM fun input _ => replay_keeps engine folder input) fun _ =>
      hfetch.mono fun _ => .inl
  simp only [replayAll, Run.Keeps.withConnection_failure_iff hbody,
    Run.Keeps.bind_failure_iff fun _ : Unit => hfetch, not_refused hfetch, reduceCtorEq, and_false,
    exists_false, false_or, or_false, ← replayEach_refused_iff]
  constructor
  · rintro ⟨e, scratch, hopened, hrefused⟩
    exact ⟨scratch, hopened, e, hrefused⟩
  · rintro ⟨scratch, hopened, e, hrefused⟩
    exact ⟨e, scratch, hopened, hrefused⟩

theorem acquireKinds_refused_iff (inputs : List (Path × InputKind)) (state : State) :
    (∃ e, (acquireKinds engine folder inputs (.start state)).1 = .error (.engineRefused e)) ↔
      (∀ path, inputs ≠ [(path, .database)]) ∧ ∃ scratch,
        engine.connect .scratch state = (.ok (), scratch) ∧
        RefusesVersion engine folder scratch inputs := by
  rw [← replayAll_refused_iff]
  unfold acquireKinds
  split
  case h_1 path =>
    constructor
    · rintro ⟨e, h⟩
      exact absurd h (not_refused (readDatabase_keeps engine folder path) state e)
    · rintro ⟨hinputs, -⟩
      exact absurd rfl (hinputs path)
  case h_2 hinputs =>
    exact (and_iff_right fun path h => hinputs path h).symm

theorem acquire_failure_iff (paths : List Path) (state : State) {f : Failure} :
    (acquire engine folder paths (.start state)).1 = .error f ↔
      classifyAll folder paths = .error f ∨ ∃ inputs, classifyAll folder paths = .ok inputs ∧
        (acquireKinds engine folder inputs (.start state)).1 = .error f := by
  have htold : ∀ schema : Schema, ∀ trace : Trace State, ((do
      Run.tell (.note .info "schema_acquired"
        [("inputs", pathList paths), ("tables", .int schema.tables.length),
         ("views", .int schema.views.length)])
      pure schema : Run State Schema) trace).1 ≠ .error f := fun _ _ => nofun
  rw [acquire, Run.bind_failure_iff]
  refine or_congr Iff.rfl ?_
  constructor
  · rintro ⟨inputs, next, hpure, hfailure⟩
    obtain ⟨hclassified, rfl⟩ := Prod.mk.inj hpure
    rcases Run.bind_failure_iff.mp hfailure with hfailure | ⟨schema, next, -, hfailure⟩
    · exact ⟨inputs, hclassified, hfailure⟩
    · exact absurd hfailure (htold schema next)
  · rintro ⟨inputs, hclassified, hfailure⟩
    refine ⟨inputs, .start state, by rw [hclassified]; rfl, ?_⟩
    rw [Run.bind_failure_iff]
    exact .inl hfailure

theorem acquire_refused_iff (state : State) (paths : List Path) :
    (∃ e, (acquire engine folder paths (.start state)).1 = .error (.engineRefused e)) ↔
      StopsAtVersion engine folder state paths := by
  simp only [acquire_failure_iff, StopsAtVersion]
  constructor
  · rintro ⟨e, hclassified | ⟨inputs, hclassified, hrefused⟩⟩
    · rcases classifyAll_error folder hclassified with hattributed | ⟨⟨_, _, hhidden⟩, -⟩
      · cases hattributed
      · cases hhidden
    · obtain ⟨hinputs, scratch, h⟩ :=
        (acquireKinds_refused_iff engine folder inputs state).mp ⟨e, hrefused⟩
      exact ⟨inputs, scratch, hclassified, hinputs, h⟩
  · rintro ⟨inputs, scratch, hclassified, hinputs, h⟩
    obtain ⟨e, hrefused⟩ :=
      (acquireKinds_refused_iff engine folder inputs state).mpr ⟨hinputs, scratch, h⟩
    exact ⟨e, .inr ⟨inputs, hclassified, hrefused⟩⟩

theorem acquireKinds_ne_hidden {inputs : List (Path × InputKind)} {state : State}
    {path reason : String} :
    (acquireKinds engine folder inputs (.start state)).1 ≠ .error (.pathHidden path reason) := by
  intro hfailed
  rcases ((acquireKinds_keeps engine folder inputs).ends state).failure _ hfailed with
    (hattributed | ⟨e, hrefused⟩) | hunforeseen
  · cases hattributed
  · cases hrefused
  · exact hunforeseen ⟨nofun, nofun⟩

theorem acquire_hidden_iff (state : State) (paths : List Path) :
    (∃ path reason, (acquire engine folder paths (.start state)).1 =
        .error (.pathHidden path reason)) ↔ StopsAtHidden folder paths := by
  simp only [acquire_failure_iff, acquireKinds_ne_hidden, and_false, exists_false, or_false]
  refine ⟨fun ⟨path, reason, h⟩ => ?_, classifyAll_of_stopsAtHidden folder⟩
  rcases classifyAll_error folder h with hattributed | ⟨-, hhidden⟩
  · cases hattributed
  · exact hhidden

/-- Acquisition fails because of an input, which the failure names, or in one of four ways in which
the failure names none: at an input that nobody can look at, a column that cannot be read, a call
that breaks down, and a user version that the scratch database refuses. -/
theorem acquire_fails {paths : List Path} {state : State} {f : Failure}
    (h : (acquire engine folder paths (.start state)).1 = .error f) :
    Attributed f ∨
      (∃ path reason, f = .pathHidden path reason) ∧ StopsAtHidden folder paths ∨
      (∃ fault, f = .conversion fault) ∧
        engine.MeetsUnreadable state (acquire engine folder paths (.start state)).2.calls ∨
      (∃ fault, f = .callBroken fault) ∧
        engine.MeetsBroken state (acquire engine folder paths (.start state)).2.calls ∨
      (∃ e, f = .engineRefused e) ∧ StopsAtVersion engine folder state paths := by
  have hends := (acquire_keeps engine folder paths).ends state
  rcases hends.failure f h with ((hattributed | ⟨e, rfl⟩) | ⟨path, reason, rfl⟩) | hunforeseen
  · exact .inl hattributed
  · exact .inr (.inr (.inr (.inr
      ⟨⟨e, rfl⟩, (acquire_refused_iff engine folder state paths).mp ⟨e, h⟩⟩)))
  · exact .inr (.inl
      ⟨⟨path, reason, rfl⟩, (acquire_hidden_iff engine folder state paths).mp ⟨path, reason, h⟩⟩)
  · cases f with
    | conversion fault =>
        exact .inr (.inr (.inl ⟨⟨fault, rfl⟩, hends.conversion.mp ⟨fault, h⟩⟩))
    | callBroken fault =>
        exact .inr (.inr (.inr (.inl ⟨⟨fault, rfl⟩, hends.broken.mp ⟨fault, h⟩⟩)))
    | _ => exact absurd ⟨nofun, nofun⟩ hunforeseen

end

end RecordLoom.Inputs
