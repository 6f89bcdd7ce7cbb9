import RecordLoom.Proofs.Catalog.Calls
import RecordLoom.Proofs.Catalog.Listing
import RecordLoom.Proofs.Inputs.Replay

/-!
# The order of replay

Inputs are replayed one after another.  Of each it is settled what is sent to the scratch database
before any of it is sent: of a script its text, and of a database the statements of its objects and
then its user version.  The first input that cannot be read, and the first call that is refused or
breaks down, end the replay there.
-/

namespace RecordLoom.Inputs

open RecordLoom.Catalog

/-! ## What is sent -/

/-- A call of the replay, with what its refusal means. -/
structure Sending where
  call : Call
  blame : EngineError → Failure

def scriptSending (path : Path) (text : String) : Sending :=
  ⟨.runScript text, .scriptFailed path.toString⟩

def creationSending (path : Path) (row : CatalogRow) : Sending :=
  ⟨.execute row.text, .recreateFailed row.kind row.name path.toString⟩

def versionSending (userVersion : Int) : Sending :=
  ⟨.execute (userVersionStatement userVersion), .engineRefused⟩

/-- What is sent of a database: the statements of all objects that have one, then the version. -/
def databaseSendings (path : Path) (rows : List CatalogRow) (userVersion : Int) : List Sending :=
  ((creationOrder rows).filter fun row => !row.text.isEmpty).map (creationSending path) ++
    [versionSending userVersion]

section

variable {State : Type} (engine : Engine State)

def answer (state : State) : Call → Except Rejection Unit
  | .execute sql => (engine.execute sql state).1
  | .runScript text => (engine.script text state).1
  | _ => .ok ()

def Accepts : State → List Call → Prop
  | _, [] => True
  | state, call :: rest =>
      answer engine state call = .ok () ∧ Accepts (engine.next state call) rest

def send (s : Sending) : Run State Unit :=
  Run.ask s.call (fun state => (answer engine state s.call, engine.next state s.call))
    (Rejection.blame s.blame)

variable {engine}

/-- Sendings are sent in their order, up to the first that is rejected. -/
theorem send_run (sendings : List Sending) (trace : Trace State) :
    (∃ next, sendings.forM (send engine) trace = (.ok (), next) ∧
      next.calls = trace.calls ++ sendings.map (·.call) ∧
      next.engine = engine.after trace.engine (sendings.map (·.call)) ∧
      Accepts engine trace.engine (sendings.map (·.call))) ∨
    ∃ before s rest rejection next, sendings = before ++ s :: rest ∧
      sendings.forM (send engine) trace = (.error (rejection.blame s.blame), next) ∧
      next.calls = trace.calls ++ (before ++ [s]).map (·.call) ∧
      Accepts engine trace.engine (before.map (·.call)) ∧
      answer engine (engine.after trace.engine (before.map (·.call))) s.call =
        .error rejection := by
  induction sendings generalizing trace with
  | nil => exact .inl ⟨trace, rfl, (List.append_nil _).symm, rfl, trivial⟩
  | cons s rest ih =>
      have hforM : (s :: rest).forM (send engine) =
          (send engine s >>= fun _ => rest.forM (send engine)) := rfl
      have hsend : send engine s trace = ((answer engine trace.engine s.call).mapError
          (Rejection.blame s.blame),
          ⟨engine.next trace.engine s.call, trace.calls ++ [s.call], trace.events⟩) := rfl
      rw [hforM]
      cases hanswer : answer engine trace.engine s.call with
      | error e =>
          rw [hanswer] at hsend
          exact .inr ⟨[], s, rest, e, _, rfl, Run.bind_error hsend, rfl, trivial, hanswer⟩
      | ok _ =>
          rw [hanswer] at hsend
          rw [Run.bind_ok hsend]
          rcases ih ⟨engine.next trace.engine s.call, trace.calls ++ [s.call], trace.events⟩ with
            ⟨next, hrun, hcalls, hengine, haccepts⟩ |
            ⟨before, refused, rest, e, next, rfl, hrun, hcalls, haccepts, hrefused⟩
          · refine .inl ⟨next, hrun, ?_, hengine, hanswer, haccepts⟩
            rw [hcalls]
            simp
          · refine .inr ⟨s :: before, refused, rest, e, next, rfl, hrun, ?_, ⟨hanswer, haccepts⟩,
              hrefused⟩
            rw [hcalls]
            simp

end

/-! ## Preparing an input -/

section

variable {State : Type} (engine : Engine State) (folder : Folder)

def Folder.place (path : Path) : Place := .file (folder.resolvedName path)

/-- An input that can be read from a state on: the calls that this takes, and what is to be sent of
it.  A script is decoded, a database is read in a connection of its own. -/
inductive Prepared (state : State) : Path × InputKind → List Call → List Sending → Prop
  | script {path : Path} {bytes : List UInt8} {text : String}
      (hentry : folder.entry? path = some (.file bytes))
      (htext : String.fromUTF8? ⟨bytes.toArray⟩ = some text) :
      Prepared state (path, .script) []
        [scriptSending path (.ofList (normalizeLineEnds text.toList))]
  | database {path : Path} {opened : State} {rows : List CatalogRow} {userVersion : Option Int}
      {queries : List Call}
      (hopened : engine.connect (folder.place path) state = (.ok (), opened))
      (hshows : engine.Shows (folder.place path) opened rows userVersion)
      (hqueries : ∀ call ∈ queries, call.Queries (folder.place path)) :
      Prepared state (path, .database)
        (.connect (folder.place path) true :: (queries ++ [.release (folder.place path)]))
        (databaseSendings path rows (userVersion.getD 0))

/-- An input that cannot be read from a state on, with the calls that are made and the failure. -/
inductive Unprepared (state : State) : Path × InputKind → List Call → Failure → Prop
  | script {path : Path} {f : Failure} (hread : readScript folder path = .error f)
      (hsource : f.source? = some path.toString) : Unprepared state (path, .script) [] f
  | refused {path : Path} {e : EngineError}
      (hrefused : (engine.connect (folder.place path) state).1 = .error e) :
      Unprepared state (path, .database)
        [.connect (folder.place path) false, .release (folder.place path)]
        (.openFailed path.toString e)
  | unread {path : Path} {queries : List Call} {f : Failure}
      (hopened : (engine.connect (folder.place path) state).1 = .ok ())
      (hqueries : ∀ call ∈ queries, call.Queries (folder.place path))
      (hfailure : FetchFailure path.toString f) :
      Unprepared state (path, .database)
        (.connect (folder.place path) true :: (queries ++ [.release (folder.place path)])) f

/-- Inputs that are replayed from a state on, each as a whole. -/
inductive Replayed : State → List (Path × InputKind) → List Call → Prop
  | nil {state : State} : Replayed state [] []
  | cons {state : State} {input : Path × InputKind} {rest : List (Path × InputKind)}
      {read calls : List Call} {sendings : List Sending}
      (hprepared : Prepared engine folder state input read sendings)
      (haccepts : Accepts engine (engine.after state read) (sendings.map (·.call)))
      (hrest : Replayed (engine.after state (read ++ sendings.map (·.call))) rest calls) :
      Replayed state (input :: rest) (read ++ sendings.map (·.call) ++ calls)

/-- How a replay ends that has come to a state, by the inputs that are left: with the schema that
is fetched when there are none, with the first of them if it cannot be read, or with the first of
its sendings that is refused. -/
inductive Ending (state : State) :
    List (Path × InputKind) → List Call → Except Failure Schema → Prop
  | fetched {queries : List Call} {result : Except Failure Schema}
      (hqueries : ∀ call ∈ queries, call.Queries .scratch)
      (hresult : (fetchSchema engine .scratch scratchSource (.start state)).1 = result)
      (hfailure : ∀ f, result = .error f → FetchFailure scratchSource f) :
      Ending state [] queries result
  | unprepared {input : Path × InputKind} {rest : List (Path × InputKind)} {read : List Call}
      {f : Failure} (h : Unprepared engine folder state input read f) :
      Ending state (input :: rest) read (.error f)
  | refused {input : Path × InputKind} {rest : List (Path × InputKind)} {read : List Call}
      {before later : List Sending} {s : Sending} {e : EngineError}
      (hprepared : Prepared engine folder state input read (before ++ s :: later))
      (haccepts : Accepts engine (engine.after state read) (before.map (·.call)))
      (hrefused : answer engine (engine.after state (read ++ before.map (·.call))) s.call =
        .error (.refused e)) :
      Ending state (input :: rest) (read ++ (before ++ [s]).map (·.call)) (.error (s.blame e))
  | broken {input : Path × InputKind} {rest : List (Path × InputKind)} {read : List Call}
      {before later : List Sending} {s : Sending} {fault : CallFault}
      (hprepared : Prepared engine folder state input read (before ++ s :: later))
      (haccepts : Accepts engine (engine.after state read) (before.map (·.call)))
      (hbroken : answer engine (engine.after state (read ++ before.map (·.call))) s.call =
        .error (.broken fault)) :
      Ending state (input :: rest) (read ++ (before ++ [s]).map (·.call))
        (.error (.callBroken fault))

end

/-! ## Reading inputs -/

section

variable {State : Type} {engine : Engine State} {folder : Folder}

theorem readScript_ok {path : Path} {text : String} (h : readScript folder path = .ok text) :
    ∃ bytes decoded, folder.entry? path = some (.file bytes) ∧
      String.fromUTF8? ⟨bytes.toArray⟩ = some decoded ∧
      text = .ofList (normalizeLineEnds decoded.toList) := by
  unfold readScript at h
  split at h
  case h_1 bytes hentry =>
    split at h
    case h_1 text hdecoded =>
      cases h
      obtain ⟨decoded, hutf8, rfl⟩ := Option.map_eq_some_iff.mp hdecoded
      exact ⟨bytes, decoded, hentry, hutf8, rfl⟩
    case h_2 => cases h
  all_goals cases h

def schemaSendings (path : Path) (schema : Schema) : List Sending :=
  ((storedStatements schema).map fun s =>
      ⟨.execute s.sql, .recreateFailed s.kind s.name path.toString⟩) ++
    [versionSending schema.userVersion]

theorem objectStatements_of_lists {schema : Schema} {rows : List CatalogRow}
    (h : schema.Lists rows) : objectStatements schema = (creationOrder rows).map statementOf := by
  have hrole : ∀ role, ∀ row ∈ ofRole role rows, row.role? = some role := fun _ _ h =>
    (mem_ofRole.mp h).2
  have hgrouped : ∀ role, ∀ row ∈ byTable (ofRole role rows), row.role? = some role :=
    fun role row h => hrole role row ((byTable_perm _).mem_iff.mp h)
  have htables := congrArg (List.map fun p => StoredStatement.mk "table" p.1 p.2) h.tables
  have hviews := congrArg (List.map fun p => StoredStatement.mk "view" p.1 p.2) h.views
  rw [List.map_map, List.map_map] at htables hviews
  have hindices := flatMap_ofList CatalogRow.toIndex (fun i => ⟨"index", i.name, i.sql⟩)
    (ofRole .index rows)
  have htriggers := flatMap_ofList CatalogRow.toTrigger (fun t => ⟨"trigger", t.name, t.sql⟩)
    (ofRole .trigger rows)
  rw [Groups.values_ofList] at hindices htriggers
  rw [← h.indices] at hindices
  rw [← h.triggers] at htriggers
  simp only [creationOrder, List.map_append, ← map_statementOf (hrole .table),
    ← map_statementOf (hrole .view), ← map_statementOf (hgrouped .index),
    ← map_statementOf (hgrouped .trigger), objectStatements, hindices, htriggers, List.append_assoc]
  exact congrArg₂ (· ++ ·) htables (congrArg₂ (· ++ ·) hviews rfl)

theorem schemaSendings_of_lists {schema : Schema} {rows : List CatalogRow}
    (h : schema.Lists rows) (path : Path) :
    schemaSendings path schema = databaseSendings path rows schema.userVersion := by
  rw [schemaSendings, databaseSendings, storedStatements, objectStatements_of_lists h,
    List.filter_map, List.map_map]
  rfl

theorem exists_calls {α : Type} {x : Run State α} {blamed : Failure → Prop}
    (h : Run.Keeps engine blamed x) (trace : Trace State) :
    ∃ calls, (x trace).2.calls = trace.calls ++ calls ∧
      (x trace).2.engine = engine.after trace.engine calls := by
  rw [h.apply trace]
  exact ⟨_, rfl, (h.ends trace.engine).follows⟩

theorem readDatabase_cases (engine : Engine State) (folder : Folder) (path : Path)
    (trace : Trace State) :
    ∃ read, (readDatabase engine folder path trace).2.calls = trace.calls ++ read ∧
      (readDatabase engine folder path trace).2.engine = engine.after trace.engine read ∧
      (∀ schema, (readDatabase engine folder path trace).1 = .ok schema →
        Prepared engine folder trace.engine (path, .database) read (schemaSendings path schema)) ∧
      ∀ f, (readDatabase engine folder path trace).1 = .error f →
        Unprepared engine folder trace.engine (path, .database) read f := by
  obtain ⟨read, hcalls, hengine⟩ := exists_calls (readDatabase_keeps engine folder path) trace
  refine ⟨read, hcalls, hengine, ?_⟩
  rcases hanswer : engine.connect (folder.place path) trace.engine with ⟨e | _, opened⟩
  · have hrun : readDatabase engine folder path trace = (.error (.openFailed path.toString e), _) :=
      Run.withConnection_refused hanswer _
    rw [hrun] at hcalls ⊢
    refine ⟨nofun, ?_⟩
    rintro f ⟨⟩
    rw [← List.append_cancel_left hcalls]
    exact .refused (by rw [hanswer])
  · let fetched := fetchSchema engine (folder.place path) path.toString
      (trace.entered (folder.place path) opened)
    have hrun : readDatabase engine folder path trace =
        (fetched.1, fetched.2.record (.release (folder.place path))) :=
      Run.withConnection_accepted hanswer _
    have hacts : Run.Acts (∀ call ∈ ·, call.Queries (folder.place path))
        (FetchFailure path.toString) (fetchSchema engine (folder.place path) path.toString) :=
      fetchSchema_acts (chains_forall _) fun call hcall => List.forall_mem_singleton.mpr hcall
    obtain ⟨queries, hinside, hqueries, hfailure⟩ :=
      hacts (trace.entered (folder.place path) opened)
    have hread : read =
        .connect (folder.place path) true :: (queries ++ [.release (folder.place path)]) := by
      have hsame : fetched.2.calls ++ [.release (folder.place path)] = trace.calls ++ read := by
        rw [← hcalls, hrun]
        rfl
      rw [hinside, Trace.entered, List.append_assoc, List.append_assoc] at hsame
      exact (List.append_cancel_left hsame).symm
    rw [hrun, hread]
    refine ⟨fun schema hschema => ?_, fun f hf => ?_⟩
    · obtain ⟨rows, userVersion, hshows, hlists, hversion⟩ :=
        fetchSchema_lists (Prod.ext hschema rfl)
      rw [schemaSendings_of_lists hlists, hversion]
      exact .database hanswer hshows hqueries
    · exact .unread (by rw [hanswer]) hqueries (hfailure f hf)

/-! ## Replaying inputs -/

/-- How one input is replayed after a trace: as a whole, or so that the replay ends with it. -/
inductive Outcome (engine : Engine State) (folder : Folder) (trace : Trace State)
    (input : Path × InputKind) : Except Failure Unit × Trace State → Prop
  | whole {next : Trace State} {read : List Call} {sendings : List Sending}
      (hprepared : Prepared engine folder trace.engine input read sendings)
      (haccepts : Accepts engine (engine.after trace.engine read) (sendings.map (·.call)))
      (hcalls : next.calls = trace.calls ++ (read ++ sendings.map (·.call)))
      (hengine : next.engine = engine.after trace.engine (read ++ sendings.map (·.call))) :
      Outcome engine folder trace input (.ok (), next)
  | ends {f : Failure} {next : Trace State} {tail : List Call}
      (hcalls : next.calls = trace.calls ++ tail)
      (hending : ∀ rest, Ending engine folder trace.engine (input :: rest) tail (.error f)) :
      Outcome engine folder trace input (.error f, next)

theorem outcome_of_prepared {trace ready : Trace State} {input : Path × InputKind}
    {read : List Call} {sendings : List Sending}
    (hprepared : Prepared engine folder trace.engine input read sendings)
    (hcalls : ready.calls = trace.calls ++ read)
    (hengine : ready.engine = engine.after trace.engine read) (event : Journal.Event) :
    Outcome engine folder trace input
      ((do
        sendings.forM (send engine)
        Run.tell event : Run State Unit) ready) := by
  rcases send_run sendings ready with
    ⟨next, hrun, hsent, hstate, haccepts⟩ |
    ⟨before, s, rest, rejection, next, rfl, hrun, hsent, haccepts, hrejected⟩
  · rw [Run.bind_ok hrun]
    rw [hengine] at haccepts hstate
    refine .whole hprepared haccepts ?_ ?_
    · rw [← List.append_assoc, ← hcalls]
      exact hsent
    · rw [engine.after_append]
      exact hstate
  · rw [Run.bind_error hrun]
    rw [hengine] at haccepts hrejected
    rw [← engine.after_append] at hrejected
    have htail : next.calls = trace.calls ++ (read ++ (before ++ [s]).map (·.call)) := by
      rw [hsent, hcalls, List.append_assoc]
    cases rejection with
    | refused e => exact .ends htail fun _ => .refused hprepared haccepts hrejected
    | broken fault => exact .ends htail fun _ => .broken hprepared haccepts hrejected

theorem forM_sending (s : Sending) : [s].forM (send engine) = send engine s := bind_pure _

theorem forM_schemaSendings (path : Path) (schema : Schema) :
    (schemaSendings path schema).forM (send engine) = (do
      (storedStatements schema).forM (replayStatement engine path.toString)
      send engine (versionSending schema.userVersion)) := by
  have hstatements : ∀ statements : List StoredStatement,
      (statements.map fun s =>
          (⟨.execute s.sql, .recreateFailed s.kind s.name path.toString⟩ : Sending)).forM
        (send engine) = statements.forM (replayStatement engine path.toString) := by
    intro statements
    induction statements with
    | nil => rfl
    | cons s rest ih => exact congrArg (send engine _ >>= fun _ => ·) ih
  rw [schemaSendings, ← hstatements, ← forM_sending (versionSending schema.userVersion)]
  exact List.forM_append

theorem replay_outcome (engine : Engine State) (folder : Folder) (input : Path × InputKind)
    (trace : Trace State) :
    Outcome engine folder trace input (replay engine folder input trace) := by
  obtain ⟨path, _ | _⟩ := input
  case database =>
    have hreplay : replay engine folder (path, .database) = (do
        let schema ← readDatabase engine folder path
        (schemaSendings path schema).forM (send engine)
        Run.tell (.note .debug "database_replayed" [("source", .str path.toString),
          ("statements", .int (objectStatements schema).length)])) := by
      simp only [forM_schemaSendings, bind_assoc]
      rfl
    obtain ⟨read, hcalls, hengine, hok, herror⟩ :=
      readDatabase_cases engine folder path trace
    rw [hreplay]
    rcases hread : readDatabase engine folder path trace with ⟨f | schema, ready⟩
    · rw [hread] at hcalls herror
      rw [Run.bind_error hread]
      exact .ends hcalls fun _ => .unprepared (herror f rfl)
    · rw [hread] at hcalls hengine hok
      rw [Run.bind_ok hread]
      exact outcome_of_prepared (hok schema rfl) hcalls hengine _
  case script =>
    have hreplay : replay engine folder (path, .script) = (do
        let text ← ExceptT.mk (pure (readScript folder path))
        [scriptSending path text].forM (send engine)
        Run.tell (.note .debug "script_applied"
          [("source", .str path.toString), ("chars", .int text.length)])) := by
      simp only [forM_sending]
      rfl
    rw [hreplay]
    cases hread : readScript folder path with
    | error f =>
        exact .ends (List.append_nil _).symm fun _ =>
          .unprepared (.script hread (readScript_source folder hread))
    | ok text =>
        obtain ⟨bytes, decoded, hentry, hutf8, rfl⟩ := readScript_ok hread
        exact outcome_of_prepared (.script hentry hutf8) (List.append_nil _).symm rfl _

/-- Inputs are replayed as a whole, up to where the replay ends. -/
theorem replayInputs_ending (engine : Engine State) (folder : Folder)
    (inputs : List (Path × InputKind)) (trace : Trace State) :
    ∃ done more calls tail, inputs = done ++ more ∧
      Replayed engine folder trace.engine done calls ∧
      Ending engine folder (engine.after trace.engine calls) more tail
        ((do
          inputs.forM (replay engine folder)
          fetchSchema engine .scratch scratchSource : Run State Schema) trace).1 ∧
      ((do
          inputs.forM (replay engine folder)
          fetchSchema engine .scratch scratchSource : Run State Schema) trace).2.calls =
        trace.calls ++ (calls ++ tail) := by
  induction inputs generalizing trace with
  | nil =>
      have hacts : Run.Acts (∀ call ∈ ·, call.Queries .scratch) (FetchFailure scratchSource)
          (fetchSchema engine .scratch scratchSource) :=
        fetchSchema_acts (chains_forall _) fun call hcall => List.forall_mem_singleton.mpr hcall
      obtain ⟨queries, hcalls, hqueries, hfailure⟩ := hacts trace
      have hstart := (fetchSchema_keeps engine .scratch scratchSource).apply trace
      exact ⟨[], [], [], queries, rfl, .nil,
        .fetched hqueries (congrArg Prod.fst hstart).symm hfailure, hcalls⟩
  | cons input rest ih =>
      have hforM : (do
          (input :: rest).forM (replay engine folder)
          fetchSchema engine .scratch scratchSource : Run State Schema) =
        (do
          replay engine folder input
          rest.forM (replay engine folder)
          fetchSchema engine .scratch scratchSource) := bind_assoc _ _ _
      rw [hforM]
      have houtcome := replay_outcome engine folder input trace
      generalize hrun : replay engine folder input trace = result at houtcome
      cases houtcome with
      | ends hcalls hending =>
          rw [Run.bind_error hrun]
          exact ⟨[], input :: rest, [], _, rfl, .nil, hending rest, hcalls⟩
      | @whole next read sendings hprepared haccepts hcalls hengine =>
          rw [Run.bind_ok hrun]
          obtain ⟨done, more, calls, tail, rfl, hreplayed, hending, hlast⟩ := ih next
          rw [hengine] at hreplayed hending
          refine ⟨input :: done, more, read ++ sendings.map (·.call) ++ calls, tail, rfl,
            .cons hprepared haccepts hreplayed, ?_, ?_⟩
          · rw [engine.after_append]
            exact hending
          · rw [hlast, hcalls]
            simp

/-! ## Acquisition -/

/-- The calls and the result of replaying inputs from a state on.  A scratch database that cannot be
opened is all there is; otherwise inputs are replayed as a whole up to where the replay ends. -/
inductive InOrder (engine : Engine State) (folder : Folder) (state : State)
    (inputs : List (Path × InputKind)) : List Call → Except Failure Schema → Prop
  | closed {e : EngineError} (hrefused : (engine.connect .scratch state).1 = .error e) :
      InOrder engine folder state inputs [.connect .scratch false, .release .scratch]
        (.error (.openFailed scratchSource e))
  | opened {opened : State} {done more : List (Path × InputKind)} {calls tail : List Call}
      {result : Except Failure Schema}
      (hopened : engine.connect .scratch state = (.ok (), opened))
      (hinputs : inputs = done ++ more)
      (hreplayed : Replayed engine folder opened done calls)
      (hending : Ending engine folder (engine.after opened calls) more tail result) :
      InOrder engine folder state inputs
        (.connect .scratch true :: (calls ++ tail ++ [.release .scratch])) result

theorem replayAll_inOrder (engine : Engine State) (folder : Folder)
    (inputs : List (Path × InputKind)) (state : State) :
    InOrder engine folder state inputs (replayAll engine folder inputs (.start state)).2.calls
      (replayAll engine folder inputs (.start state)).1 := by
  rcases hanswer : engine.connect .scratch state with ⟨e | _, opened⟩
  · rw [replayAll, Run.withConnection_refused hanswer]
    exact .closed (by rw [hanswer])
  · obtain ⟨done, more, calls, tail, hinputs, hreplayed, hending, hcalls⟩ :=
      replayInputs_ending engine folder inputs
        ((Trace.start state).entered .scratch opened)
    rw [replayAll, Run.withConnection_accepted hanswer, Trace.record, hcalls]
    change InOrder engine folder state inputs
      (.connect .scratch true :: (calls ++ tail ++ [.release .scratch])) _
    exact .opened hanswer hinputs hreplayed hending

theorem acquire_classified (engine : Engine State) {paths : List Path}
    {inputs : List (Path × InputKind)} (h : classifyAll folder paths = .ok inputs)
    (trace : Trace State) :
    (acquire engine folder paths trace).1 = (acquireKinds engine folder inputs trace).1 ∧
      (acquire engine folder paths trace).2.calls =
        (acquireKinds engine folder inputs trace).2.calls := by
  have hpure : (ExceptT.mk (pure (classifyAll folder paths)) : Run State _) trace =
      (.ok inputs, trace) := by
    rw [h]
    rfl
  rw [acquire, Run.bind_ok hpure]
  rcases hrun : acquireKinds engine folder inputs trace with ⟨f | schema, next⟩
  · rw [Run.bind_error hrun]
    exact ⟨rfl, rfl⟩
  · rw [Run.bind_ok hrun]
    exact ⟨rfl, rfl⟩

/-- Inputs that are not a single database are replayed in order, each object of a database once.  A
failure is that of the first call that is refused, or of the first input that cannot be read.  It
names no source exactly if a column was met that cannot be read, or a call that broke down, or if
what is refused is the user version of a database. -/
theorem acquire_inOrder {paths : List Path} {inputs : List (Path × InputKind)}
    (hinputs : classifyAll folder paths = .ok inputs)
    (hmany : ∀ path, inputs ≠ [(path, .database)]) (state : State) :
    InOrder engine folder state inputs (acquire engine folder paths (.start state)).2.calls
        (acquire engine folder paths (.start state)).1 ∧
      (∀ rows, (creationOrder rows).Perm (rows.filter (·.role?.isSome))) ∧
      ((∃ fault, (acquire engine folder paths (.start state)).1 = .error (.conversion fault)) ↔
        engine.MeetsUnreadable state (acquire engine folder paths (.start state)).2.calls) ∧
      ((∃ fault, (acquire engine folder paths (.start state)).1 = .error (.callBroken fault)) ↔
        engine.MeetsBroken state (acquire engine folder paths (.start state)).2.calls) := by
  have hends := (acquire_keeps engine folder paths).ends state
  refine ⟨?_, creationOrder_perm, hends.conversion, hends.broken⟩
  obtain ⟨hresult, hcalls⟩ := acquire_classified engine hinputs (.start state)
  rw [hresult, hcalls]
  have hall : acquireKinds engine folder inputs = replayAll engine folder inputs := by
    unfold acquireKinds
    split
    case h_1 path => exact absurd rfl (hmany path)
    case h_2 => rfl
  rw [hall]
  exact replayAll_inOrder engine folder inputs state

end

def scriptedPeople : Folder :=
  ⟨[(⟨"", ["tables.sql"]⟩, .file ("CREATE TABLE t (a);\r\n".toList.map (·.toNat.toUInt8))),
    (⟨"", ["people.db"]⟩, .file databaseMagic)]⟩

theorem scriptedPeople_inOrder :
    let paths : List Path := [⟨"", ["tables.sql"]⟩, ⟨"", ["people.db"]⟩]
    let inputs := [(⟨"", ["tables.sql"]⟩, .script), (⟨"", ["people.db"]⟩, .database)]
    let run := acquire (sourceEngine peopleSource) scriptedPeople paths (.start .empty)
    classifyAll scriptedPeople paths = .ok inputs ∧
      InOrder (sourceEngine peopleSource) scriptedPeople .empty inputs run.2.calls run.1 :=
  ⟨rfl, (acquire_inOrder rfl (fun _ h => List.cons_ne_nil _ _ (List.cons.inj h).2) _).1⟩

end RecordLoom.Inputs
