import RecordLoom.Proofs.Catalog.Reading

/-!
# What a run leaves behind

A part of a run depends on the state of the engine alone, and adds to the trace it starts from.  The
calls that it adds account for the state in which it leaves the engine, and for every failure that
no input is blamed for: a conversion fails exactly if the engine described a column by a text that
cannot be read, and a call is reported as broken exactly if one broke down.
-/

namespace RecordLoom.Catalog

variable {State : Type}

/-! ## Calls -/

def Engine.next (engine : Engine State) (state : State) : Call → State
  | .connect place _ => (engine.connect place state).2
  | .release _ => state
  | .queryCatalog place => (engine.catalog place state).2
  | .querySchemaVersion place => (engine.schemaVersion place state).2
  | .queryUserVersion place => (engine.userVersion place state).2
  | .queryTableInfo place name => (engine.tableInfo place name state).2
  | .queryForeignKeys place name => (engine.foreignKeyList place name state).2
  | .execute sql => (engine.execute sql state).2
  | .runScript text => (engine.script text state).2

def Engine.after (engine : Engine State) (state : State) (calls : List Call) : State :=
  calls.foldl engine.next state

/-- Whether the engine answers a call with columns of which one cannot be read. -/
def Engine.AnswersUnreadably (engine : Engine State) (state : State) : Call → Prop
  | .queryTableInfo place name =>
      ∃ rows, (engine.tableInfo place name state).1 = .ok rows ∧ ∃ row ∈ rows, row.Unreadable
  | _ => False

/-- Whether a call breaks down without a word of the engine. -/
def Engine.BreaksDown (engine : Engine State) (state : State) : Call → Prop
  | .execute sql => ∃ fault, (engine.execute sql state).1 = .error (.broken fault)
  | .runScript text => ∃ fault, (engine.script text state).1 = .error (.broken fault)
  | _ => False

def Engine.Meets (engine : Engine State) (sort : State → Call → Prop) : State → List Call → Prop
  | _, [] => False
  | state, call :: rest => sort state call ∨ engine.Meets sort (engine.next state call) rest

/-- Whether one of several calls in a row is answered with a column that cannot be read. -/
def Engine.MeetsUnreadable (engine : Engine State) : State → List Call → Prop :=
  engine.Meets engine.AnswersUnreadably

/-- Whether one of several calls in a row breaks down. -/
def Engine.MeetsBroken (engine : Engine State) : State → List Call → Prop :=
  engine.Meets engine.BreaksDown

def Engine.Regular (engine : Engine State) (state : State) (calls : List Call) : Prop :=
  ¬engine.MeetsUnreadable state calls ∧ ¬engine.MeetsBroken state calls

section

variable (engine : Engine State)

theorem Engine.after_append (state : State) (calls more : List Call) :
    engine.after state (calls ++ more) = engine.after (engine.after state calls) more :=
  List.foldl_append

theorem Engine.meets_append {sort : State → Call → Prop} (state : State)
    (calls more : List Call) :
    engine.Meets sort state (calls ++ more) ↔
      engine.Meets sort state calls ∨ engine.Meets sort (engine.after state calls) more := by
  induction calls generalizing state with
  | nil => simp [Meets, after]
  | cons call rest ih =>
      rw [List.cons_append, Meets, Meets, ih, or_assoc]
      rfl

theorem Engine.meets_singleton {sort : State → Call → Prop} {state : State} {call : Call} :
    engine.Meets sort state [call] ↔ sort state call :=
  iff_of_eq (or_false _)

theorem Engine.regular_nil (state : State) : engine.Regular state [] := ⟨id, id⟩

theorem Engine.regular_singleton {state : State} {call : Call} :
    engine.Regular state [call] ↔
      ¬engine.AnswersUnreadably state call ∧ ¬engine.BreaksDown state call :=
  and_congr (not_congr engine.meets_singleton) (not_congr engine.meets_singleton)

end

/-! ## Parts of a run -/

def Trace.andThen (before after : Trace State) : Trace State :=
  ⟨after.engine, before.calls ++ after.calls, before.events ++ after.events⟩

@[simp] theorem Trace.andThen_calls (before after : Trace State) :
    (before.andThen after).calls = before.calls ++ after.calls := rfl

theorem Trace.andThen_start (trace : Trace State) :
    trace.andThen (.start trace.engine) = trace := by
  simp [Trace.andThen, Trace.start]

theorem Trace.start_andThen (state : State) (trace : Trace State) :
    (Trace.start state).andThen trace = trace := rfl

theorem Trace.andThen_assoc (first second third : Trace State) :
    (first.andThen second).andThen third = first.andThen (second.andThen third) := by
  simp [Trace.andThen, List.append_assoc]

namespace Run

variable {α β : Type}

theorem bind_ok {x : Run State α} {f : α → Run State β} {trace next : Trace State} {a : α}
    (h : x trace = (.ok a, next)) : (x >>= f) trace = f a next := by
  change (ExceptT.bindCont f (x trace).1) (x trace).2 = f a next
  rw [h]
  rfl

theorem bind_error {x : Run State α} {f : α → Run State β} {trace next : Trace State}
    {failure : Failure} (h : x trace = (.error failure, next)) :
    (x >>= f) trace = (.error failure, next) := by
  change (ExceptT.bindCont f (x trace).1) (x trace).2 = _
  rw [h]
  rfl

theorem tryCatch_ok {x : Run State α} {handle : Failure → Run State α} {trace next : Trace State}
    {a : α} (h : x trace = (.ok a, next)) : (tryCatch x handle) trace = (.ok a, next) := by
  simp only [tryCatch, tryCatchThe, MonadExceptOf.tryCatch, ExceptT.tryCatch, ExceptT.mk, bind,
    StateT.bind, h]
  rfl

theorem tryCatch_error {x : Run State α} {handle : Failure → Run State α} {trace next : Trace State}
    {failure : Failure} (h : x trace = (.error failure, next)) :
    (tryCatch x handle) trace = handle failure next := by
  simp only [tryCatch, tryCatchThe, MonadExceptOf.tryCatch, ExceptT.tryCatch, ExceptT.mk, bind,
    StateT.bind, h]

theorem bind_failure_iff {x : Run State α} {f : α → Run State β} {trace : Trace State}
    {failure : Failure} :
    ((x >>= f) trace).1 = .error failure ↔
      (x trace).1 = .error failure ∨
        ∃ a next, x trace = (.ok a, next) ∧ (f a next).1 = .error failure := by
  rcases hx : x trace with ⟨e | a, next⟩
  · rw [bind_error hx]
    constructor
    · intro h
      cases h
      exact .inl rfl
    · rintro (h | ⟨a, next, h, -⟩)
      · cases h
        rfl
      · cases h
  · rw [bind_ok hx]
    refine ⟨fun h => .inr ⟨a, next, rfl, h⟩, ?_⟩
    rintro (h | ⟨a, next, h, hf⟩)
    · cases h
    · cases h
      exact hf

theorem ofExcept_bind (result : Except Failure α) (f : α → Run State β) (trace : Trace State) :
    ((ExceptT.mk (pure result) >>= f : Run State β) trace).1 =
      result >>= fun a => (f a trace).1 := by
  cases result <;> rfl

theorem ask_failure_iff {ε : Type} {call : Call} {reply : State → Except ε α × State}
    {blame : ε → Failure} {trace : Trace State} {failure : Failure} :
    (Run.ask call reply blame trace).1 = .error failure ↔
      ∃ e, (reply trace.engine).1 = .error e ∧ blame e = failure := by
  change (reply trace.engine).1.mapError blame = _ ↔ _
  cases (reply trace.engine).1 <;> simp [Except.mapError]

theorem tell_ne_error {event : Journal.Event} {trace : Trace State} {failure : Failure} :
    (Run.tell event trace).1 ≠ .error failure := nofun

theorem connect_failure_iff {engine : Engine State} {place : Place} {source : String}
    {trace : Trace State} {failure : Failure} :
    (Run.connect engine place source trace).1 = .error failure ↔
      ∃ e, (engine.connect place trace.engine).1 = .error e ∧ .openFailed source e = failure := by
  change (engine.connect place trace.engine).1.mapError _ = _ ↔ _
  cases (engine.connect place trace.engine).1 <;> simp [Except.mapError]

theorem connect_ok {engine : Engine State} {place : Place} {source : String}
    {trace next : Trace State} {a : Unit}
    (h : Run.connect engine place source trace = (.ok a, next)) :
    engine.connect place trace.engine = (.ok (), next.engine) := by
  rcases hanswer : engine.connect place trace.engine with ⟨e | _, opened⟩
  · simp only [Run.connect, hanswer] at h
    cases h
  · simp only [Run.connect, hanswer] at h
    cases h
    rfl

theorem exists_connect_ok {engine : Engine State} {place : Place} (source : String)
    {trace : Trace State} {opened : State}
    (h : engine.connect place trace.engine = (.ok (), opened)) :
    ∃ next, Run.connect engine place source trace = (.ok (), next) ∧ next.engine = opened := by
  simp only [Run.connect, h]
  exact ⟨_, rfl, rfl⟩

/-- A failure that tells neither of a conversion nor of a call that broke down. -/
def Foreseen (f : Failure) : Prop :=
  (∀ fault, f ≠ .conversion fault) ∧ ∀ fault, f ≠ .callBroken fault

/-- How a part of a run ends that was started in a state of the engine.  It fails in a conversion
exactly if it met a column that cannot be read, and by a broken call exactly if one broke down; all
other failures are blamed on something else. -/
structure Ends (engine : Engine State) (blamed : Failure → Prop) (state : State)
    (result : Except Failure α) (trace : Trace State) : Prop where
  follows : trace.engine = engine.after state trace.calls
  conversion : (∃ fault, result = .error (.conversion fault)) ↔
    engine.MeetsUnreadable state trace.calls
  broken : (∃ fault, result = .error (.callBroken fault)) ↔ engine.MeetsBroken state trace.calls
  failure : ∀ f, result = .error f → blamed f ∨ ¬Foreseen f

/-- A part of a run that adds to any trace what it does on its own. -/
def Keeps (engine : Engine State) (blamed : Failure → Prop) (x : Run State α) : Prop :=
  ∀ state, ∃ result trace, Ends engine blamed state result trace ∧
    ∀ before : Trace State, before.engine = state → x before = (result, before.andThen trace)

variable {engine : Engine State} {blamed : Failure → Prop}

theorem Ends.of_ok {state : State} {a : α} {trace : Trace State}
    (hfollows : trace.engine = engine.after state trace.calls)
    (hregular : engine.Regular state trace.calls) :
    Ends engine blamed state (.ok a) trace where
  follows := hfollows
  conversion := ⟨nofun, fun h => absurd h hregular.1⟩
  broken := ⟨nofun, fun h => absurd h hregular.2⟩
  failure := nofun

theorem Ends.of_error {state : State} {f : Failure} {trace : Trace State}
    (hfollows : trace.engine = engine.after state trace.calls)
    (hregular : engine.Regular state trace.calls) (hblamed : blamed f) (hforeseen : Foreseen f) :
    Ends engine blamed state (.error f : Except Failure α) trace where
  follows := hfollows
  conversion := by
    refine ⟨?_, fun h => absurd h hregular.1⟩
    rintro ⟨fault, hfault⟩
    exact absurd (Except.error.inj hfault) (hforeseen.1 fault)
  broken := by
    refine ⟨?_, fun h => absurd h hregular.2⟩
    rintro ⟨fault, hfault⟩
    exact absurd (Except.error.inj hfault) (hforeseen.2 fault)
  failure := by
    rintro g hg
    cases hg
    exact .inl hblamed

theorem Ends.of_answer {state : State} {answer : Except EngineError α}
    {blame : EngineError → Failure} {trace : Trace State}
    (hfollows : trace.engine = engine.after state trace.calls)
    (hregular : engine.Regular state trace.calls) (hblamed : ∀ e, blamed (blame e))
    (hblame : ∀ e, Foreseen (blame e)) :
    Ends engine blamed state (answer.mapError blame) trace := by
  cases answer with
  | ok a => exact .of_ok hfollows hregular
  | error e => exact .of_error hfollows hregular (hblamed e) (hblame e)

theorem Ends.regular {state : State} {a : α} {trace : Trace State}
    (h : Ends engine blamed state (.ok a) trace) : engine.Regular state trace.calls := by
  constructor
  · rw [← h.conversion]
    simp
  · rw [← h.broken]
    simp

namespace Keeps

theorem mono {x : Run State α} {others : Failure → Prop} (h : Keeps engine blamed x)
    (hblamed : ∀ f, blamed f → others f) : Keeps engine others x := by
  intro state
  obtain ⟨result, trace, hends, hx⟩ := h state
  exact ⟨result, trace, ⟨hends.follows, hends.conversion, hends.broken,
    fun f hf => (hends.failure f hf).imp_left (hblamed f)⟩, hx⟩

protected theorem pure (a : α) : Keeps engine blamed (pure a : Run State α) := by
  intro state
  refine ⟨.ok a, .start state, .of_ok rfl (engine.regular_nil state), ?_⟩
  rintro before rfl
  rw [Trace.andThen_start]
  rfl

theorem tell (event : Journal.Event) : Keeps engine blamed (Run.tell event : Run State Unit) := by
  intro state
  refine ⟨.ok (), (Trace.start state).tell event, .of_ok rfl (engine.regular_nil state), ?_⟩
  rintro before rfl
  simp [Trace.andThen, Trace.tell, Trace.start]
  rfl

protected theorem bind {x : Run State α} {f : α → Run State β} (hx : Keeps engine blamed x)
    (hf : ∀ a, Keeps engine blamed (f a)) : Keeps engine blamed (x >>= f) := by
  intro state
  obtain ⟨result, first, hfirst, hx⟩ := hx state
  cases result with
  | error failure =>
      refine ⟨.error failure, first, ⟨hfirst.follows, ?_, ?_, ?_⟩, ?_⟩
      · simpa using hfirst.conversion
      · simpa using hfirst.broken
      · simpa using hfirst.failure
      · exact fun before hbefore => bind_error (hx before hbefore)
  | ok a =>
      -- The first half gave a value, so that whatever went wrong was met by the second.
      obtain ⟨result, second, hsecond, hfa⟩ := hf a first.engine
      have hread : ¬engine.Meets engine.AnswersUnreadably state first.calls := hfirst.regular.1
      have hsent : ¬engine.Meets engine.BreaksDown state first.calls := hfirst.regular.2
      refine ⟨result, first.andThen second, ⟨?_, ?_, ?_, hsecond.failure⟩, ?_⟩
      · rw [Trace.andThen_calls, engine.after_append, ← hfirst.follows]
        exact hsecond.follows
      · rw [hsecond.conversion, Trace.andThen_calls, Engine.MeetsUnreadable, engine.meets_append,
          ← hfirst.follows, or_iff_right hread]
      · rw [hsecond.broken, Trace.andThen_calls, Engine.MeetsBroken, engine.meets_append,
          ← hfirst.follows, or_iff_right hsent]
      · intro before hbefore
        rw [bind_ok (hx before hbefore), hfa (before.andThen first) rfl, Trace.andThen_assoc]

protected theorem forM {f : α → Run State PUnit} {items : List α}
    (h : ∀ a ∈ items, Keeps engine blamed (f a)) : Keeps engine blamed (items.forM f) := by
  induction items with
  | nil => exact Keeps.pure _
  | cons a rest ih =>
      obtain ⟨ha, hrest⟩ := List.forall_mem_cons.mp h
      exact ha.bind fun _ => ih hrest

protected theorem foldlM {f : β → α → Run State β} (h : ∀ b a, Keeps engine blamed (f b a))
    (items : List α) (b : β) : Keeps engine blamed (items.foldlM f b) := by
  induction items generalizing b with
  | nil => exact Keeps.pure b
  | cons a rest ih =>
      rw [List.foldlM_cons]
      exact (h b a).bind ih

theorem ask {call : Call} {reply : Reply State α} {blame : EngineError → Failure}
    (hnext : ∀ state, engine.next state call = (reply state).2)
    (hregular : ∀ state, ¬engine.AnswersUnreadably state call ∧ ¬engine.BreaksDown state call)
    (hblamed : ∀ e, blamed (blame e)) (hblame : ∀ e, Foreseen (blame e)) :
    Keeps engine blamed (Run.ask call reply blame) := by
  intro state
  have hfollows : (reply state).2 = engine.after state [call] := (hnext state).symm
  refine ⟨(reply state).1.mapError blame, ⟨(reply state).2, [call], []⟩, ?_, ?_⟩
  · exact .of_answer hfollows (engine.regular_singleton.mpr (hregular state)) hblamed hblame
  · rintro before rfl
    simp [Run.ask, Trace.andThen, Trace.record]

theorem send {call : Call} {receipt : Receipt State} {blame : EngineError → Failure}
    (hnext : ∀ state, engine.next state call = (receipt state).2)
    (hread : ∀ state, ¬engine.AnswersUnreadably state call)
    (hbroken : ∀ state,
      engine.BreaksDown state call ↔ ∃ fault, (receipt state).1 = .error (.broken fault))
    (hblamed : ∀ e, blamed (blame e)) (hblame : ∀ e, Foreseen (blame e)) :
    Keeps engine blamed (Run.ask call receipt (Rejection.blame blame)) := by
  intro state
  have hfollows : (receipt state).2 = engine.after state [call] := (hnext state).symm
  have hregular : (∀ fault, (receipt state).1 ≠ .error (.broken fault)) →
      engine.Regular state [call] := fun hsent =>
    engine.regular_singleton.mpr
      ⟨hread state, fun h => ((hbroken state).mp h).elim fun fault => hsent fault⟩
  refine ⟨(receipt state).1.mapError (Rejection.blame blame), ⟨(receipt state).2, [call], []⟩,
    ?_, ?_⟩
  · cases hanswer : (receipt state).1 with
    | ok a => exact .of_ok hfollows (hregular (by simp [hanswer]))
    | error rejection =>
        cases rejection with
        | refused e =>
            exact .of_error hfollows (hregular (by simp [hanswer])) (hblamed e) (hblame e)
        | broken fault =>
            have hmeets : engine.MeetsBroken state [call] :=
              engine.meets_singleton.mpr ((hbroken state).mpr ⟨fault, hanswer⟩)
            have hreadable : ¬engine.MeetsUnreadable state [call] := fun h =>
              hread state (engine.meets_singleton.mp h)
            refine ⟨hfollows, ⟨nofun, fun h => absurd h hreadable⟩, ⟨fun _ => hmeets, fun _ => ?_⟩,
              ?_⟩
            · exact ⟨fault, rfl⟩
            · rintro f ⟨⟩
              exact .inr fun hforeseen => hforeseen.2 fault rfl
  · rintro before rfl
    simp [Run.ask, Trace.andThen, Trace.record]

theorem ofExcept {result : Except Failure α} (hblamed : ∀ f, result = .error f → blamed f)
    (hforeseen : ∀ f, result = .error f → Foreseen f) :
    Keeps engine blamed (ExceptT.mk (pure result) : Run State α) := by
  intro state
  refine ⟨result, .start state, ?_, ?_⟩
  · cases result with
    | ok a => exact .of_ok rfl (engine.regular_nil state)
    | error f => exact .of_error rfl (engine.regular_nil state) (hblamed f rfl) (hforeseen f rfl)
  · rintro before rfl
    rw [Trace.andThen_start]
    rfl

theorem withConnection_apply (place : Place) (source : String) (body : Run State α)
    (trace : Trace State) :
    Run.withConnection engine place source body trace =
      (((Run.connect engine place source >>= fun _ => body) trace).1,
        ((Run.connect engine place source >>= fun _ => body) trace).2.record (.release place)) :=
  rfl

theorem withConnection {place : Place} {source : String} {body : Run State α}
    (hbody : Keeps engine blamed body) (hblamed : ∀ e, blamed (.openFailed source e)) :
    Keeps engine blamed (Run.withConnection engine place source body) := by
  have hconnect : Keeps engine blamed (Run.connect engine place source) := by
    intro state
    refine ⟨(engine.connect place state).1.mapError (.openFailed source),
      (Run.connect engine place source (.start state)).2, ?_, ?_⟩
    · exact .of_answer rfl (engine.regular_singleton.mpr ⟨id, id⟩) hblamed fun _ => ⟨nofun, nofun⟩
    · rintro before rfl
      simp [Run.connect, Trace.andThen, Trace.record, Trace.start]
  intro state
  obtain ⟨result, trace, hends, hrun⟩ := (hconnect.bind fun _ => hbody) state
  refine ⟨result, trace.record (.release place), ⟨?_, ?_, ?_, hends.failure⟩, ?_⟩
  · rw [Trace.record, engine.after_append]
    exact hends.follows
  · rw [hends.conversion, Trace.record, Engine.MeetsUnreadable, engine.meets_append]
    exact (or_iff_left fun h => engine.meets_singleton.mp h).symm
  · rw [hends.broken, Trace.record, Engine.MeetsBroken, engine.meets_append]
    exact (or_iff_left fun h => engine.meets_singleton.mp h).symm
  · intro before hbefore
    rw [withConnection_apply, hrun before hbefore]
    simp [Trace.andThen, Trace.record]

theorem apply {x : Run State α} (h : Keeps engine blamed x) (before : Trace State) :
    x before = ((x (.start before.engine)).1, before.andThen (x (.start before.engine)).2) := by
  obtain ⟨result, trace, -, hx⟩ := h before.engine
  rw [hx before rfl, hx (.start before.engine) rfl, Trace.start_andThen]

theorem ends {x : Run State α} (h : Keeps engine blamed x) (state : State) :
    Ends engine blamed state (x (.start state)).1 (x (.start state)).2 := by
  obtain ⟨result, trace, hends, hx⟩ := h state
  rwa [hx (.start state) rfl, Trace.start_andThen]

theorem bind_failure_iff {x : Run State α} {f : α → Run State β} {state : State}
    {failure : Failure} (hf : ∀ a, Keeps engine blamed (f a)) :
    ((x >>= f) (.start state)).1 = .error failure ↔
      (x (.start state)).1 = .error failure ∨
        ∃ a next, x (.start state) = (.ok a, next) ∧
          (f a (.start next.engine)).1 = .error failure := by
  rw [Run.bind_failure_iff]
  have hsecond : ∀ a (next : Trace State), (f a next).1 = (f a (.start next.engine)).1 := by
    intro a next
    rw [(hf a).apply next]
  refine or_congr Iff.rfl (exists_congr fun a => exists_congr fun next => ?_)
  rw [hsecond a next]

theorem withConnection_failure_iff {place : Place} {source : String} {body : Run State α}
    (hbody : Keeps engine blamed body) {state : State} {failure : Failure} :
    (Run.withConnection engine place source body (.start state)).1 = .error failure ↔
      (∃ e, (engine.connect place state).1 = .error e ∧ .openFailed source e = failure) ∨
        ∃ opened, engine.connect place state = (.ok (), opened) ∧
          (body (.start opened)).1 = .error failure := by
  rw [withConnection_apply, bind_failure_iff fun _ => hbody, connect_failure_iff]
  refine or_congr_right ?_
  constructor
  · rintro ⟨_, next, hopened, hfailure⟩
    exact ⟨next.engine, connect_ok hopened, hfailure⟩
  · rintro ⟨opened, haccepted, hfailure⟩
    have haccepted : engine.connect place (Trace.start state).engine = (.ok (), opened) := haccepted
    obtain ⟨next, hopened, rfl⟩ := exists_connect_ok source haccepted
    exact ⟨(), next, hopened, hfailure⟩

end Keeps

end Run

/-! ## Reading a schema -/

section

variable (engine : Engine State) (place : Place) (source : String)

/-- A failure that is blamed on an input. -/
def Attributed (f : Failure) : Prop := f.source?.isSome = true

theorem Attributed.isReported {f : Failure} (h : Attributed f) : f.isReported = true := by
  cases f <;> first | rfl | cases h

theorem Attributed.foreseen {f : Failure} (h : Attributed f) : Run.Foreseen f := by
  constructor
  all_goals
    rintro fault rfl
    cases h

theorem fetchColumns_keeps (name : String) :
    Run.Keeps engine Attributed (fetchColumns engine place source name) := by
  intro state
  -- Rows are converted as soon as they are answered, so that this one call decides.
  let trace : Trace State :=
    ⟨(engine.tableInfo place name state).2, [.queryTableInfo place name], []⟩
  have hmeets : engine.MeetsUnreadable state trace.calls ↔
      ∃ rows, (engine.tableInfo place name state).1 = .ok rows ∧ ∃ row ∈ rows, row.Unreadable :=
    engine.meets_singleton
  have hsent : ¬engine.MeetsBroken state trace.calls := engine.meets_singleton.mp
  have hask : ∀ before : Trace State, before.engine = state →
      Run.ask (.queryTableInfo place name) (engine.tableInfo place name)
        (.fetchFailed source · (some name)) before =
      ((engine.tableInfo place name state).1.mapError (.fetchFailed source · (some name)),
        before.andThen trace) := by
    rintro before rfl
    simp [Run.ask, Trace.andThen, Trace.record, trace]
  cases hanswer : (engine.tableInfo place name state).1 with
  | error e =>
      simp only [hanswer, reduceCtorEq, false_and, exists_false, iff_false] at hmeets
      refine ⟨.error (.fetchFailed source e (some name)), trace,
        .of_error rfl ⟨hmeets, hsent⟩ rfl ⟨nofun, nofun⟩, fun before hbefore => ?_⟩
      have hask := hask before hbefore
      rw [hanswer] at hask
      exact Run.bind_error hask
  | ok rows =>
      simp only [hanswer, Except.ok.injEq, exists_eq_left', ← mapM_toColumn_error_iff] at hmeets
      refine ⟨(rows.mapM ColumnRow.toColumn).mapError .conversion, trace, ⟨rfl, ?_, ?_, ?_⟩,
        fun before hbefore => ?_⟩
      · rw [hmeets]
        cases rows.mapM ColumnRow.toColumn <;> simp [Except.mapError]
      · refine iff_of_false ?_ hsent
        cases rows.mapM ColumnRow.toColumn <;> simp [Except.mapError]
      · cases rows.mapM ColumnRow.toColumn <;> simp [Except.mapError, Run.Foreseen, eq_comm]
      · have hask := hask before hbefore
        rw [hanswer] at hask
        exact Run.bind_ok hask

theorem query_keeps {α : Type} {call : Call} {reply : Reply State α} {object : Option String}
    (hnext : ∀ state, engine.next state call = (reply state).2)
    (hregular : ∀ state, ¬engine.AnswersUnreadably state call ∧ ¬engine.BreaksDown state call) :
    Run.Keeps engine Attributed (Run.ask call reply (.fetchFailed source · object)) :=
  .ask hnext hregular (fun _ => rfl) fun _ => ⟨nofun, nofun⟩

theorem fetchForeignKeys_keeps (name : String) :
    Run.Keeps engine Attributed (fetchForeignKeys engine place source name) :=
  (query_keeps engine source (fun _ => rfl) fun _ => ⟨id, id⟩).bind fun _ => .pure _

theorem fetchRow_keeps (schema : Schema) (row : CatalogRow) :
    Run.Keeps engine Attributed (fetchRow engine place source schema row) := by
  unfold fetchRow
  split
  · split
    · exact .pure _
    · exact (fetchColumns_keeps engine place source row.name).bind fun columns =>
        (fetchForeignKeys_keeps engine place source row.name).bind fun keys => .pure _
  · exact (fetchColumns_keeps engine place source row.name).bind fun columns => .pure _
  · exact .pure _
  · exact .pure _
  · exact (Run.Keeps.tell _).bind fun _ => .pure _

theorem fetchSchema_keeps : Run.Keeps engine Attributed (fetchSchema engine place source) := by
  refine .bind (query_keeps engine source (fun _ => rfl) fun _ => ⟨id, id⟩) fun rows => ?_
  refine .bind (query_keeps engine source (fun _ => rfl) fun _ => ⟨id, id⟩) fun version => ?_
  refine .bind (query_keeps engine source (fun _ => rfl) fun _ => ⟨id, id⟩) fun userVersion => ?_
  refine .bind (.foldlM (fetchRow_keeps engine place source) rows _) fun schema => ?_
  exact (Run.Keeps.tell _).bind fun _ => .pure _

end

end RecordLoom.Catalog
