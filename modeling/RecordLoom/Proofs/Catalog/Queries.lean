import RecordLoom.Proofs.Catalog.Listing

/-!
# The queries of a fetch

The catalog of a database settles which queries a fetch makes: three of its own, and then, row by
row, those about the object of the row.  They are made in this order, up to the first one that is
refused, or answered with a column that cannot be read; this one alone decides the failure.
-/

namespace RecordLoom.Catalog

variable {State α β : Type}

/-! ## What stops a row of calls -/

def Call.object? : Call → Option String
  | .queryTableInfo _ name | .queryForeignKeys _ name => some name
  | _ => none

def Reply.refusal? (reply : Reply State α) (state : State) : Option EngineError :=
  match (reply state).1 with
  | .ok _ => none
  | .error e => some e

def Receipt.refusal? (receipt : Receipt State) (state : State) : Option EngineError :=
  match (receipt state).1 with
  | .error (.refused e) => some e
  | _ => none

namespace Engine

variable (engine : Engine State) (source : String)

def refusal? (state : State) : Call → Option EngineError
  | .connect place _ => Reply.refusal? (engine.connect place) state
  | .release _ => none
  | .queryCatalog place => Reply.refusal? (engine.catalog place) state
  | .querySchemaVersion place => Reply.refusal? (engine.schemaVersion place) state
  | .queryUserVersion place => Reply.refusal? (engine.userVersion place) state
  | .queryTableInfo place name => Reply.refusal? (engine.tableInfo place name) state
  | .queryForeignKeys place name => Reply.refusal? (engine.foreignKeyList place name) state
  | .execute sql => Receipt.refusal? (engine.execute sql) state
  | .runScript text => Receipt.refusal? (engine.script text) state

def fault? (state : State) : Call → Option ConversionFault
  | .queryTableInfo place name =>
      match (engine.tableInfo place name state).1 with
      | .ok rows => columnFault? rows
      | .error _ => none
  | _ => none

theorem fault?_isSome_iff {state : State} {call : Call} :
    (engine.fault? state call).isSome ↔ engine.AnswersUnreadably state call := by
  cases call with
  | queryTableInfo place name =>
      rw [fault?, AnswersUnreadably]
      cases (engine.tableInfo place name state).1 with
      | ok rows => simp [columnFault?_isSome_iff]
      | error e => simp
  | _ => simp [fault?, AnswersUnreadably]

/-- Calls in a row that are all answered, and none of them with a column that cannot be read. -/
def Passes : State → List Call → Prop
  | _, [] => True
  | state, call :: rest =>
      engine.refusal? state call = none ∧ ¬engine.AnswersUnreadably state call ∧
        Passes (engine.next state call) rest

/-- The failure that a call means for a fetch. -/
def stop? (state : State) (call : Call) : Option Failure :=
  match engine.refusal? state call with
  | some e => some (.fetchFailed source e call.object?)
  | none => (engine.fault? state call).map .conversion

/-- The first failure in a row of calls, with the calls up to the one that means it. -/
def halt? : State → List Call → Option (List Call × Failure)
  | _, [] => none
  | state, call :: rest =>
      match engine.stop? source state call with
      | some f => some ([call], f)
      | none => (halt? (engine.next state call) rest).map (Prod.map (call :: ·) id)

variable {engine source} {state : State}

theorem stop?_eq_none_iff {call : Call} :
    engine.stop? source state call = none ↔
      engine.refusal? state call = none ∧ ¬engine.AnswersUnreadably state call := by
  rw [stop?, ← fault?_isSome_iff]
  cases engine.refusal? state call <;> simp

theorem stop?_of_refusal {call : Call} {e : EngineError} (h : engine.refusal? state call = some e) :
    engine.stop? source state call = some (.fetchFailed source e call.object?) := by
  rw [stop?, h]

theorem stop?_of_fault {call : Call} {fault : ConversionFault}
    (h : engine.fault? state call = some fault) :
    engine.stop? source state call = some (.conversion fault) := by
  have hanswered : engine.refusal? state call = none := by
    cases call with
    | queryTableInfo place name =>
        rw [fault?] at h
        rw [refusal?, Reply.refusal?]
        cases hrows : (engine.tableInfo place name state).1 with
        | ok rows => rfl
        | error e =>
            rw [hrows] at h
            cases h
    | _ => cases h
  rw [stop?, hanswered, h]
  rfl

theorem halt?_eq_none_iff {calls : List Call} :
    engine.halt? source state calls = none ↔ engine.Passes state calls := by
  induction calls generalizing state with
  | nil => simp [halt?, Passes]
  | cons call rest ih =>
      rw [halt?, Passes, ← and_assoc, ← @stop?_eq_none_iff _ engine source]
      cases engine.stop? source state call <;> simp [ih]

theorem halt?_append_of_some {calls made : List Call} {f : Failure}
    (h : engine.halt? source state calls = some (made, f)) (more : List Call) :
    engine.halt? source state (calls ++ more) = some (made, f) := by
  induction calls generalizing state made with
  | nil => cases h
  | cons call rest ih =>
      rw [halt?] at h
      rw [List.cons_append, halt?]
      cases hstop : engine.stop? source state call with
      | some g =>
          rw [hstop] at h
          exact h
      | none =>
          rw [hstop] at h
          obtain ⟨⟨first, g⟩, hrest, hmade⟩ := Option.map_eq_some_iff.mp h
          obtain ⟨rfl, rfl⟩ := Prod.mk.inj hmade
          simp only [ih hrest]
          rfl

theorem halt?_append_of_none {calls : List Call} (h : engine.halt? source state calls = none)
    (more : List Call) :
    engine.halt? source state (calls ++ more) =
      (engine.halt? source (engine.after state calls) more).map (Prod.map (calls ++ ·) id) := by
  induction calls generalizing state with
  | nil =>
      change _ = (engine.halt? source state more).map id
      rw [Option.map_id, List.nil_append, id]
  | cons call rest ih =>
      rw [halt?] at h
      rw [List.cons_append, halt?]
      cases hstop : engine.stop? source state call with
      | some f =>
          rw [hstop] at h
          cases h
      | none =>
          rw [hstop] at h
          have hrest := ih (Option.map_eq_none_iff.mp h)
          simp only [hrest, Option.map_map]
          rfl

/-- What stops a row of calls is the first call that means a failure. -/
theorem halt?_split {before after : List Call} {call : Call} {f : Failure}
    (hbefore : engine.Passes state before)
    (hcall : engine.stop? source (engine.after state before) call = some f) :
    engine.halt? source state (before ++ call :: after) = some (before ++ [call], f) := by
  rw [halt?_append_of_none (halt?_eq_none_iff.mpr hbefore), halt?, hcall]
  rfl

end Engine

/-! ## Parts of a run that keep to a row of calls -/

/-- A part of a run makes calls in a row from a trace on, up to the first one that means a failure,
which is then its own. -/
structure Run.Follows (engine : Engine State) (source : String) (first : Trace State)
    (calls : List Call) (x : Run State α) : Prop where
  halted : ∀ made f, engine.halt? source first.engine calls = some (made, f) →
    ∃ last, x first = (.error f, last) ∧ last.calls = first.calls ++ made
  passed : engine.halt? source first.engine calls = none →
    ∃ a last, x first = (.ok a, last) ∧ last.calls = first.calls ++ calls ∧
      last.engine = engine.after first.engine calls

namespace Run.Follows

variable {engine : Engine State} {source : String} {first : Trace State}

theorem of_quiet {x : Run State α} {a : α} {last : Trace State} (hx : x first = (.ok a, last))
    (hcalls : last.calls = first.calls) (hengine : last.engine = first.engine) :
    Run.Follows engine source first [] x where
  halted := nofun
  passed _ := ⟨a, last, hx, by rw [hcalls, List.append_nil], hengine⟩

theorem passed_of_ok {calls : List Call} {x : Run State α} {a : α} {last : Trace State}
    (h : Run.Follows engine source first calls x) (hx : x first = (.ok a, last)) :
    engine.halt? source first.engine calls = none ∧ last.calls = first.calls ++ calls ∧
      last.engine = engine.after first.engine calls := by
  cases hhalt : engine.halt? source first.engine calls with
  | some halted =>
      obtain ⟨last, hfailed, -⟩ := h.halted _ _ hhalt
      rw [hx] at hfailed
      cases hfailed
  | none =>
      obtain ⟨a, last, hpassed, hlast⟩ := h.passed hhalt
      rw [hx] at hpassed
      cases hpassed
      exact ⟨rfl, hlast⟩

theorem bind {calls more : List Call} {x : Run State α} {f : α → Run State β}
    (hx : Run.Follows engine source first calls x)
    (hf : ∀ a next, x first = (.ok a, next) → Run.Follows engine source next more (f a)) :
    Run.Follows engine source first (calls ++ more) (x >>= f) := by
  cases hhalt : engine.halt? source first.engine calls with
  | some halted =>
      obtain ⟨made, failure⟩ := halted
      have hboth := Engine.halt?_append_of_some hhalt more
      refine ⟨fun made f h => ?_, fun h => ?_⟩
      · rw [hboth] at h
        cases h
        obtain ⟨last, hfailed, hcalls⟩ := hx.halted _ _ hhalt
        exact ⟨last, Run.bind_error hfailed, hcalls⟩
      · rw [hboth] at h
        cases h
  | none =>
      -- The first half gave a value, so that whatever stops the calls stops those of the second.
      obtain ⟨a, next, hpassed, hcalls, hengine⟩ := hx.passed hhalt
      have hrest := hf a next hpassed
      have hboth := Engine.halt?_append_of_none hhalt more
      rw [← hengine] at hboth
      refine ⟨fun made f h => ?_, fun h => ?_⟩
      · rw [hboth] at h
        obtain ⟨⟨second, g⟩, hsecond, hmade⟩ := Option.map_eq_some_iff.mp h
        obtain ⟨rfl, rfl⟩ := Prod.mk.inj hmade
        obtain ⟨last, hfailed, hlast⟩ := hrest.halted _ _ hsecond
        refine ⟨last, ?_, ?_⟩
        · rw [Run.bind_ok hpassed, hfailed]
          rfl
        · rw [hlast, hcalls, List.append_assoc]
      · rw [hboth] at h
        obtain ⟨b, last, hlast, hmore, hstate⟩ := hrest.passed (Option.map_eq_none_iff.mp h)
        refine ⟨b, last, ?_, ?_, ?_⟩
        · rw [Run.bind_ok hpassed, hlast]
        · rw [hmore, hcalls, List.append_assoc]
        · rw [hstate, hengine, Engine.after_append]

theorem cons {call : Call} {rest : List Call} {x : Run State α} {f : α → Run State β}
    (hx : Run.Follows engine source first [call] x)
    (hf : ∀ a next, x first = (.ok a, next) → Run.Follows engine source next rest (f a)) :
    Run.Follows engine source first (call :: rest) (x >>= f) :=
  hx.bind hf

theorem bind_quiet {calls : List Call} {x : Run State α} {f : α → Run State β}
    (hx : Run.Follows engine source first calls x)
    (hf : ∀ a next, Run.Follows engine source next [] (f a)) :
    Run.Follows engine source first calls (x >>= f) := by
  rw [← List.append_nil calls]
  exact hx.bind fun a next _ => hf a next

theorem foldlM {calls : α → List Call} {f : β → α → Run State β}
    (h : ∀ first b a, Run.Follows engine source first (calls a) (f b a)) (items : List α) (b : β) :
    Run.Follows engine source first (items.flatMap calls) (items.foldlM f b) := by
  induction items generalizing first b with
  | nil => exact of_quiet rfl rfl rfl
  | cons a rest ih =>
      rw [List.foldlM_cons, List.flatMap_cons]
      exact (h first b a).bind fun c next _ => ih c

theorem call {call : Call} {x : Run State α} (hcalls : (x first).2.calls = first.calls ++ [call])
    (hengine : (x first).2.engine = engine.next first.engine call)
    (hstop : ∀ f, engine.stop? source first.engine call = some f ↔ (x first).1 = .error f) :
    Run.Follows engine source first [call] x := by
  refine ⟨fun made f h => ?_, fun h => ?_⟩
  · rw [Engine.halt?] at h
    cases hcall : engine.stop? source first.engine call with
    | some g =>
        rw [hcall] at h
        cases h
        exact ⟨_, Prod.ext ((hstop f).mp hcall) rfl, hcalls⟩
    | none =>
        rw [hcall] at h
        cases h
  · cases hresult : (x first).1 with
    | error f =>
        rw [Engine.halt?, (hstop f).mpr hresult] at h
        cases h
    | ok a => exact ⟨a, _, Prod.ext hresult rfl, hcalls, hengine⟩

theorem ask {call : Call} {object : Option String} {reply : Reply State α}
    (hnext : engine.next first.engine call = (reply first.engine).2)
    (hrefusal : engine.refusal? first.engine call = reply.refusal? first.engine)
    (hfault : engine.fault? first.engine call = none) (hobject : call.object? = object) :
    Run.Follows engine source first [call]
      (Run.ask call reply fun e => .fetchFailed source e object) := by
  refine .call rfl hnext.symm fun f => ?_
  rw [Run.ask_failure_iff, Engine.stop?, hrefusal, hfault, hobject, Reply.refusal?]
  cases (reply first.engine).1 <;> simp

end Run.Follows

/-! ## The queries that a catalog asks for -/

def CatalogRow.queries (place : Place) (row : CatalogRow) : List Call :=
  match row.role? with
  | some .table => [.queryTableInfo place row.name, .queryForeignKeys place row.name]
  | some .view => [.queryTableInfo place row.name]
  | _ => []

def Engine.rows (engine : Engine State) (place : Place) (state : State) : List CatalogRow :=
  match (engine.catalog place state).1 with
  | .ok rows => rows
  | .error _ => []

def opening (place : Place) : List Call :=
  [.queryCatalog place, .querySchemaVersion place, .queryUserVersion place]

/-- The queries of a fetch, in their order. -/
def Engine.queries (engine : Engine State) (place : Place) (state : State) : List Call :=
  opening place ++ (engine.rows place state).flatMap (CatalogRow.queries place)

section

variable (engine : Engine State) (place : Place) (source : String) (first : Trace State)

theorem fetchColumns_follows (name : String) :
    Run.Follows engine source first [.queryTableInfo place name]
      (fetchColumns engine place source name) := by
  have hask : Run.ask (.queryTableInfo place name) (engine.tableInfo place name)
      (.fetchFailed source · (some name)) first =
        ((engine.tableInfo place name first.engine).1.mapError (.fetchFailed source · (some name)),
          ⟨engine.next first.engine (.queryTableInfo place name),
            first.calls ++ [.queryTableInfo place name], first.events⟩) := rfl
  cases hanswer : (engine.tableInfo place name first.engine).1 with
  | error e =>
      rw [hanswer] at hask
      have hfetch : fetchColumns engine place source name first = _ := Run.bind_error hask
      have hstop : engine.refusal? first.engine (.queryTableInfo place name) = some e := by
        rw [Engine.refusal?, Reply.refusal?, hanswer]
      refine .call (by rw [hfetch]) (by rw [hfetch]) fun f => ?_
      rw [hfetch, Engine.stop?_of_refusal hstop]
      simp [Call.object?]
  | ok rows =>
      rw [hanswer] at hask
      have hfetch : fetchColumns engine place source name first =
        Run.ofConversion (rows.mapM ColumnRow.toColumn) _ := Run.bind_ok hask
      have hstop : engine.stop? source first.engine (.queryTableInfo place name) =
          (columnFault? rows).map .conversion := by
        rw [Engine.stop?, Engine.refusal?, Reply.refusal?, Engine.fault?, hanswer]
      refine .call (by rw [hfetch]; rfl) (by rw [hfetch]; rfl) fun f => ?_
      rw [hfetch, hstop]
      unfold columnFault? Run.ofConversion
      cases rows.mapM ColumnRow.toColumn with
      | ok columns => exact ⟨nofun, nofun⟩
      | error fault => exact ⟨fun h => by cases h; rfl, fun h => by cases h; rfl⟩

theorem fetchForeignKeys_follows (name : String) :
    Run.Follows engine source first [.queryForeignKeys place name]
      (fetchForeignKeys engine place source name) :=
  .bind_quiet (.ask rfl rfl rfl rfl) fun _ _ => .of_quiet rfl rfl rfl

theorem fetchRow_follows (schema : Schema) (row : CatalogRow) :
    Run.Follows engine source first (row.queries place)
      (fetchRow engine place source schema row) := by
  by_cases hdescribed : row.Described
  case pos =>
    rcases hdescribed with hrole | hrole
    · rw [fetchRow_table source hrole, CatalogRow.queries, hrole]
      refine .cons (fetchColumns_follows engine place source first row.name)
        fun columns next _ => ?_
      exact .bind_quiet (fetchForeignKeys_follows engine place source next row.name)
        fun keys last => .of_quiet rfl rfl rfl
    · rw [fetchRow_view source hrole, CatalogRow.queries, hrole]
      exact .bind_quiet (fetchColumns_follows engine place source first row.name)
        fun columns next => .of_quiet rfl rfl rfl
  case neg =>
    have hqueries : row.queries place = [] := by
      unfold CatalogRow.queries
      split
      case h_1 hrole => exact absurd (.inl hrole) hdescribed
      case h_2 hrole => exact absurd (.inr hrole) hdescribed
      case h_3 => rfl
    -- Rows that are not described are read without an answer, so that any description will do.
    let d : Description := ⟨fun _ => [], fun _ => []⟩
    obtain ⟨last, hengine, hcalls, hfetch⟩ := fetchRow_rest source (d := d) hdescribed schema first
    rw [hqueries]
    exact .of_quiet hfetch hcalls hengine

/-- A fetch makes its queries in their order, up to the first one that means a failure. -/
theorem fetchSchema_follows :
    Run.Follows engine source first (engine.queries place first.engine)
      (fetchSchema engine place source) := by
  refine .cons (.ask rfl rfl rfl rfl) fun rows listed hrows => ?_
  have hrows : engine.rows place first.engine = rows := by
    rw [Engine.rows, Run.of_ask_ok hrows]
  rw [hrows]
  refine .cons (.ask rfl rfl rfl rfl) fun version dated _ => ?_
  refine .cons (.ask rfl rfl rfl rfl) fun userVersion ready _ => ?_
  refine .bind_quiet (.foldlM (fun next => fetchRow_follows engine place source next) rows _) ?_
  exact fun schema last => .of_quiet rfl rfl rfl

end

end RecordLoom.Catalog
