import RecordLoom.Proofs.Catalog.Calls
import RecordLoom.Proofs.Catalog.Source
import RecordLoom.Proofs.Inputs.Acquisition

/-!
# Replaying one database

A single database is read as it is.  Replaying it would give the same schema, as long as the scratch
database brings back what the statements of the source created there.
-/

namespace RecordLoom.Inputs

open RecordLoom.Catalog

/-! ## Statements -/

def statementOf (row : CatalogRow) : StoredStatement := ⟨row.kind, row.name, row.text⟩

theorem map_statementOf {role : Role} {rows : List CatalogRow}
    (h : ∀ row ∈ rows, row.role? = some role) :
    rows.map (fun row => ⟨role.kind, row.name, row.text⟩) = rows.map statementOf :=
  List.map_congr_left fun row hrow => by rw [statementOf, CatalogRow.kind_of_role? (h row hrow)]

theorem flatMap_ofList {α : Type} (value : CatalogRow → α) (statement : α → StoredStatement)
    (rows : List CatalogRow) :
    (Groups.ofList (·.table) value rows).flatMap (fun (_, group) => group.map statement) =
      (Groups.ofList (·.table) id rows).values.map fun row => statement (value row) := by
  have hgroups : Groups.ofList (·.table) value rows =
      (Groups.ofList (·.table) id rows).map fun g => (g.1, g.2.map value) :=
    (Groups.map_ofList value (·.table) id rows).symm
  rw [hgroups, List.flatMap_map, Groups.values, List.map_flatMap]
  simp only [List.map_map]
  rfl

theorem objectStatements_schema (source : Source) (version userVersion : Int) :
    objectStatements (source.description.schema source.rows version userVersion) =
      source.objects.map statementOf := by
  have hrole : ∀ role, ∀ row ∈ ofRole role source.rows, row.role? = some role := fun _ _ h =>
    (mem_ofRole.mp h).2
  have hgrouped : ∀ role, ∀ row ∈ source.grouped role, row.role? = some role := fun role row h =>
    hrole role row (Source.mem_grouped.mp h)
  simp only [objectStatements, Description.schema, flatMap_ofList, List.map_map, Source.objects,
    List.map_append, ← map_statementOf (hrole .table), ← map_statementOf (hrole .view),
    ← map_statementOf (hgrouped .index), ← map_statementOf (hgrouped .trigger)]
  rfl

theorem storedStatements_schema (source : Source) (version userVersion : Int) :
    storedStatements (source.description.schema source.rows version userVersion) =
      source.replayed.map statementOf := by
  rw [storedStatements, objectStatements_schema, List.filter_map]
  rfl

/-! ## The scratch database -/

/-- What the scratch database holds, and the tables and views of which it says what the source
says. -/
structure Contents where
  rows : List CatalogRow
  userVersion : Int
  described : List String

def Contents.empty : Contents := ⟨[], 0, []⟩

/-- How a statement changes the scratch database: rows come at the end, at whatever pages.  Among
them may be rows that say nothing of the schema. -/
structure Recreates (source : Source) (row : CatalogRow) (old new : Contents) : Prop where
  rows : ∃ added, new.rows = old.rows ++ added ∧
    (added.filter (·.role?.isSome)).map CatalogRow.unrooted =
      (source.recreated row).map CatalogRow.unrooted
  userVersion : new.userVersion = old.userVersion
  described : ∀ name ∈ old.described, name ∈ new.described
  self : row.Described → row.name ∈ new.described

/-- The scratch database after the statements of some objects. -/
structure Holds (source : Source) (done : List CatalogRow) (contents : Contents) : Prop where
  rows : (contents.rows.filter (·.role?.isSome)).map CatalogRow.unrooted =
    (done.flatMap source.recreated).map CatalogRow.unrooted
  described : ∀ row ∈ done, row.Described → row.name ∈ contents.described

theorem Holds.empty (source : Source) : Holds source [] .empty :=
  ⟨rfl, nofun⟩

theorem Holds.concat {source : Source} {done : List CatalogRow} {row : CatalogRow}
    {old new : Contents} (h : Holds source done old) (hrow : Recreates source row old new) :
    Holds source (done ++ [row]) new where
  rows := by
    obtain ⟨added, hrows, hadded⟩ := hrow.rows
    rw [hrows, List.filter_append, List.map_append, h.rows, hadded]
    simp
  described := by
    intro other hother hdescribed
    rcases List.mem_append.mp hother with hother | hother
    · exact hrow.described _ (h.described other hother hdescribed)
    · obtain rfl := List.mem_singleton.mp hother
      exact hrow.self hdescribed

theorem Holds.origin {source : Source} {contents : Contents}
    (h : Holds source source.replayed contents) {row : CatalogRow} (hrow : row ∈ contents.rows)
    (hdescribed : row.Described) :
    ∃ origin ∈ source.rows, origin.role? = row.role? ∧ origin.name = row.name ∧
      origin.name ∈ contents.described := by
  have hsome : row.role?.isSome = true := by
    rcases hdescribed with hrole | hrole <;> simp [hrole]
  have hmem : row.unrooted ∈ (source.replayed.flatMap source.recreated).map CatalogRow.unrooted := by
    rw [← h.rows]
    exact List.mem_map_of_mem (List.mem_filter.mpr ⟨hrow, hsome⟩)
  obtain ⟨origin, horigin, hsame⟩ := List.mem_map.mp hmem
  have hrole : origin.role? = row.role? :=
    show origin.unrooted.role? = row.unrooted.role? by rw [hsame]
  have hname : origin.name = row.name :=
    show origin.unrooted.name = row.unrooted.name by rw [hsame]
  obtain ⟨object, hobject, hbrought⟩ := List.mem_flatMap.mp horigin
  rcases List.mem_cons.mp hbrought with rfl | hbrought
  · refine ⟨origin, (Source.mem_of_mem_objects (List.mem_of_mem_filter hobject)).1, hrole, hname, ?_⟩
    refine h.described origin hobject ?_
    rw [CatalogRow.Described, hrole]
    exact hdescribed
  · exfalso
    split at hbrought
    case isTrue =>
      rw [CatalogRow.Described, ← hrole, Source.automatic_role hbrought] at hdescribed
      simp at hdescribed
    case isFalse => cases hbrought

section

variable {State : Type}

/-- What is taken for granted of an engine.  The source answers throughout in the same way.  The
scratch database starts empty; a statement brings back what it created in the source, when those
before it have; and it then describes tables and views as the source does. -/
structure Replays (engine : Engine State) (place : Place) (view : State → Contents)
    (source : Source) : Prop where
  opened : ∀ contents, Reply.Gives (engine.connect place) (view · = contents) ()
  answers : ∀ contents, engine.Answers place (view · = contents) source.rows source.userVersion
  describes : ∀ contents, ∀ row ∈ source.rows,
    engine.Describes place (view · = contents) source.description row
  fresh : ∀ state, (engine.connect .scratch state).1 = .ok () ∧
    view (engine.connect .scratch state).2 = .empty
  held : ∀ contents,
    engine.Answers .scratch (view · = contents) contents.rows contents.userVersion
  heldDescribes : ∀ contents, ∀ row ∈ source.rows, row.name ∈ contents.described →
    engine.Describes .scratch (view · = contents) source.description row
  recreates : ∀ before row after, source.replayed = before ++ row :: after → ∀ state,
    Holds source before (view state) →
      (engine.execute row.text state).1 = .ok () ∧
        Recreates source row (view state) (view (engine.execute row.text state).2)
  setsVersion : ∀ state, Holds source source.replayed (view state) →
    (engine.execute (userVersionStatement source.userVersion) state).1 = .ok () ∧
      view (engine.execute (userVersionStatement source.userVersion) state).2 =
        { view state with userVersion := source.userVersion }

end

def Contents.recreate (contents : Contents) (source : Source) (row : CatalogRow) : Contents where
  rows := contents.rows ++ (source.recreated row).mapIdx fun i row =>
    { row with rootPage := some (contents.rows.length + i + 2) }
  userVersion := contents.userVersion
  described := if row.Described then contents.described ++ [row.name] else contents.described

def sourceEngine (source : Source) : Engine Contents where
  connect place contents := (.ok (), if place = .scratch then .empty else contents)
  catalog place contents :=
    (.ok (if place = .scratch then contents.rows else source.rows), contents)
  schemaVersion _ contents := (.ok (some contents.rows.length), contents)
  userVersion place contents :=
    (.ok (some (if place = .scratch then contents.userVersion else source.userVersion)), contents)
  tableInfo place name contents :=
    (.ok (if place = .scratch ∧ name ∉ contents.described then []
      else source.description.columns name), contents)
  foreignKeyList place name contents :=
    (.ok (if place = .scratch ∧ name ∉ contents.described then []
      else source.description.keys name), contents)
  execute sql contents :=
    if sql = userVersionStatement source.userVersion then
      (.ok (), { contents with userVersion := source.userVersion })
    else
      match source.replayed.find? (·.text == sql) with
      | some row => (.ok (), contents.recreate source row)
      | none => (.error (.refused ⟨"incomplete input", none⟩), contents)
  script _ contents := (.ok (), contents)

theorem recreates_recreate (contents : Contents) (source : Source) {row : CatalogRow}
    (hrow : row.role?.isSome = true) :
    Recreates source row contents (contents.recreate source row) where
  rows := by
    refine ⟨_, rfl, ?_⟩
    have hrole : ∀ brought ∈ source.recreated row, brought.role?.isSome = true := by
      intro brought hbrought
      rcases List.mem_cons.mp hbrought with rfl | hbrought
      · exact hrow
      · split at hbrought
        case isTrue => rw [Source.automatic_role hbrought, Option.isSome_some]
        case isFalse => cases hbrought
    rw [List.filter_eq_self.mpr]
    · refine List.ext_getElem (by simp) fun i _ _ => ?_
      simp [CatalogRow.unrooted]
    · intro brought hbrought
      obtain ⟨i, hi, rfl⟩ := List.mem_mapIdx.mp hbrought
      have hsome : (source.recreated row)[i].role?.isSome = true := hrole _ (List.getElem_mem hi)
      exact hsome
  userVersion := rfl
  described name hname := by
    unfold Contents.recreate
    split
    case isTrue => exact List.mem_append_left _ hname
    case isFalse => exact hname
  self hdescribed := by
    simp [Contents.recreate, hdescribed]

/-- Such an engine meets what is taken for granted, if statements can be told apart. -/
theorem sourceEngine_replays {source : Source} (name : String)
    (hdistinct : ∀ row ∈ source.replayed, source.replayed.find? (·.text == row.text) = some row)
    (hversion : ∀ row ∈ source.replayed, row.text ≠ userVersionStatement source.userVersion) :
    Replays (sourceEngine source) (.file name) id source where
  opened _ _ h := ⟨rfl, h⟩
  answers _ := ⟨fun _ h => ⟨rfl, h⟩, fun _ h => ⟨_, rfl, h⟩, fun _ h => ⟨_, rfl, rfl, h⟩⟩
  describes _ _ _ := ⟨fun _ _ h => ⟨rfl, h⟩, fun _ _ h => ⟨rfl, h⟩⟩
  fresh _ := ⟨rfl, rfl⟩
  held contents := by
    refine ⟨?_, fun _ h => ⟨_, rfl, h⟩, ?_⟩
    · rintro _ rfl
      exact ⟨rfl, rfl⟩
    · rintro _ rfl
      exact ⟨_, rfl, rfl, rfl⟩
  heldDescribes contents row _ hrow := by
    constructor
    all_goals
      rintro - _ rfl
      have hdescribed : ¬(Place.scratch = .scratch ∧ row.name ∉ _) := fun h => h.2 hrow
      exact ⟨congrArg Except.ok (if_neg hdescribed), rfl⟩
  recreates before row after hsplit contents _ := by
    have hmem : row ∈ source.replayed := by simp [hsplit]
    have hexecute : (sourceEngine source).execute row.text contents =
        (.ok (), contents.recreate source row) := by
      simp only [sourceEngine, if_neg (hversion row hmem), hdistinct row hmem]
    rw [hexecute]
    exact ⟨rfl, recreates_recreate contents source
      (Source.mem_of_mem_objects (List.mem_of_mem_filter hmem)).2⟩
  setsVersion contents _ := by simp [sourceEngine]

/-! ## Runs -/

section

variable {State : Type} {engine : Engine State} {folder : Folder} {path : Path}
  {view : State → Contents} {source : Source}

theorem withConnection_ok {α : Type} {place : Place} (name : String) (body : Run State α)
    {trace : Trace State} (hconnect : (engine.connect place trace.engine).1 = .ok ()) :
    ∃ opened, opened.engine = (engine.connect place trace.engine).2 ∧
      Run.withConnection engine place name body trace =
        ((body opened).1, (body opened).2.record (.release place)) := by
  exact ⟨trace.entered place (engine.connect place trace.engine).2, rfl,
    Run.withConnection_accepted (by rw [← hconnect]) body⟩

theorem replayAll_single (engine : Engine State) (folder : Folder) (path : Path) :
    replayAll engine folder [(path, .database)] =
      Run.withConnection engine .scratch scratchSource (do
        replayDatabase engine folder path
        fetchSchema engine .scratch scratchSource) := by
  simp [replayAll, replay]

section

variable (h : Replays engine (.file (folder.resolvedName path)) view source)
include h

theorem readDatabase_run (trace : Trace State) :
    ∃ version next, view next.engine = view trace.engine ∧
      readDatabase engine folder path trace =
        (outcome (source.rows.findSome? source.description.fault?)
          (source.description.schema source.rows version source.userVersion), next) := by
  obtain ⟨hconnect, hkept⟩ := h.opened (view trace.engine) trace.engine rfl
  obtain ⟨opened, hopened, hrun⟩ := withConnection_ok path.toString
    (fetchSchema engine (.file (folder.resolvedName path)) path.toString) hconnect
  obtain ⟨version, next, hnext, hfetch⟩ := fetchSchema_run path.toString
    (h.answers (view trace.engine)) (h.describes (view trace.engine)) (hopened ▸ hkept)
  refine ⟨version, next.record (.release (.file (folder.resolvedName path))), hnext, ?_⟩
  rw [readDatabase, hrun, hfetch]

theorem replayStatements_run (name : String) {before rest : List CatalogRow}
    (hsplit : source.replayed = before ++ rest) {trace : Trace State}
    (hholds : Holds source before (view trace.engine)) :
    ∃ next, Holds source source.replayed (view next.engine) ∧
      (rest.map statementOf).forM (replayStatement engine name) trace = (.ok (), next) := by
  induction rest generalizing before trace with
  | nil =>
      rw [List.append_nil] at hsplit
      exact ⟨trace, hsplit ▸ hholds, rfl⟩
  | cons row rest ih =>
      obtain ⟨hok, hrow⟩ := h.recreates before row rest hsplit trace.engine hholds
      obtain ⟨next, hnext, hask⟩ := Run.ask_ok hok (.execute row.text)
        (Rejection.blame (.recreateFailed row.kind row.name name))
      have hnow : Holds source (before ++ [row]) (view next.engine) := hnext ▸ hholds.concat hrow
      obtain ⟨last, hlast, hrest⟩ := ih (by simpa using hsplit) hnow
      exact ⟨last, hlast, (Run.bind_ok hask).trans hrest⟩

theorem setVersion_run (schema : Schema) (hversion : schema.userVersion = source.userVersion)
    {trace : Trace State} (hholds : Holds source source.replayed (view trace.engine)) :
    ∃ next, view next.engine = { view trace.engine with userVersion := source.userVersion } ∧
      setVersion engine path schema trace = (.ok (), next) := by
  obtain ⟨hok, hview⟩ := h.setsVersion trace.engine hholds
  rw [← hversion] at hok hview ⊢
  obtain ⟨next, hnext, hask⟩ := Run.ask_ok hok
    (.execute (userVersionStatement schema.userVersion)) (Rejection.blame .engineRefused)
  refine ⟨_, ?_, Run.bind_ok hask⟩
  exact (congrArg view hnext).trans hview

theorem replayDatabase_run (trace : Trace State)
    (hholds : Holds source [] (view trace.engine)) :
    ∃ next, replayDatabase engine folder path trace =
        (outcome (source.rows.findSome? source.description.fault?) (), next) ∧
      (source.rows.findSome? source.description.fault? = none →
        Holds source source.replayed (view next.engine) ∧
          (view next.engine).userVersion = source.userVersion) := by
  obtain ⟨version, read, hread, hsource⟩ := readDatabase_run h trace
  rw [replayDatabase_eq]
  cases hfault : source.rows.findSome? source.description.fault? with
  | some fault =>
      rw [hfault] at hsource
      exact ⟨read, Run.bind_error hsource, nofun⟩
  | none =>
      rw [hfault] at hsource
      have hstart : Holds source [] (view read.engine) := hread ▸ hholds
      obtain ⟨replayed, hreplayed, hstatements⟩ := replayStatements_run h path.toString
        (List.nil_append _).symm hstart
      rw [← storedStatements_schema source version source.userVersion] at hstatements
      obtain ⟨next, hnext, hversion⟩ := setVersion_run h
        (source.description.schema source.rows version source.userVersion) rfl hreplayed
      refine ⟨next, ?_, fun _ => ?_⟩
      · rw [Run.bind_ok hsource, Run.bind_ok hstatements, hversion]
        rfl
      · rw [hnext]
        exact ⟨⟨hreplayed.rows, hreplayed.described⟩, rfl⟩

theorem fetchHeld_run (hreadable : source.rows.findSome? source.description.fault? = none)
    {trace : Trace State} (hholds : Holds source source.replayed (view trace.engine)) :
    ∃ version next, fetchSchema engine .scratch scratchSource trace =
      (.ok (source.description.schema (view trace.engine).rows version
        (view trace.engine).userVersion), next) := by
  have hdescribes : ∀ row ∈ (view trace.engine).rows,
      engine.Describes .scratch (view · = view trace.engine) source.description row := by
    refine fun row hrow => .of_described fun hdescribed => ?_
    obtain ⟨origin, horigin, hrole, hname, hmem⟩ := hholds.origin hrow hdescribed
    exact (h.heldDescribes _ origin horigin hmem).congr hrole hname
  have hnone : (view trace.engine).rows.findSome? source.description.fault? = none := by
    refine List.findSome?_eq_none_iff.mpr fun row hrow => ?_
    by_cases hdescribed : row.Described
    case neg => rw [Description.fault?, if_neg hdescribed]
    case pos =>
      obtain ⟨origin, horigin, hrole, hname, -⟩ := hholds.origin hrow hdescribed
      have hfault := List.findSome?_eq_none_iff.mp hreadable origin horigin
      rwa [source.description.fault?_congr hrole hname] at hfault
  obtain ⟨version, next, -, hfetch⟩ := fetchSchema_run scratchSource
    (h.held (view trace.engine)) hdescribes rfl
  rw [hnone] at hfetch
  exact ⟨version, next, hfetch⟩

theorem replayAll_run {fault : Option ConversionFault}
    (hfault : source.rows.findSome? source.description.fault? = fault) (trace : Trace State) :
    ∃ version contents, (fault = none → Holds source source.replayed contents) ∧
      (replayAll engine folder [(path, .database)] trace).1 =
        outcome fault (source.description.schema contents.rows version source.userVersion) := by
  obtain ⟨hfresh, hempty⟩ := h.fresh trace.engine
  obtain ⟨opened, hopened, hreplay⟩ := withConnection_ok scratchSource (do
    replayDatabase engine folder path
    fetchSchema engine .scratch scratchSource) hfresh
  obtain ⟨replayed, hrun, hholds⟩ := replayDatabase_run h opened (by
    rw [hopened, hempty]
    exact .empty source)
  rw [hfault] at hrun hholds
  rw [replayAll_single, hreplay]
  cases fault with
  | some fault =>
      rw [Run.bind_error hrun]
      exact ⟨0, .empty, nofun, rfl⟩
  | none =>
      obtain ⟨hholds, hversion⟩ := hholds rfl
      obtain ⟨version, next, hfetch⟩ := fetchHeld_run h hfault hholds
      rw [Run.bind_ok hrun, hfetch, hversion]
      exact ⟨version, view replayed.engine, fun _ => hholds, rfl⟩

end

/-- A single database is read as replaying it would give it: with the same schema up to what depends
on storage, or with the failure of a column that cannot be read. -/
theorem acquireKinds_matches_replay
    (h : Replays engine (.file (folder.resolvedName path)) view source)
    (horderly : source.Orderly) (direct replaying : Trace State) :
    (source.Readable → ∃ schema replayed,
      (acquireKinds engine folder [(path, .database)] direct).1 = .ok schema ∧
      (replayAll engine folder [(path, .database)] replaying).1 = .ok replayed ∧
      schema.canonical.Matches replayed.canonical) ∧
    (¬source.Readable → ∃ fault,
      (acquireKinds engine folder [(path, .database)] direct).1 = .error (.conversion fault) ∧
      (replayAll engine folder [(path, .database)] replaying).1 = .error (.conversion fault)) := by
  rw [Source.readable_iff]
  generalize hfault : source.rows.findSome? source.description.fault? = fault
  obtain ⟨version, last, -, hdirect⟩ := readDatabase_run h direct
  obtain ⟨current, contents, hholds, hreplay⟩ := replayAll_run h hfault replaying
  have hacquire : (acquireKinds engine folder [(path, .database)] direct).1 =
      outcome fault (source.description.schema source.rows version source.userVersion) :=
    hfault ▸ congrArg Prod.fst hdirect
  rw [hacquire, hreplay]
  cases fault with
  | some fault => exact ⟨nofun, fun _ => ⟨fault, rfl, rfl⟩⟩
  | none =>
      refine ⟨fun _ => ⟨_, _, rfl, rfl, ?_⟩, fun hnot => absurd rfl hnot⟩
      have hheld : (source.description.schema contents.rows current source.userVersion).canonical =
          (source.description.schema (source.replayed.flatMap source.recreated) version
            source.userVersion).canonical := by
        rw [← Description.schema_filter_isSome, Description.canonical_schema, (hholds rfl).rows,
          ← Description.canonical_schema]
      rw [hheld]
      exact (horderly.schema_recreated version).canonical

end

def peopleSource : Source where
  rows :=
    [⟨"table", "people", "people", some 2, some "CREATE TABLE people (name TEXT UNIQUE, boss TEXT)"⟩,
     ⟨"index", "sqlite_autoindex_people_1", "people", some 3, none⟩,
     ⟨"index", "people_boss", "people", some 4, some "CREATE INDEX people_boss ON people (boss)"⟩,
     ⟨"view", "bosses", "bosses", some 0, some "CREATE VIEW bosses AS SELECT boss FROM people"⟩,
     ⟨"table", "teams", "teams", some 5, some "CREATE TABLE teams (code TEXT UNIQUE)"⟩,
     ⟨"index", "sqlite_autoindex_teams_1", "teams", some 6, none⟩,
     ⟨"trigger", "no_teams", "teams", some 0,
       some "CREATE TRIGGER no_teams AFTER INSERT ON teams BEGIN DELETE FROM teams; END"⟩,
     ⟨"index", "people_name", "people", some 7,
       some "CREATE INDEX people_name ON people (name DESC)"⟩]
  userVersion := 7
  description :=
    { columns := fun name =>
        if name = "people" then
          [⟨0, "name", some "TEXT", 0, none, 0⟩, ⟨1, "boss", some "TEXT", 0, none, 0⟩]
        else if name = "teams" then [⟨0, "code", some "TEXT", 0, none, 0⟩]
        else if name = "bosses" then [⟨0, "boss", some "TEXT", 0, none, 0⟩]
        else []
      keys := fun _ => [] }

theorem peopleSource_orderly : peopleSource.Orderly where
  stored := by decide
  names := by decide
  owned := by decide
  automaticFirst := by decide

theorem peopleSource_readable : peopleSource.Readable := by
  rw [Source.readable_iff]
  decide

theorem peopleSource_replays (name : String) :
    Replays (sourceEngine peopleSource) (.file name) id peopleSource :=
  sourceEngine_replays name (by decide) (by decide)

theorem peopleSource_matches_replay :
    let path := Path.ofString "people.db"
    Replays (sourceEngine peopleSource) (.file (Folder.resolvedName ⟨[]⟩ path)) id peopleSource ∧
      peopleSource.Orderly ∧ peopleSource.Readable ∧ ∃ schema replayed,
        (acquireKinds (sourceEngine peopleSource) ⟨[]⟩ [(path, .database)] (.start .empty)).1 =
          .ok schema ∧
        (replayAll (sourceEngine peopleSource) ⟨[]⟩ [(path, .database)] (.start .empty)).1 =
          .ok replayed ∧
        schema.canonical.Matches replayed.canonical :=
  ⟨peopleSource_replays _, peopleSource_orderly, peopleSource_readable,
    (acquireKinds_matches_replay (peopleSource_replays _) peopleSource_orderly _ _).1
      peopleSource_readable⟩

end RecordLoom.Inputs
