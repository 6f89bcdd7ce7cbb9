import RecordLoom.Proofs.Catalog.Queries

/-!
# The account of a fetch

A fetch takes the rows of the catalog in turn.  Nothing is lost on the way, and nothing changes its
place: tables and views come in the order of their rows, each with what the engine says of it in its
turn, and indices and triggers come in this order under the table that they belong to.
-/

namespace RecordLoom.Catalog

/-! ## Groups that lose nothing -/

/-- Groups of items under their keys.  The keys come in the order in which items bring them up
first, and under each key its items come in their order. -/
structure Groups.Collects {α β : Type} (groups : Groups β) (key : α → String) (value : α → β)
    (items : List α) : Prop where
  keys : groups.map (·.1) = (items.map key).eraseDups
  group : ∀ k, groups.group k = (items.filter (key · == k)).map value
  nonempty : ∀ g ∈ groups, g.2 ≠ []

theorem Groups.collects_ofList {α β : Type} (key : α → String) (value : α → β) (items : List α) :
    (Groups.ofList key value items).Collects key value items where
  keys := keys_ofList key value items
  group := group_ofList key value items
  nonempty g hg := by
    have hkeys := keys_ofList key value items
    have hnodup : ((ofList key value items).map (·.1)).Nodup := by
      rw [hkeys, ← keys_ofList key id]
      exact (keyed_ofList key items).nodup
    have hkey : g.1 ∈ (items.map key).eraseDups := hkeys ▸ List.mem_map_of_mem hg
    obtain ⟨a, ha, hka⟩ := List.mem_map.mp (List.mem_eraseDups.mp hkey)
    rw [← group_of_mem hnodup hg, group_ofList, ← hka]
    exact List.ne_nil_of_mem (List.mem_map_of_mem (List.mem_filter.mpr ⟨ha, beq_self_eq_true _⟩))

/-! ## Rows in their turn -/

variable {State : Type}

/-- A row of the catalog with the state in which its turn finds the engine. -/
structure Visit (State : Type) where
  state : State
  row : CatalogRow

/-- The turns of rows, one after another. -/
def Engine.visits (engine : Engine State) (place : Place) :
    State → List CatalogRow → List (Visit State)
  | _, [] => []
  | state, row :: rest =>
      ⟨state, row⟩ :: engine.visits place (engine.after state (row.queries place)) rest

def visitsOf (role : Role) (visits : List (Visit State)) : List (Visit State) :=
  visits.filter (·.row.role? == some role)

theorem visitsOf_append (role : Role) (visits more : List (Visit State)) :
    visitsOf role (visits ++ more) = visitsOf role visits ++ visitsOf role more :=
  List.filter_append ..

/-- A table with what the engine says of it in its turn. -/
structure Table.ReadIn (t : Table) (engine : Engine State) (place : Place) (visit : Visit State) :
    Prop where
  name : t.name = visit.row.name
  sql : t.sql = visit.row.text
  columns : ∃ rows, (engine.tableInfo place visit.row.name visit.state).1 = .ok rows ∧
    rows.mapM ColumnRow.toColumn = .ok t.columns
  foreignKeys : ∃ keys, (engine.foreignKeyList place visit.row.name
      (engine.tableInfo place visit.row.name visit.state).2).1 = .ok keys ∧
    t.foreignKeys = keys.map ForeignKeyRow.toForeignKey

/-- A view with what the engine says of it in its turn. -/
structure View.ReadIn (v : View) (engine : Engine State) (place : Place) (visit : Visit State) :
    Prop where
  name : v.name = visit.row.name
  sql : v.sql = visit.row.text
  columns : ∃ rows, (engine.tableInfo place visit.row.name visit.state).1 = .ok rows ∧
    rows.mapM ColumnRow.toColumn = .ok v.columns

/-- A schema goes on from another one by the tables and views of rows in their turns. -/
structure Schema.Gains (before after : Schema) (engine : Engine State) (place : Place)
    (visits : List (Visit State)) : Prop where
  version : after.version = before.version
  userVersion : after.userVersion = before.userVersion
  tables : ∃ tables, after.tables = before.tables ++ tables ∧
    List.Forall₂ (·.ReadIn engine place ·) tables (visitsOf .table visits)
  views : ∃ views, after.views = before.views ++ views ∧
    List.Forall₂ (·.ReadIn engine place ·) views (visitsOf .view visits)

section

variable {engine : Engine State} {place : Place} {source : String} {first last : Trace State}

theorem Schema.Gains.nil (schema : Schema) : schema.Gains schema engine place [] where
  version := rfl
  userVersion := rfl
  tables := ⟨[], (List.append_nil _).symm, .nil⟩
  views := ⟨[], (List.append_nil _).symm, .nil⟩

theorem Schema.Gains.append {before middle after : Schema} {visits more : List (Visit State)}
    (h : before.Gains middle engine place visits) (hmore : middle.Gains after engine place more) :
    before.Gains after engine place (visits ++ more) := by
  obtain ⟨tables, htables, hread⟩ := h.tables
  obtain ⟨views, hviews, hviewed⟩ := h.views
  obtain ⟨moreTables, hmoreTables, hreadMore⟩ := hmore.tables
  obtain ⟨moreViews, hmoreViews, hviewedMore⟩ := hmore.views
  refine ⟨hmore.version.trans h.version, hmore.userVersion.trans h.userVersion,
    ⟨tables ++ moreTables, ?_, ?_⟩, ⟨views ++ moreViews, ?_, ?_⟩⟩
  · rw [hmoreTables, htables, List.append_assoc]
  · rw [visitsOf_append]
    exact List.rel_append hread hreadMore
  · rw [hmoreViews, hviews, List.append_assoc]
  · rw [visitsOf_append]
    exact List.rel_append hviewed hviewedMore

theorem fetchRow_gains {before after : Schema} {row : CatalogRow}
    (h : fetchRow engine place source before row first = (.ok after, last)) :
    before.Gains after engine place [⟨first.engine, row⟩] := by
  have hvisits : ∀ role, visitsOf role [(⟨first.engine, row⟩ : Visit State)] =
      if row.role? = some role then [⟨first.engine, row⟩] else [] := fun role => by
    simp [visitsOf, List.filter_cons]
  cases fetchRow_enters h with
  | table hrole hcolumns hkeys =>
      obtain ⟨rows, hrows, hread⟩ := fetchColumns_asked hcolumns
      obtain ⟨answers, hanswers, hconverted⟩ := fetchForeignKeys_asked hkeys
      have hinfo := Run.of_ask_ok hrows
      refine ⟨rfl, rfl, ⟨_, rfl, ?_⟩, ⟨[], (List.append_nil _).symm, ?_⟩⟩
      · rw [hvisits, if_pos hrole]
        refine .cons ⟨rfl, rfl, ⟨rows, by rw [hinfo], hread⟩, ⟨answers, ?_, hconverted⟩⟩ .nil
        rw [hinfo, Run.of_ask_ok hanswers]
      · rw [hvisits, if_neg (by simp [hrole])]
        exact .nil
  | view hrole hcolumns =>
      obtain ⟨rows, hrows, hread⟩ := fetchColumns_asked hcolumns
      refine ⟨rfl, rfl, ⟨[], (List.append_nil _).symm, ?_⟩, ⟨_, rfl, ?_⟩⟩
      · rw [hvisits, if_neg (by simp [hrole])]
        exact .nil
      · rw [hvisits, if_pos hrole]
        exact .cons ⟨rfl, rfl, ⟨rows, by rw [Run.of_ask_ok hrows], hread⟩⟩ .nil
  | index hrole | trigger hrole | skipped hrole =>
      refine ⟨rfl, rfl, ⟨[], (List.append_nil _).symm, ?_⟩, ⟨[], (List.append_nil _).symm, ?_⟩⟩ <;>
        · rw [hvisits, if_neg (by simp [hrole])]
          exact .nil

theorem fetchRows_gains {rows : List CatalogRow} {before after : Schema}
    (h : rows.foldlM (fetchRow engine place source) before first = (.ok after, last)) :
    before.Gains after engine place (engine.visits place first.engine rows) := by
  induction rows generalizing before first with
  | nil =>
      cases h
      exact .nil _
  | cons row rest ih =>
      rw [List.foldlM_cons] at h
      obtain ⟨schema, middle, hrow, hrest⟩ := Run.exists_of_bind_ok h
      have hgains := ih hrest
      obtain ⟨-, -, hengine⟩ :=
        (fetchRow_follows engine place source first before row).passed_of_ok hrow
      rw [hengine] at hgains
      exact (fetchRow_gains hrow).append hgains

end

/-! ## Fetching a schema -/

/-- A schema that holds what the engine says, from a state on, in answer to the queries of a
fetch. -/
structure Schema.Holds (schema : Schema) (engine : Engine State) (place : Place) (state : State) :
    Prop where
  version : ∃ version, (engine.schemaVersion place (engine.after state [.queryCatalog place])).1 =
    .ok version ∧ schema.version = version.getD 0
  userVersion : ∃ version, (engine.userVersion place
      (engine.after state [.queryCatalog place, .querySchemaVersion place])).1 = .ok version ∧
    schema.userVersion = version.getD 0
  listed : schema.Lists (engine.rows place state)
  tables : List.Forall₂ (·.ReadIn engine place ·) schema.tables (visitsOf .table
    (engine.visits place (engine.after state (opening place)) (engine.rows place state)))
  views : List.Forall₂ (·.ReadIn engine place ·) schema.views (visitsOf .view
    (engine.visits place (engine.after state (opening place)) (engine.rows place state)))
  indices : schema.indices.Collects (·.table) CatalogRow.toIndex
    (ofRole .index (engine.rows place state))
  triggers : schema.triggers.Collects (·.table) CatalogRow.toTrigger
    (ofRole .trigger (engine.rows place state))

section

variable (engine : Engine State) (place : Place) (source : String) (first : Trace State)

theorem fetchSchema_listed {schema : Schema} {last : Trace State}
    (h : fetchSchema engine place source first = (.ok schema, last)) :
    schema.Lists (engine.rows place first.engine) := by
  obtain ⟨rows, _, ⟨_, _, _, hcatalog, _⟩, hlists, _⟩ := fetchSchema_lists h
  rwa [Engine.rows, hcatalog]

theorem fetchSchema_holds {schema : Schema} {last : Trace State}
    (h : fetchSchema engine place source first = (.ok schema, last)) :
    schema.Holds engine place first.engine := by
  have hlisted := fetchSchema_listed engine place source first h
  obtain ⟨rows, listed, hcatalog, h⟩ := Run.exists_of_bind_ok h
  obtain ⟨version, dated, hversion, h⟩ := Run.exists_of_bind_ok h
  obtain ⟨userVersion, ready, huserVersion, h⟩ := Run.exists_of_bind_ok h
  obtain ⟨fetched, told, hfetched, h⟩ := Run.exists_of_bind_ok h
  obtain ⟨_, told, -, h⟩ := Run.exists_of_bind_ok h
  cases h
  have hcatalog := Run.of_ask_ok hcatalog
  have hversion := Run.of_ask_ok hversion
  have huserVersion := Run.of_ask_ok huserVersion
  have hrows : engine.rows place first.engine = rows := by rw [Engine.rows, hcatalog]
  have hlist : engine.after first.engine [.queryCatalog place] = listed.engine :=
    congrArg Prod.snd hcatalog
  have hdate : engine.after first.engine [.queryCatalog place, .querySchemaVersion place] =
      dated.engine := by
    change (engine.schemaVersion place (engine.after first.engine [.queryCatalog place])).2 = _
    rw [hlist, hversion]
  have hready : engine.after first.engine (opening place) = ready.engine := by
    change (engine.userVersion place (engine.after first.engine
      [.queryCatalog place, .querySchemaVersion place])).2 = _
    rw [hdate, huserVersion]
  have hgains := fetchRows_gains hfetched
  obtain ⟨tables, htables, hread⟩ := hgains.tables
  obtain ⟨views, hviews, hviewed⟩ := hgains.views
  rw [← hrows, ← hready] at hread hviewed
  refine ⟨⟨version, ?_, ?_⟩, ⟨userVersion, ?_, ?_⟩, hlisted, ?_, ?_, ?_, ?_⟩
  · rw [hlist, hversion]
  · exact hgains.version
  · rw [hdate, huserVersion]
  · exact hgains.userVersion
  · rwa [htables]
  · rwa [hviews]
  · rw [hlisted.indices]
    exact Groups.collects_ofList ..
  · rw [hlisted.triggers]
    exact Groups.collects_ofList ..

/-- Fetching a schema loses nothing and keeps the order of the catalog, if all of its queries pass.
Otherwise the first query that is refused, or answered with a column that cannot be read, is the
last one that is made.  A refusal is reported with the object of its query; a column that cannot be
read is not reported for what it is. -/
theorem fetchSchema_account :
    (engine.Passes first.engine (engine.queries place first.engine) →
      ∃ schema last, fetchSchema engine place source first = (.ok schema, last) ∧
        last.calls = first.calls ++ engine.queries place first.engine ∧
        schema.Holds engine place first.engine) ∧
    ∀ before call after, engine.queries place first.engine = before ++ call :: after →
      engine.Passes first.engine before →
      (∀ e, engine.refusal? (engine.after first.engine before) call = some e →
        ∃ last, fetchSchema engine place source first =
            (.error (.fetchFailed source e call.object?), last) ∧
          last.calls = first.calls ++ (before ++ [call])) ∧
      ∀ fault, engine.fault? (engine.after first.engine before) call = some fault →
        ∃ last, fetchSchema engine place source first = (.error (.conversion fault), last) ∧
          last.calls = first.calls ++ (before ++ [call]) := by
  have hfollows := fetchSchema_follows engine place source first
  refine ⟨fun hpasses => ?_, fun before call after hqueries hbefore => ?_⟩
  · obtain ⟨schema, last, hfetch, hcalls, -⟩ :=
      hfollows.passed (Engine.halt?_eq_none_iff.mpr hpasses)
    exact ⟨schema, last, hfetch, hcalls, fetchSchema_holds engine place source first hfetch⟩
  · have hhalted : ∀ f, engine.stop? source (engine.after first.engine before) call = some f →
        ∃ last, fetchSchema engine place source first = (.error f, last) ∧
          last.calls = first.calls ++ (before ++ [call]) := by
      intro f hf
      refine hfollows.halted _ f ?_
      rw [hqueries]
      exact Engine.halt?_split hbefore hf
    exact ⟨fun e he => hhalted _ (Engine.stop?_of_refusal he),
      fun fault hfault => hhalted _ (Engine.stop?_of_fault hfault)⟩

end

def upTo {α : Type} (limit : Nat) (a : α) : Reply Nat α := fun made =>
  (if made < limit then .ok a else .error ⟨"database is locked", some "SQLITE_BUSY"⟩, made + 1)

def sharedEngine (limit : Nat) : Engine Nat where
  connect _ := upTo limit ()
  catalog _ := upTo limit
    [⟨"table", "people", "people", some 2, some "CREATE TABLE people (name TEXT UNIQUE)"⟩,
     ⟨"index", "sqlite_autoindex_people_1", "people", some 3, none⟩]
  schemaVersion _ := upTo limit (some 1)
  userVersion _ := upTo limit none
  tableInfo _ _ := upTo limit [⟨0, "name", some "TEXT", 0, none, 0⟩]
  foreignKeyList _ _ := upTo limit []
  execute _ := fun made => (.ok (), made)
  script _ := fun made => (.ok (), made)

/-- The table needs five queries, of which the last one is about its foreign keys. -/
theorem sharedEngine_account :
    (∃ schema last, fetchSchema (sharedEngine 5) .scratch "people.db" (.start 0) =
        (.ok schema, last) ∧
      last.calls = [] ++ (sharedEngine 5).queries .scratch 0 ∧
      schema.Holds (sharedEngine 5) .scratch 0) ∧
    ∃ last, fetchSchema (sharedEngine 4) .scratch "people.db" (.start 0) =
        (.error (.fetchFailed "people.db" ⟨"database is locked", some "SQLITE_BUSY"⟩
          (some "people")), last) ∧
      last.calls = [] ++ ([.queryCatalog .scratch, .querySchemaVersion .scratch,
        .queryUserVersion .scratch, .queryTableInfo .scratch "people"] ++
        [.queryForeignKeys .scratch "people"]) := by
  constructor
  · have hpasses : (sharedEngine 5).halt? "people.db" 0 ((sharedEngine 5).queries .scratch 0) =
        none := by decide
    exact (fetchSchema_account _ _ _ _).1 (Engine.halt?_eq_none_iff.mp hpasses)
  · have hpasses : (sharedEngine 4).halt? "people.db" 0 [.queryCatalog .scratch,
        .querySchemaVersion .scratch, .queryUserVersion .scratch,
        .queryTableInfo .scratch "people"] = none := by decide
    exact ((fetchSchema_account (sharedEngine 4) _ _ (.start 0)).2 _ _ [] rfl
      (Engine.halt?_eq_none_iff.mp hpasses)).1 _ rfl

end RecordLoom.Catalog
