import RecordLoom.Proofs.Catalog.Fetching

/-!
# The objects of a fetched schema

Whatever a database answers about columns and keys, a schema that is fetched from it lists the
objects of its catalog: tables and views in the order of the catalog, indices and triggers table by
table, in the order in which the tables come up.
-/

namespace RecordLoom.Catalog

/-! ## The order of objects -/

def byTable (rows : List CatalogRow) : List CatalogRow :=
  (rows.map (·.table)).eraseDups.flatMap fun table => rows.filter (·.table == table)

/-- The objects of a catalog: all tables, all views, all indices and all triggers. -/
def creationOrder (rows : List CatalogRow) : List CatalogRow :=
  ofRole .table rows ++ (ofRole .view rows ++
    (byTable (ofRole .index rows) ++ byTable (ofRole .trigger rows)))

theorem byTable_perm (rows : List CatalogRow) : (byTable rows).Perm rows := by
  rw [byTable, ← Groups.values_ofList]
  exact Groups.values_ofList_perm (·.table) rows

theorem filter_isSome_perm (rows : List CatalogRow) :
    (ofRole .table rows ++ (ofRole .view rows ++ (ofRole .index rows ++ ofRole .trigger rows))).Perm
      (rows.filter (·.role?.isSome)) := by
  induction rows with
  | nil => exact .nil
  | cons row rest ih =>
      have hcons := ih.cons row
      simp only [ofRole_cons, List.filter_cons]
      rcases row.role? with _ | _ | _ | _ | _
      · exact ih
      · exact hcons
      · exact List.perm_middle.trans hcons
      · refine List.Perm.trans ?_ hcons
        exact (List.perm_middle.append_left _).trans List.perm_middle
      · refine List.Perm.trans ?_ hcons
        exact ((List.perm_middle.append_left _).trans List.perm_middle |>.append_left _).trans
          List.perm_middle

theorem creationOrder_perm (rows : List CatalogRow) :
    (creationOrder rows).Perm (rows.filter (·.role?.isSome)) :=
  (((byTable_perm _).append (byTable_perm _)).append_left _ |>.append_left _).trans
    (filter_isSome_perm rows)

/-! ## Fetching -/

/-- A schema that lists the objects of a catalog, whatever it says of columns and keys. -/
structure Schema.Lists (schema : Schema) (rows : List CatalogRow) : Prop where
  tables : schema.tables.map (fun t => (t.name, t.sql)) =
    (ofRole .table rows).map fun row => (row.name, row.text)
  views : schema.views.map (fun v => (v.name, v.sql)) =
    (ofRole .view rows).map fun row => (row.name, row.text)
  indices : schema.indices = Groups.ofList (·.table) CatalogRow.toIndex (ofRole .index rows)
  triggers : schema.triggers = Groups.ofList (·.table) CatalogRow.toTrigger (ofRole .trigger rows)

section

variable {State : Type} {engine : Engine State} {place : Place} {source : String}

theorem Run.exists_of_bind_ok {α β : Type} {x : Run State α} {f : α → Run State β}
    {trace last : Trace State} {b : β} (h : (x >>= f) trace = (.ok b, last)) :
    ∃ a next, x trace = (.ok a, next) ∧ f a next = (.ok b, last) := by
  rcases hx : x trace with ⟨e | a, next⟩
  · rw [Run.bind_error hx] at h
    cases h
  · rw [Run.bind_ok hx] at h
    exact ⟨a, next, rfl, h⟩

theorem Run.of_ask_ok {α : Type} {call : Call} {reply : Reply State α}
    {blame : EngineError → Failure} {trace next : Trace State} {a : α}
    (h : Run.ask call reply blame trace = (.ok a, next)) :
    reply trace.engine = (.ok a, next.engine) := by
  unfold Run.ask at h
  rcases hreply : reply trace.engine with ⟨e | answer, state⟩
  · rw [hreply] at h
    cases h
  · rw [hreply] at h
    cases h
    rfl

theorem fetchColumns_asked {name : String} {columns : List Column} {trace last : Trace State}
    (h : fetchColumns engine place source name trace = (.ok columns, last)) :
    ∃ rows, Run.ask (.queryTableInfo place name) (engine.tableInfo place name)
        (.fetchFailed source · (some name)) trace = (.ok rows, last) ∧
      rows.mapM ColumnRow.toColumn = .ok columns := by
  obtain ⟨rows, middle, hask, hread⟩ := Run.exists_of_bind_ok h
  cases hcolumns : rows.mapM ColumnRow.toColumn with
  | error fault =>
      rw [hcolumns] at hread
      cases hread
  | ok read =>
      rw [hcolumns] at hread
      cases hread
      exact ⟨rows, hask, hcolumns⟩

theorem fetchForeignKeys_asked {name : String} {keys : List ForeignKey} {trace last : Trace State}
    (h : fetchForeignKeys engine place source name trace = (.ok keys, last)) :
    ∃ rows, Run.ask (.queryForeignKeys place name) (engine.foreignKeyList place name)
        (.fetchFailed source · (some name)) trace = (.ok rows, last) ∧
      keys = rows.map ForeignKeyRow.toForeignKey := by
  obtain ⟨rows, middle, hask, hread⟩ := Run.exists_of_bind_ok h
  cases hread
  exact ⟨rows, hask, rfl⟩

inductive CatalogRow.Enters (row : CatalogRow) (engine : Engine State) (place : Place)
    (source : String) (schema : Schema) (first last : Trace State) : Schema → Prop
  | table {columns : List Column} {keys : List ForeignKey} {middle : Trace State}
      (role : row.role? = some .table)
      (columnsRead : fetchColumns engine place source row.name first = (.ok columns, middle))
      (keysRead : fetchForeignKeys engine place source row.name middle = (.ok keys, last)) :
      row.Enters engine place source schema first last
        { schema with tables := schema.tables ++ [⟨row.name, row.text, columns, keys⟩] }
  | view {columns : List Column} (role : row.role? = some .view)
      (columnsRead : fetchColumns engine place source row.name first = (.ok columns, last)) :
      row.Enters engine place source schema first last
        { schema with views := schema.views ++ [⟨row.name, row.text, columns⟩] }
  | index (role : row.role? = some .index) :
      row.Enters engine place source schema first last
        { schema with indices := schema.indices.add row.table row.toIndex }
  | trigger (role : row.role? = some .trigger) :
      row.Enters engine place source schema first last
        { schema with triggers := schema.triggers.add row.table row.toTrigger }
  | skipped (role : row.role? = none) : row.Enters engine place source schema first last schema

theorem fetchRow_enters {schema next : Schema} {row : CatalogRow} {first last : Trace State}
    (h : fetchRow engine place source schema row first = (.ok next, last)) :
    row.Enters engine place source schema first last next := by
  by_cases hdescribed : row.Described
  case pos =>
    rcases hdescribed with hrole | hrole
    · rw [fetchRow_table source hrole] at h
      obtain ⟨columns, middle, hcolumns, h⟩ := Run.exists_of_bind_ok h
      obtain ⟨keys, read, hkeys, h⟩ := Run.exists_of_bind_ok h
      cases h
      exact .table hrole hcolumns hkeys
    · rw [fetchRow_view source hrole] at h
      obtain ⟨columns, read, hcolumns, h⟩ := Run.exists_of_bind_ok h
      cases h
      exact .view hrole hcolumns
  case neg =>
    -- Rows that are not described are read without an answer, so that any description will do.
    let d : Description := ⟨fun _ => [], fun _ => []⟩
    obtain ⟨read, -, -, hfetch⟩ := fetchRow_rest source (d := d) hdescribed schema first
    rw [hfetch] at h
    cases h
    rw [d.extend_singleton]
    rcases hrole : row.role? with _ | _ | _ | _ | _
    · exact .skipped hrole
    · exact absurd (.inl hrole) hdescribed
    · exact absurd (.inr hrole) hdescribed
    · exact .index hrole
    · exact .trigger hrole

theorem fetchRow_lists {schema next : Schema} {rows : List CatalogRow} (hlists : schema.Lists rows)
    {row : CatalogRow} {trace last : Trace State}
    (h : fetchRow engine place source schema row trace = (.ok next, last)) :
    next.Lists (rows ++ [row]) ∧ next.userVersion = schema.userVersion := by
  obtain ⟨htables, hviews, hindices, htriggers⟩ := hlists
  have hadded : ∀ role, ofRole role (rows ++ [row]) =
      ofRole role rows ++ if row.role? = some role then [row] else [] := fun role => by
    rw [ofRole_append, ofRole_cons, ofRole_nil]
  cases fetchRow_enters h with
  | table hrole | view hrole | index hrole | trigger hrole | skipped hrole =>
      refine ⟨⟨?_, ?_, ?_, ?_⟩, rfl⟩ <;>
        simp [hadded, hrole, htables, hviews, hindices, htriggers, Groups.ofList_append_singleton]

theorem fetchRows_lists {rows more : List CatalogRow} {schema next : Schema}
    (hlists : schema.Lists rows) {trace last : Trace State}
    (h : more.foldlM (fetchRow engine place source) schema trace = (.ok next, last)) :
    next.Lists (rows ++ more) ∧ next.userVersion = schema.userVersion := by
  induction more generalizing rows schema trace with
  | nil =>
      cases h
      exact ⟨by rwa [List.append_nil], rfl⟩
  | cons row rest ih =>
      rw [List.foldlM_cons] at h
      obtain ⟨middle, read, hrow, h⟩ := Run.exists_of_bind_ok h
      obtain ⟨hmiddle, hversion⟩ := fetchRow_lists hlists hrow
      obtain ⟨hnext, hlast⟩ := ih hmiddle h
      rw [List.append_assoc] at hnext
      exact ⟨hnext, hlast.trans hversion⟩

/-- What a database answers first when its schema is fetched from a state on. -/
def Engine.Shows (engine : Engine State) (place : Place) (state : State) (rows : List CatalogRow)
    (userVersion : Option Int) : Prop :=
  ∃ listed version dated, engine.catalog place state = (.ok rows, listed) ∧
    engine.schemaVersion place listed = (.ok version, dated) ∧
    (engine.userVersion place dated).1 = .ok userVersion

/-- A fetched schema lists the catalog that the database shows. -/
theorem fetchSchema_lists {schema : Schema} {trace last : Trace State}
    (h : fetchSchema engine place source trace = (.ok schema, last)) :
    ∃ rows userVersion, engine.Shows place trace.engine rows userVersion ∧ schema.Lists rows ∧
      schema.userVersion = userVersion.getD 0 := by
  obtain ⟨rows, listed, hrows, h⟩ := Run.exists_of_bind_ok h
  obtain ⟨version, dated, hversion, h⟩ := Run.exists_of_bind_ok h
  obtain ⟨userVersion, started, huserVersion, h⟩ := Run.exists_of_bind_ok h
  obtain ⟨fetched, told, hfetched, h⟩ := Run.exists_of_bind_ok h
  obtain ⟨_, told, -, h⟩ := Run.exists_of_bind_ok h
  cases h
  have hshows : engine.Shows place trace.engine rows userVersion :=
    ⟨listed.engine, version, dated.engine, Run.of_ask_ok hrows, Run.of_ask_ok hversion,
      congrArg Prod.fst (Run.of_ask_ok huserVersion)⟩
  have hempty : ∀ s : Schema, s.tables = [] → s.views = [] → s.indices = [] → s.triggers = [] →
      s.Lists [] := fun s htables hviews hindices htriggers =>
    ⟨by rw [htables]; rfl, by rw [hviews]; rfl, hindices, htriggers⟩
  obtain ⟨hlists, huser⟩ := fetchRows_lists (hempty _ rfl rfl rfl rfl) hfetched
  exact ⟨rows, userVersion, hshows, hlists, huser⟩

end

end RecordLoom.Catalog
