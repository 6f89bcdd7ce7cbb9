import RecordLoom.Proofs.Catalog.Grouping
import RecordLoom.Proofs.Catalog.Runs

/-!
# What is fetched

As long as a database gives the same answers throughout, what is fetched from it is a function of
these answers: tables and views in the order of the catalog, indices and triggers grouped by the
table that they belong to, or else the fault of the first column that cannot be read.
-/

namespace RecordLoom.Catalog

/-! ## Rows of the catalog -/

/-- What a row says of the schema. -/
inductive Role where
  | table
  | view
  | index
  | trigger
  deriving DecidableEq, Repr

def Role.kind : Role → String
  | table => "table"
  | view => "view"
  | index => "index"
  | trigger => "trigger"

namespace CatalogRow

def role? (row : CatalogRow) : Option Role :=
  if row.kind = "table" then if isInternal row.name then none else some .table
  else if row.kind = "view" then some .view
  else if row.kind = "index" then some .index
  else if row.kind = "trigger" then some .trigger
  else none

theorem kind_of_role? {row : CatalogRow} {role : Role} (h : row.role? = some role) :
    row.kind = role.kind := by
  cases role <;> grind [role?, Role.kind]

def text (row : CatalogRow) : String := row.sql.getD ""

def toIndex (row : CatalogRow) : Index := ⟨row.name, row.table, row.rootPage.getD 0, row.text⟩

def toTrigger (row : CatalogRow) : Trigger := ⟨row.name, row.table, row.text⟩

def unrooted (row : CatalogRow) : CatalogRow := { row with rootPage := none }

def Described (row : CatalogRow) : Prop := row.role? = some .table ∨ row.role? = some .view

instance (row : CatalogRow) : Decidable row.Described := inferInstanceAs (Decidable (_ ∨ _))

end CatalogRow

def ofRole (role : Role) (rows : List CatalogRow) : List CatalogRow :=
  rows.filter (·.role? == some role)

theorem mem_ofRole {role : Role} {rows : List CatalogRow} {row : CatalogRow} :
    row ∈ ofRole role rows ↔ row ∈ rows ∧ row.role? = some role := by
  simp [ofRole]

@[simp] theorem ofRole_nil (role : Role) : ofRole role [] = [] := rfl

@[simp] theorem ofRole_append (role : Role) (rows more : List CatalogRow) :
    ofRole role (rows ++ more) = ofRole role rows ++ ofRole role more :=
  List.filter_append ..

theorem ofRole_cons (role : Role) (row : CatalogRow) (rows : List CatalogRow) :
    ofRole role (row :: rows) =
      if row.role? = some role then row :: ofRole role rows else ofRole role rows := by
  simp [ofRole, List.filter_cons]

def columnFault? (rows : List ColumnRow) : Option ConversionFault :=
  match rows.mapM ColumnRow.toColumn with
  | .ok _ => none
  | .error fault => some fault

def readColumns (rows : List ColumnRow) : List Column :=
  match rows.mapM ColumnRow.toColumn with
  | .ok columns => columns
  | .error _ => []

theorem columnFault?_isSome_iff {rows : List ColumnRow} :
    (columnFault? rows).isSome ↔ ∃ row ∈ rows, row.Unreadable := by
  rw [← mapM_toColumn_error_iff, columnFault?]
  split <;> simp_all

/-- What a database says of its tables and views. -/
structure Description where
  columns : String → List ColumnRow
  keys : String → List ForeignKeyRow

namespace Description

variable (d : Description)

def fault? (row : CatalogRow) : Option ConversionFault :=
  if row.Described then columnFault? (d.columns row.name) else none

theorem fault?_isSome_iff {row : CatalogRow} :
    (d.fault? row).isSome ↔ row.Described ∧ ∃ column ∈ d.columns row.name, column.Unreadable := by
  rw [fault?, ← columnFault?_isSome_iff]
  split <;> simp_all

theorem fault?_congr {row other : CatalogRow} (hrole : row.role? = other.role?)
    (hname : row.name = other.name) : d.fault? row = d.fault? other := by
  have hdescribed : row.Described ↔ other.Described := by
    rw [CatalogRow.Described, CatalogRow.Described, hrole]
  rw [fault?, fault?, hname]
  exact if_congr hdescribed rfl rfl

def table (row : CatalogRow) : Table :=
  ⟨row.name, row.text, readColumns (d.columns row.name),
    (d.keys row.name).map ForeignKeyRow.toForeignKey⟩

def view (row : CatalogRow) : View := ⟨row.name, row.text, readColumns (d.columns row.name)⟩

def extend (schema : Schema) (rows : List CatalogRow) : Schema :=
  { schema with
    tables := schema.tables ++ (ofRole .table rows).map d.table
    views := schema.views ++ (ofRole .view rows).map d.view
    indices := (ofRole .index rows).foldl (fun groups row => groups.add row.table row.toIndex)
      schema.indices
    triggers := (ofRole .trigger rows).foldl
      (fun groups row => groups.add row.table row.toTrigger) schema.triggers }

theorem extend_nil (schema : Schema) : d.extend schema [] = schema := by
  simp [extend]

theorem extend_append (schema : Schema) (rows more : List CatalogRow) :
    d.extend (d.extend schema rows) more = d.extend schema (rows ++ more) := by
  simp [extend]

theorem extend_singleton (schema : Schema) (row : CatalogRow) :
    d.extend schema [row] =
      match row.role? with
      | some .table => { schema with tables := schema.tables ++ [d.table row] }
      | some .view => { schema with views := schema.views ++ [d.view row] }
      | some .index => { schema with indices := schema.indices.add row.table row.toIndex }
      | some .trigger => { schema with triggers := schema.triggers.add row.table row.toTrigger }
      | none => schema := by
  unfold extend
  split <;> simp_all [ofRole_cons]

def schema (rows : List CatalogRow) (version userVersion : Int) : Schema where
  version := version
  userVersion := userVersion
  tables := (ofRole .table rows).map d.table
  views := (ofRole .view rows).map d.view
  indices := Groups.ofList (·.table) CatalogRow.toIndex (ofRole .index rows)
  triggers := Groups.ofList (·.table) CatalogRow.toTrigger (ofRole .trigger rows)

theorem extend_empty (rows : List CatalogRow) (version userVersion : Int) :
    d.extend { Schema.empty with version, userVersion } rows =
      d.schema rows version userVersion := by
  simp [extend, schema, Schema.empty, Groups.ofList]

/-! ## Rows that describe the same schema -/

theorem ofRole_unrooted (role : Role) (rows : List CatalogRow) :
    ofRole role (rows.map CatalogRow.unrooted) = (ofRole role rows).map CatalogRow.unrooted :=
  List.filter_map ..

theorem canonical_schema (rows : List CatalogRow) (version userVersion : Int) :
    (d.schema rows version userVersion).canonical =
      d.schema (rows.map CatalogRow.unrooted) 0 userVersion := by
  have hindices := Groups.map_ofList (fun index : Index => { index with rootPage := 0 })
    (·.table) CatalogRow.toIndex (ofRole .index rows)
  simp only [Schema.canonical, schema, hindices, ofRole_unrooted, Groups.ofList_map, List.map_map]
  rfl

theorem schema_filter_isSome (rows : List CatalogRow) (version userVersion : Int) :
    d.schema (rows.filter (·.role?.isSome)) version userVersion =
      d.schema rows version userVersion := by
  have hrole : ∀ role, ofRole role (rows.filter (·.role?.isSome)) = ofRole role rows := by
    intro role
    rw [ofRole, List.filter_filter]
    refine List.filter_congr fun row _ => ?_
    cases row.role? <;> simp
  simp only [schema, hrole]

end Description

def outcome {α : Type} (fault : Option ConversionFault) (value : α) : Except Failure α :=
  fault.elim (.ok value) fun fault => .error (.conversion fault)

/-! ## Answers -/

variable {State : Type}

/-- A call is answered with `a` in every state of a kind, and leaves a state of this kind. -/
def Reply.Gives {α : Type} (reply : Reply State α) (P : State → Prop) (a : α) : Prop :=
  ∀ state, P state → (reply state).1 = .ok a ∧ P (reply state).2

theorem Run.ask_ok {ε α : Type} {reply : State → Except ε α × State} {trace : Trace State} {a : α}
    (h : (reply trace.engine).1 = .ok a) (call : Call) (blame : ε → Failure) :
    ∃ next, next.engine = (reply trace.engine).2 ∧
      Run.ask call reply blame trace = (.ok a, next) := by
  refine ⟨{ trace.record call with engine := (reply trace.engine).2 }, rfl, ?_⟩
  unfold Run.ask
  rw [← Prod.eta (reply trace.engine), h]
  rfl

theorem Reply.Gives.run {α : Type} {reply : Reply State α} {P : State → Prop} {a : α}
    (h : reply.Gives P a) (call : Call) (blame : EngineError → Failure) {trace : Trace State}
    (htrace : P trace.engine) :
    ∃ next, P next.engine ∧ Run.ask call reply blame trace = (.ok a, next) := by
  obtain ⟨hanswer, hkept⟩ := h trace.engine htrace
  obtain ⟨next, hnext, hask⟩ := Run.ask_ok hanswer call blame
  exact ⟨next, hnext ▸ hkept, hask⟩

/-- What a row names is described, if it is a table or a view. -/
structure Engine.Describes (engine : Engine State) (place : Place) (P : State → Prop)
    (d : Description) (row : CatalogRow) : Prop where
  columns : row.Described → Reply.Gives (engine.tableInfo place row.name) P (d.columns row.name)
  keys : row.role? = some .table →
    Reply.Gives (engine.foreignKeyList place row.name) P (d.keys row.name)

theorem Engine.Describes.of_described {engine : Engine State} {place : Place} {P : State → Prop}
    {d : Description} {row : CatalogRow} (h : row.Described → engine.Describes place P d row) :
    engine.Describes place P d row :=
  ⟨fun hdescribed => (h hdescribed).columns hdescribed, fun hrole => (h (.inl hrole)).keys hrole⟩

theorem Engine.Describes.congr {engine : Engine State} {place : Place} {P : State → Prop}
    {d : Description} {row other : CatalogRow} (h : engine.Describes place P d row)
    (hrole : row.role? = other.role?) (hname : row.name = other.name) :
    engine.Describes place P d other := by
  refine ⟨fun hdescribed => ?_, fun htable => ?_⟩
  · rw [← hname]
    refine h.columns ?_
    rwa [CatalogRow.Described, hrole]
  · rw [← hname]
    exact h.keys (hrole.trans htable)

/-- A database answers throughout with one catalog and one user version.  Its schema version may
change. -/
structure Engine.Answers (engine : Engine State) (place : Place) (P : State → Prop)
    (rows : List CatalogRow) (userVersion : Int) : Prop where
  catalog : Reply.Gives (engine.catalog place) P rows
  schemaVersion : ∀ state, P state → ∃ version,
    (engine.schemaVersion place state).1 = .ok version ∧ P (engine.schemaVersion place state).2
  userVersion : ∀ state, P state → ∃ version,
    (engine.userVersion place state).1 = .ok version ∧ version.getD 0 = userVersion ∧
      P (engine.userVersion place state).2

section

variable {engine : Engine State} {place : Place} {P : State → Prop} {d : Description}
  (source : String)

theorem fetchColumns_run {name : String} {rows : List ColumnRow}
    (h : Reply.Gives (engine.tableInfo place name) P rows) {trace : Trace State}
    (htrace : P trace.engine) :
    ∃ next, P next.engine ∧ fetchColumns engine place source name trace =
      (outcome (columnFault? rows) (readColumns rows), next) := by
  obtain ⟨next, hnext, hask⟩ := h.run (.queryTableInfo place name)
    (.fetchFailed source · (some name)) htrace
  refine ⟨next, hnext, ?_⟩
  unfold fetchColumns
  rw [Run.bind_ok hask]
  unfold columnFault? readColumns Run.ofConversion
  cases rows.mapM ColumnRow.toColumn <;> rfl

theorem fetchForeignKeys_run {name : String} {rows : List ForeignKeyRow}
    (h : Reply.Gives (engine.foreignKeyList place name) P rows) {trace : Trace State}
    (htrace : P trace.engine) :
    ∃ next, P next.engine ∧ fetchForeignKeys engine place source name trace =
      (.ok (rows.map ForeignKeyRow.toForeignKey), next) := by
  obtain ⟨next, hnext, hask⟩ := h.run (.queryForeignKeys place name)
    (.fetchFailed source · (some name)) htrace
  refine ⟨next, hnext, ?_⟩
  unfold fetchForeignKeys
  rw [Run.bind_ok hask]
  rfl

theorem fetchRow_table {row : CatalogRow} (hrole : row.role? = some .table) (schema : Schema) :
    fetchRow engine place source schema row = (do
      let columns ← fetchColumns engine place source row.name
      let keys ← fetchForeignKeys engine place source row.name
      pure { schema with tables := schema.tables ++ [⟨row.name, row.text, columns, keys⟩] }) := by
  obtain ⟨kind, name, owner, rootPage, sql⟩ := row
  have hkind : kind = "table" ∧ isInternal name = false := by grind [CatalogRow.role?]
  obtain ⟨rfl, hinternal⟩ := hkind
  simp only [fetchRow, hinternal, Bool.false_eq_true, if_false]
  rfl

theorem fetchRow_view {row : CatalogRow} (hrole : row.role? = some .view) (schema : Schema) :
    fetchRow engine place source schema row = (do
      let columns ← fetchColumns engine place source row.name
      pure { schema with views := schema.views ++ [⟨row.name, row.text, columns⟩] }) := by
  obtain ⟨kind, name, owner, rootPage, sql⟩ := row
  obtain rfl : kind = "view" := by grind [CatalogRow.role?]
  rfl

theorem fetchRow_rest {row : CatalogRow} (h : ¬row.Described) (schema : Schema)
    (trace : Trace State) :
    ∃ next, next.engine = trace.engine ∧ next.calls = trace.calls ∧
      fetchRow engine place source schema row trace = (.ok (d.extend schema [row]), next) := by
  rw [d.extend_singleton]
  obtain ⟨kind, name, owner, rootPage, sql⟩ := row
  by_cases hindex : kind = "index"
  · subst hindex
    exact ⟨trace, rfl, rfl, rfl⟩
  by_cases htrigger : kind = "trigger"
  · subst htrigger
    exact ⟨trace, rfl, rfl, rfl⟩
  by_cases htable : kind = "table"
  · subst htable
    have hinternal : isInternal name = true := by
      grind [CatalogRow.role?, CatalogRow.Described]
    refine ⟨trace, rfl, rfl, ?_⟩
    simp only [fetchRow, CatalogRow.role?, hinternal, if_true]
    rfl
  · have hview : kind ≠ "view" := by grind [CatalogRow.role?, CatalogRow.Described]
    simp only [fetchRow, CatalogRow.role?, if_neg htable, if_neg hview, if_neg hindex,
      if_neg htrigger]
    exact ⟨_, by rfl, by rfl, rfl⟩

theorem fetchRow_run {row : CatalogRow} (h : engine.Describes place P d row) (schema : Schema)
    {trace : Trace State} (htrace : P trace.engine) :
    ∃ next, P next.engine ∧ fetchRow engine place source schema row trace =
      (outcome (d.fault? row) (d.extend schema [row]), next) := by
  obtain ⟨hcolumns, hkeys⟩ := h
  by_cases hdescribed : row.Described
  case neg =>
    obtain ⟨next, hnext, -, hfetch⟩ := fetchRow_rest source hdescribed schema trace
    refine ⟨next, hnext ▸ htrace, ?_⟩
    rw [hfetch, Description.fault?, if_neg hdescribed]
    rfl
  case pos =>
    obtain ⟨read, hread, hcolumns⟩ := fetchColumns_run source (hcolumns hdescribed) htrace
    rw [Description.fault?, if_pos hdescribed, d.extend_singleton]
    rcases hdescribed with hrole | hrole
    · rw [fetchRow_table source hrole, hrole]
      cases hfault : columnFault? (d.columns row.name) with
      | some fault =>
          rw [hfault] at hcolumns
          exact ⟨read, hread, Run.bind_error hcolumns⟩
      | none =>
          rw [hfault] at hcolumns
          obtain ⟨next, hnext, hkeys⟩ := fetchForeignKeys_run source (hkeys hrole) hread
          refine ⟨next, hnext, ?_⟩
          rw [Run.bind_ok hcolumns, Run.bind_ok hkeys]
          rfl
    · rw [fetchRow_view source hrole, hrole]
      refine ⟨read, hread, ?_⟩
      cases hfault : columnFault? (d.columns row.name) with
      | some fault =>
          rw [hfault] at hcolumns
          exact Run.bind_error hcolumns
      | none =>
          rw [hfault] at hcolumns
          rw [Run.bind_ok hcolumns]
          rfl

theorem fetchRows_run {rows : List CatalogRow} (h : ∀ row ∈ rows, engine.Describes place P d row)
    (schema : Schema) {trace : Trace State} (htrace : P trace.engine) :
    ∃ next, P next.engine ∧ rows.foldlM (fetchRow engine place source) schema trace =
      (outcome (rows.findSome? d.fault?) (d.extend schema rows), next) := by
  induction rows generalizing schema trace with
  | nil =>
      refine ⟨trace, htrace, ?_⟩
      rw [d.extend_nil]
      rfl
  | cons row rest ih =>
      obtain ⟨hrow, hrest⟩ := List.forall_mem_cons.mp h
      obtain ⟨next, hnext, hfetch⟩ := fetchRow_run source hrow schema htrace
      rw [List.foldlM_cons, List.findSome?_cons]
      cases hfault : d.fault? row with
      | some fault =>
          rw [hfault] at hfetch
          exact ⟨next, hnext, Run.bind_error hfetch⟩
      | none =>
          rw [hfault] at hfetch
          obtain ⟨last, hlast, hfetches⟩ := ih hrest (d.extend schema [row]) hnext
          refine ⟨last, hlast, ?_⟩
          rw [Run.bind_ok hfetch, hfetches, d.extend_append, List.singleton_append]

/-- What is fetched from a database that keeps to its answers. -/
theorem fetchSchema_run {rows : List CatalogRow} {userVersion : Int}
    (h : engine.Answers place P rows userVersion)
    (hdescribes : ∀ row ∈ rows, engine.Describes place P d row) {trace : Trace State}
    (htrace : P trace.engine) :
    ∃ version next, P next.engine ∧ fetchSchema engine place source trace =
      (outcome (rows.findSome? d.fault?) (d.schema rows version userVersion), next) := by
  obtain ⟨first, hfirst, hcatalog⟩ := h.catalog.run (.queryCatalog place)
    (fun e => .fetchFailed source e none) htrace
  obtain ⟨version, hanswer, hkept⟩ := h.schemaVersion first.engine hfirst
  obtain ⟨second, hsecond, hversion⟩ := Run.ask_ok hanswer (.querySchemaVersion place)
    (fun e => .fetchFailed source e none)
  obtain ⟨current, hanswer, rfl, hlast⟩ := h.userVersion second.engine (hsecond ▸ hkept)
  obtain ⟨third, hthird, hcurrent⟩ := Run.ask_ok hanswer (.queryUserVersion place)
    (fun e => .fetchFailed source e none)
  obtain ⟨next, hnext, hrows⟩ := fetchRows_run source hdescribes
    { Schema.empty with version := version.getD 0, userVersion := current.getD 0 } (hthird ▸ hlast)
  rw [d.extend_empty] at hrows
  rw [fetchSchema, Run.bind_ok hcatalog, Run.bind_ok hversion, Run.bind_ok hcurrent]
  cases hfault : rows.findSome? d.fault? with
  | some fault =>
      rw [hfault] at hrows
      exact ⟨version.getD 0, next, hnext, Run.bind_error hrows⟩
  | none =>
      rw [hfault] at hrows
      refine ⟨version.getD 0, _, ?_, Run.bind_ok hrows⟩
      exact hnext

end

end RecordLoom.Catalog
