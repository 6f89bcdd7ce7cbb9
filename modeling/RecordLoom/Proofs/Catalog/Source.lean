import RecordLoom.Proofs.Catalog.Fetching

/-!
# Recreating a catalog

The statements of a catalog are replayed kind by kind, and those of indices and triggers table by
table.  A table brings back the indices that have no statement.  The rows that come of this stand in
another order than those of the catalog, and describe the same schema.
-/

namespace RecordLoom.Catalog

/-- Schemas with the same indices and triggers for each table, in whatever order the tables of these
come. -/
structure Schema.Matches (a b : Schema) : Prop where
  version : a.version = b.version
  userVersion : a.userVersion = b.userVersion
  tables : a.tables = b.tables
  views : a.views = b.views
  indices : ∀ table, a.indices.lookup table = b.indices.lookup table
  triggers : ∀ table, a.triggers.lookup table = b.triggers.lookup table

theorem Schema.Matches.canonical {a b : Schema} (h : a.Matches b) :
    a.canonical.Matches b.canonical where
  version := rfl
  userVersion := h.userVersion
  tables := h.tables
  views := h.views
  indices table := by
    simp only [Schema.canonical, Groups.lookup_map, h.indices]
  triggers := h.triggers

theorem Description.schema_matches (d : Description) {rows others : List CatalogRow}
    (htables : ofRole .table rows = ofRole .table others)
    (hviews : ofRole .view rows = ofRole .view others)
    (hindices : ∀ table, (ofRole .index rows).filter (·.table == table) =
      (ofRole .index others).filter (·.table == table))
    (htriggers : ∀ table, (ofRole .trigger rows).filter (·.table == table) =
      (ofRole .trigger others).filter (·.table == table)) (version userVersion : Int) :
    (d.schema rows version userVersion).Matches (d.schema others version userVersion) where
  version := rfl
  userVersion := rfl
  tables := by simp only [Description.schema, htables]
  views := by simp only [Description.schema, hviews]
  indices table := by simp only [Description.schema, Groups.lookup_ofList, hindices]
  triggers table := by simp only [Description.schema, Groups.lookup_ofList, htriggers]

/-! ## Objects and what their statements bring back -/

/-- What a database says of itself. -/
structure Source where
  rows : List CatalogRow
  userVersion : Int
  description : Description

namespace Source

section

variable (source : Source)

def grouped (role : Role) : List CatalogRow :=
  (Groups.ofList (·.table) id (ofRole role source.rows)).values

def objects : List CatalogRow :=
  ofRole .table source.rows ++ ofRole .view source.rows ++ source.grouped .index ++
    source.grouped .trigger

/-- The objects whose statements are replayed. -/
def replayed : List CatalogRow := source.objects.filter fun row => !row.text.isEmpty

/-- The indices of a table that have no statement. -/
def automatic (table : String) : List CatalogRow :=
  ((ofRole .index source.rows).filter (·.table == table)).filter (·.text.isEmpty)

/-- The rows that the statement of an object brings back. -/
def recreated (row : CatalogRow) : List CatalogRow :=
  row :: if row.role? = some .table then source.automatic row.name else []

def Readable : Prop :=
  ∀ row ∈ source.rows, row.Described → ∀ column ∈ source.description.columns row.name,
    ¬column.Unreadable

/-- How an engine keeps a catalog. -/
structure Orderly : Prop where
  /-- Only indices lack a statement. -/
  stored : ∀ row ∈ source.rows, row.role?.isSome = true → row.text = "" → row.role? = some .index
  names : ((ofRole .table source.rows).map (·.name)).Nodup
  /-- An index without a statement belongs to a table that is listed. -/
  owned : ∀ row ∈ ofRole .index source.rows, row.text = "" →
    ∃ table ∈ ofRole .table source.rows, table.name = row.table
  /-- The indices of a table that have no statement stand before its other indices. -/
  automaticFirst : (ofRole .index source.rows).Pairwise fun row later =>
    row.table = later.table → later.text = "" → row.text = ""

end

variable {source : Source}

theorem readable_iff :
    source.Readable ↔ source.rows.findSome? source.description.fault? = none := by
  have hfault : ∀ row, source.description.fault? row = none ↔
      (row.Described → ∀ column ∈ source.description.columns row.name, ¬column.Unreadable) := by
    intro row
    rw [← Option.not_isSome_iff_eq_none, Description.fault?_isSome_iff]
    push Not
    rfl
  simp only [Readable, List.findSome?_eq_none_iff, hfault]

theorem ofRole_of_forall {role : Role} {rows : List CatalogRow}
    (h : ∀ row ∈ rows, row.role? = some role) (other : Role) :
    ofRole other rows = if other = role then rows else [] := by
  split
  case isTrue heq =>
    exact List.filter_eq_self.mpr fun row hrow => by simp [h row hrow, heq]
  case isFalse hne =>
    exact List.filter_eq_nil_iff.mpr fun row hrow => by simp [h row hrow, Ne.symm hne]

theorem mem_grouped {role : Role} {row : CatalogRow} :
    row ∈ source.grouped role ↔ row ∈ ofRole role source.rows := by
  have hfilter := Groups.filter_values_ofList (fun row : CatalogRow => row.table)
    (ofRole role source.rows) row.table
  have hmem : ∀ rows : List CatalogRow,
      row ∈ rows.filter (·.table == row.table) ↔ row ∈ rows := by simp
  rw [← hmem, grouped, hfilter, hmem]

theorem ofRole_objects (role : Role) :
    ofRole role source.objects =
      match role with
      | .table | .view => ofRole role source.rows
      | .index | .trigger => source.grouped role := by
  have hrows : ∀ r, ∀ row ∈ ofRole r source.rows, row.role? = some r := fun r row h =>
    (mem_ofRole.mp h).2
  have hgrouped : ∀ r, ∀ row ∈ source.grouped r, row.role? = some r := fun r row h =>
    hrows r row (mem_grouped.mp h)
  simp only [objects, ofRole_append, ofRole_of_forall (hrows .table),
    ofRole_of_forall (hrows .view), ofRole_of_forall (hgrouped .index),
    ofRole_of_forall (hgrouped .trigger)]
  cases role <;> simp

theorem ofRole_replayed (role : Role) :
    ofRole role source.replayed = (ofRole role source.objects).filter fun row => !row.text.isEmpty :=
  List.filter_comm ..

theorem automatic_role {table : String} {row : CatalogRow} (h : row ∈ source.automatic table) :
    row.role? = some .index :=
  (mem_ofRole.mp (List.mem_of_mem_filter (List.mem_of_mem_filter h))).2

theorem ofRole_recreated {role : Role} (hrole : role ≠ .index) (rows : List CatalogRow) :
    ofRole role (rows.flatMap source.recreated) = ofRole role rows := by
  have hautomatic : ∀ table, ofRole role (source.automatic table) = [] := fun table => by
    rw [ofRole_of_forall (fun row => automatic_role) role, if_neg hrole]
  induction rows with
  | nil => rfl
  | cons row rest ih =>
      have hrow : ofRole role (source.recreated row) = ofRole role [row] := by
        have hbrought : ofRole role
            (if row.role? = some .table then source.automatic row.name else []) = [] := by
          split
          case isTrue => exact hautomatic row.name
          case isFalse => rfl
        rw [recreated, ofRole_cons, ofRole_cons, hbrought, ofRole_nil]
      rw [List.flatMap_cons, ofRole_append, hrow, ih, ← ofRole_append, List.singleton_append]

theorem flatMap_recreated_of_not_table {rows : List CatalogRow}
    (h : ∀ row ∈ rows, row.role? ≠ some .table) : rows.flatMap source.recreated = rows := by
  induction rows with
  | nil => rfl
  | cons row rest ih =>
      obtain ⟨hrow, hrest⟩ := List.forall_mem_cons.mp h
      rw [List.flatMap_cons, ih hrest, recreated, if_neg hrow, List.singleton_append]

theorem automatic_filter (name table : String) :
    (source.automatic name).filter (·.table == table) =
      if name = table then source.automatic table else [] := by
  have hname : ∀ row ∈ source.automatic name, row.table = name := fun row hrow => by
    simpa using (List.mem_filter.mp (List.mem_of_mem_filter hrow)).2
  split
  case isTrue heq =>
    subst heq
    exact List.filter_eq_self.mpr fun row hrow => by simpa using hname row hrow
  case isFalse hne =>
    exact List.filter_eq_nil_iff.mpr fun row hrow => by simpa [hname row hrow] using hne

theorem indices_recreated {tables : List CatalogRow}
    (htables : ∀ row ∈ tables, row.role? = some .table) (hnames : (tables.map (·.name)).Nodup)
    (table : String) :
    (ofRole .index (tables.flatMap source.recreated)).filter (·.table == table) =
      if table ∈ tables.map (·.name) then source.automatic table else [] := by
  induction tables with
  | nil => rfl
  | cons row rest ih =>
      obtain ⟨hrow, hrest⟩ := List.forall_mem_cons.mp htables
      obtain ⟨hnew, hnodup⟩ := List.nodup_cons.mp hnames
      have hautomatic : ofRole .index (source.automatic row.name) = source.automatic row.name := by
        rw [ofRole_of_forall fun row => automatic_role, if_pos rfl]
      have hown : ofRole .index (source.recreated row) = source.automatic row.name := by
        rw [recreated, if_pos hrow, ofRole_cons, hrow, if_neg (by decide), hautomatic]
      rw [List.flatMap_cons, ofRole_append, List.filter_append, hown, automatic_filter,
        ih hrest hnodup]
      by_cases heq : row.name = table
      · subst heq
        simp [hnew]
      · simp [heq, Ne.symm heq]

theorem filter_append_filter_not {α : Type} {p : α → Bool} {items : List α}
    (h : items.Pairwise fun a later => p later = true → p a = true) :
    items.filter p ++ items.filter (fun a => !p a) = items := by
  induction items with
  | nil => rfl
  | cons a rest ih =>
      obtain ⟨hfirst, hrest⟩ := List.pairwise_cons.mp h
      cases ha : p a with
      | true => simpa [ha] using ih hrest
      | false =>
          have hnone : ∀ b ∈ rest, p b = false := fun b hb => by
            simpa [ha] using hfirst b hb
          have hfilter : rest.filter p = [] := by simpa using hnone
          have hall : rest.filter (fun a => !p a) = rest := by simpa using hnone
          simp [ha, hfilter, hall]

theorem mem_of_mem_objects {row : CatalogRow} (hrow : row ∈ source.objects) :
    row ∈ source.rows ∧ row.role?.isSome = true := by
  have hmem : ∃ role, row ∈ ofRole role source.rows := by
    simp only [objects, List.mem_append, mem_grouped] at hrow
    rcases hrow with ((hrow | hrow) | hrow) | hrow
    all_goals exact ⟨_, hrow⟩
  obtain ⟨role, hrole⟩ := hmem
  obtain ⟨hrows, hrole⟩ := mem_ofRole.mp hrole
  exact ⟨hrows, by rw [hrole, Option.isSome_some]⟩

namespace Orderly

variable (h : source.Orderly)
include h

theorem filter_text {role : Role} (hrole : role ≠ .index) :
    (ofRole role source.objects).filter (fun row => !row.text.isEmpty) =
      ofRole role source.objects := by
  refine List.filter_eq_self.mpr fun row hrow => ?_
  obtain ⟨hobject, hrow⟩ := mem_ofRole.mp hrow
  obtain ⟨hmem, hsome⟩ := mem_of_mem_objects hobject
  have htext : row.text ≠ "" := fun hempty => by
    have hindex := h.stored row hmem hsome hempty
    rw [hrow, Option.some.injEq] at hindex
    exact hrole hindex
  simpa using htext

theorem automatic_eq_nil {table : String}
    (hnone : table ∉ (ofRole .table source.rows).map (·.name)) : source.automatic table = [] := by
  refine List.eq_nil_iff_forall_not_mem.mpr fun row hrow => hnone ?_
  obtain ⟨hindex, htext⟩ := List.mem_filter.mp hrow
  obtain ⟨hindex, htable⟩ := List.mem_filter.mp hindex
  obtain ⟨owner, howner, hname⟩ := h.owned row hindex (by simpa using htext)
  exact List.mem_map.mpr ⟨owner, howner, hname.trans (by simpa using htable)⟩

theorem replayed_eq :
    source.replayed = ofRole .table source.rows ++
      (ofRole .view source.rows ++ source.grouped .index ++ source.grouped .trigger).filter
        fun row => !row.text.isEmpty := by
  have htables := h.filter_text (show Role.table ≠ .index by decide)
  rw [ofRole_objects] at htables
  simp only [replayed, objects, List.filter_append, htables, List.append_assoc]

theorem filter_indices_recreated (table : String) :
    (ofRole .index (source.replayed.flatMap source.recreated)).filter (·.table == table) =
      (ofRole .index source.rows).filter (·.table == table) := by
  have htables : ∀ row ∈ ofRole .table source.rows, row.role? = some .table := fun row hrow =>
    (mem_ofRole.mp hrow).2
  -- Only tables bring anything back but themselves.
  have hrest : ∀ row ∈ (ofRole .view source.rows ++ source.grouped .index ++
      source.grouped .trigger).filter (fun row => !row.text.isEmpty),
      row.role? ≠ some .table := by
    intro row hrow
    have hmem := List.mem_of_mem_filter hrow
    simp only [List.mem_append, mem_grouped, mem_ofRole] at hmem
    rcases hmem with (⟨-, hrole⟩ | ⟨-, hrole⟩) | ⟨-, hrole⟩
    all_goals simp [hrole]
  have hreplayed : (ofRole .index source.replayed).filter (·.table == table) =
      ((ofRole .index source.rows).filter (·.table == table)).filter
        fun row => !row.text.isEmpty := by
    rw [Source.ofRole_replayed, ofRole_objects, List.filter_comm, grouped,
      Groups.filter_values_ofList]
  have hautomatic : (if table ∈ (ofRole .table source.rows).map (·.name)
      then source.automatic table else []) = source.automatic table := by
    split
    case isTrue => rfl
    case isFalse hnone => exact (h.automatic_eq_nil hnone).symm
  rw [h.replayed_eq, ofRole_append, ofRole_of_forall htables, if_neg (by decide),
    List.nil_append] at hreplayed
  rw [h.replayed_eq, List.flatMap_append, flatMap_recreated_of_not_table hrest, ofRole_append,
    List.filter_append, hreplayed, indices_recreated htables h.names, hautomatic, automatic]
  refine filter_append_filter_not ((h.automaticFirst.filter _).imp_of_mem ?_)
  intro row later hrow hlater hfirst hempty
  have htable : row.table = table := by simpa using (List.mem_filter.mp hrow).2
  have hsame : later.table = table := by simpa using (List.mem_filter.mp hlater).2
  simpa using hfirst (htable.trans hsame.symm) (by simpa using hempty)

/-- What is brought back describes the schema of the catalog. -/
theorem schema_recreated (version : Int) :
    (source.description.schema source.rows version source.userVersion).Matches
      (source.description.schema (source.replayed.flatMap source.recreated) version
        source.userVersion) := by
  have hothers : ∀ {role : Role}, role ≠ .index →
      ofRole role (source.replayed.flatMap source.recreated) = ofRole role source.objects :=
    fun hrole => by rw [ofRole_recreated hrole, ofRole_replayed, h.filter_text hrole]
  refine source.description.schema_matches ?_ ?_ (fun table => ?_) (fun table => ?_) _ _
  · rw [hothers (by decide), ofRole_objects]
  · rw [hothers (by decide), ofRole_objects]
  · exact (h.filter_indices_recreated table).symm
  · rw [hothers (by decide), ofRole_objects, grouped, Groups.filter_values_ofList]

end Orderly

end Source

end RecordLoom.Catalog
