import RecordLoom.Proofs.Catalog.Answers
import RecordLoom.Proofs.Record.Positions

/-!
# Keys that name no column

A foreign key need not say which column it refers to.  It then leads to the column of its own name
in the table that it refers to, if there is one, and otherwise to the lone primary key of this
table.  The function that follows the key looks a record up by the column that was found.
-/

namespace RecordLoom

open RecordLoom.Catalog
open RecordLoom.Code
open RecordLoom.Entity
open RecordLoom.Naming
open RecordLoom.Record

namespace Catalog

/-- Whether a row gives the key of its column: it names no column that it refers to, and no row
before it is about the same column. -/
def ForeignKeyRow.IsUnnamed (row : ForeignKeyRow) (rows : List ForeignKeyRow) : Prop :=
  row.referenced = none ∧ rows.find? (·.column == row.column) = some row

theorem ForeignKeyRow.toForeignKey_target {row : ForeignKeyRow} (h : row.referenced = none) :
    row.toForeignKey.target = row.column := by
  simp [toForeignKey, ForeignKey.target, h]

end Catalog

namespace Record

/-- A function that finds the record of which a property equals one of the record it is given. -/
structure FindsBy (f : Function) (destination : Entity) (target source : Property) : Prop where
  call : ∃ arguments,
    f.body = [.ret (some (.call (.mk "find" arguments none true false none)))] ∧
    argument? arguments none = some (.typeExpression (recordNode destination)) ∧
    argument? arguments "where" = some (.keyPath target.name (some (recordNode destination))) ∧
    argument? arguments "equals" = some (.member (.variableRef "record") source.name)

end Record

/-- The relationships to one record from a column lead to one property, and are followed by it. -/
structure Database.Follows (db : Database) (derive : Bool) (e : Entity) (column : String)
    (d : Entity) (target : Property) : Prop where
  derived : derive = true → ∃ r ∈ e.toOne, r.source = column
  ends : ∀ r ∈ e.toOne, r.source = column → r.destination = d.raw ∧ r.target = target.column
  finds : ∀ output : Output, ∀ r ∈ e.toOne, r.source = column →
    ∃ f, output.findFunction db e r = .ok f ∧
      ∃ source ∈ e.properties, source.column = column ∧
        ∃ found ∈ d.properties, found.column = target.column ∧ FindsBy f d found source

namespace Record

variable {o : Options} {schema : Schema} {name : String} {e d : Entity}

theorem foreignKey_of_find? {t : Table}
    (hrefines : (Entity.ofObject schema .table t.name t.sql t.columns t.foreignKeys).Refines e)
    {keys : List ForeignKeyRow} (hkeys : t.foreignKeys = keys.map ForeignKeyRow.toForeignKey)
    {p : Property} (hp : p ∈ e.properties) {row : ForeignKeyRow}
    (hrow : keys.find? (·.column == p.column) = some row) :
    p.foreignKey = some row.toForeignKey := by
  obtain ⟨before, hbefore, hrefines⟩ := exists_of_forall₂ hrefines.properties hp
  obtain ⟨c, -, rfl⟩ := List.mem_map.mp hbefore
  refine hrefines.foreignKey row.toForeignKey ?_
  have hcolumn : p.column = c.name := hrefines.column
  have hkey : (t.foreignKeys.find? (·.column == c.name)) = some row.toForeignKey := by
    rw [hkeys, List.find?_map, ← hcolumn]
    exact congrArg (Option.map _) hrow
  exact hkey

theorem findFunction_findsBy {db : Database} {r : Relationship} {source target : Property}
    (hends : ends? db e r = some ⟨source, d, target⟩) (output : Output) :
    ∃ f, output.findFunction db e r = .ok f ∧ FindsBy f d target source := by
  have hrequired : requireEnds db e r = .ok ⟨source, d, target⟩ := by rw [requireEnds, hends]
  unfold Output.findFunction
  rw [hrequired]
  exact ⟨_, rfl, _, rfl, rfl, rfl, rfl⟩

theorem exists_findsBy {db : Database} {r : Relationship} {target : Property}
    (hsource : ∃ p ∈ e.properties, p.column = r.source)
    (hd : db.entity? r.destination = some d)
    (htarget : target ∈ d.properties) (hreferred : r.target = target.column) (output : Output) :
    ∃ f, output.findFunction db e r = .ok f ∧
      ∃ source ∈ e.properties, source.column = r.source ∧
        ∃ found ∈ d.properties, found.column = target.column ∧ FindsBy f d found source := by
  obtain ⟨p, hp, hcolumn⟩ := hsource
  obtain ⟨source, hfound, hsourceColumn⟩ : ∃ found,
      e.property? p.column = some found ∧ found.column = p.column := exists_findNamed hp
  obtain ⟨found, htargetFound, htargetColumn⟩ : ∃ found,
      d.property? target.column = some found ∧ found.column = target.column :=
    exists_findNamed htarget
  have hends : ends? db e r = some ⟨source, d, found⟩ := by
    rw [ends?, hd, hreferred, ← hcolumn, hfound]
    simp [htargetFound]
  obtain ⟨f, hf, hfinds⟩ := findFunction_findsBy hends output
  exact ⟨f, hf, source, mem_of_findNamed hfound, hsourceColumn.trans hcolumn, found,
    mem_of_findNamed htargetFound, htargetColumn, hfinds⟩

/-- What is derived from the keys of a column that all lead to one property. -/
theorem fancify_follows {column : String} {target : Property}
    (he : e ∈ (fancify o schema name).entities)
    (hcolumn : ∃ p ∈ e.properties, p.column = column)
    (hlinks : ∀ p ∈ e.properties, p.column = column →
      (fancify o schema name).linkOf? e p =
        some ⟨e.raw, column, d.raw, target.column, p.foreignKeyDetected⟩)
    (hd : (fancify o schema name).entity? d.raw = some d) (htarget : target ∈ d.properties) :
    (fancify o schema name).Follows o.deriveRelationships e column d target := by
  have hforward : ∀ r ∈ e.toOne,
      Link.of e r = ⟨e.raw, r.source, r.destination, r.target, r.detected⟩ :=
    fun r hr => Link.of_toOne (mem_toOne.mp hr).2 e
  cases hderive : o.deriveRelationships with
  | false =>
      have hnone : e.toOne = [] := by
        rw [Entity.toOne, fancify_withoutRelationships hderive he]
        rfl
      constructor <;> simp [hnone]
  | true =>
      have hends : ∀ r ∈ e.toOne, r.source = column →
          r.destination = d.raw ∧ r.target = target.column := by
        intro r hr hsource
        obtain ⟨p, hp, hlink⟩ := (exists_toOne_iff hderive he _).mp ⟨r, hr, rfl⟩
        have hsame : p.column = column := by
          obtain ⟨_, _, _, _, hends⟩ := Database.linkOf?_eq_some hlink
          rw [hforward r hr] at hends
          exact (congrArg Link.column hends).symm.trans hsource
        rw [hlinks p hp hsame, hforward r hr, Option.some.injEq, Link.mk.injEq] at hlink
        exact ⟨hlink.2.2.1.symm, hlink.2.2.2.1.symm⟩
      refine ⟨fun _ => ?derived, hends, fun output r hr hsource => ?finds⟩
      case derived =>
        obtain ⟨p, hp, hsame⟩ := hcolumn
        obtain ⟨r, hr, hlink⟩ :=
          (exists_toOne_iff hderive he _).mpr ⟨p, hp, hlinks p hp hsame⟩
        rw [hforward r hr] at hlink
        exact ⟨r, hr, congrArg Link.column hlink⟩
      case finds =>
        obtain ⟨hdestination, hreferred⟩ := hends r hr hsource
        rw [← hdestination] at hd
        subst hsource
        exact exists_findsBy hcolumn hd htarget hreferred output

/-- Where the keys of a fetched schema lead that name no column. -/
theorem fetched_unnamedKeys {State : Type} (engine : Engine State) (place : Place)
    (source : String) (first last : Trace State) (schema : Schema) (o : Options) (name : String)
    (hfetch : fetchSchema engine place source first = (.ok schema, last)) :
    List.Forall₂ (fun t e => ∃ rows keys, t.StandsFor engine place first last rows keys ∧
      ∀ row ∈ keys, row.IsUnnamed keys → row.column ∈ t.columns.map (·.name) →
        ∀ d key, (fancify o schema name).entity? row.table = some d → d.primaryKey? = some key →
          (fancify o schema name).Follows o.deriveRelationships e row.column d
            ((d.property? row.column).getD key))
      schema.tables (fancify o schema name).tables := by
  have hboth : List.Forall₂ (fun t e => t ∈ schema.tables ∧
        e ∈ (fancify o schema name).tables ∧
        (Entity.ofObject schema .table t.name t.sql t.columns t.foreignKeys).Refines e)
      schema.tables (fancify o schema name).tables := by
    rw [List.forall₂_and_left]
    refine ⟨fun t ht => ht, List.Forall₂.flip ?_⟩
    have htables := forall₂_tables (fun _ _ hrefines => hrefines.kind)
      (refine_refined o (.ofSchema schema name))
    exact (List.forall₂_and_left _ _).mpr ⟨fun e he => he, htables.flip⟩
  refine hboth.imp fun t e ⟨ht, he, hrefines⟩ => ?_
  obtain ⟨rows, keys, hstands⟩ := fetchSchema_tables hfetch t ht
  refine ⟨rows, keys, hstands, fun row _ hunnamed hcolumn d key hd hkey => ?_⟩
  obtain ⟨hnone, hfirst⟩ := hunnamed
  -- The key refers to the column of its own name before it falls back to the lone key.
  have hreferred : d.referred? row.toForeignKey = some ((d.property? row.column).getD key) := by
    rw [Entity.referred?, ForeignKeyRow.toForeignKey_target hnone, hkey]
    cases d.property? row.column <;> rfl
  have hentity : (fancify o schema name).entity? d.raw = some d := findNamed_found hd
  have hcolumns : e.properties.map (·.column) = t.columns.map (·.name) :=
    hrefines.columns.trans (columns_ofObject ..)
  rw [← hcolumns] at hcolumn
  refine fancify_follows (List.mem_filter.mp he).1 ?_ ?_ hentity (mem_of_referred? hreferred)
  · exact List.mem_map.mp hcolumn
  · intro p hp hsame
    have hforeign := foreignKey_of_find? hrefines hstands.foreignKeys hp (by rwa [hsame])
    have htable : row.toForeignKey.table = row.table := rfl
    rw [Database.linkOf?, hforeign, Option.bind_some, htable, hd, Option.bind_some, hreferred,
      Option.map_some, hsame]

def nodeEngine : Engine Unit where
  connect _ := fun state => (.ok (), state)
  catalog _ := fun state => (.ok [⟨"table", "node", "node", none, none⟩], state)
  schemaVersion _ := fun state => (.ok none, state)
  userVersion _ := fun state => (.ok none, state)
  tableInfo _ _ := fun state =>
    (.ok [⟨0, "id", some "INTEGER", 0, none, 1⟩, ⟨1, "parent_id", some "INTEGER", 0, none, 0⟩],
      state)
  foreignKeyList _ _ := fun state =>
    (.ok [⟨0, 0, "node", "parent_id", none, none, none, none⟩], state)
  execute _ := fun state => (.ok (), state)
  script _ := fun state => (.ok (), state)

def nodeSchema : Schema :=
  { Schema.empty with
    tables :=
      [⟨"node", "",
        [⟨0, "id", some .integer, false, none, true⟩,
         ⟨1, "parent_id", some .integer, false, none, false⟩],
        [⟨0, 0, "parent_id", "node", "parent_id", .noAction, .noAction, .none⟩]⟩] }

theorem fetchSchema_nodeEngine :
    ∃ last, fetchSchema nodeEngine (.file "node.db") "node.db" (.start ()) =
      (.ok nodeSchema, last) :=
  ⟨_, rfl⟩

theorem nodeEngine_unnamedKeys :
    ∃ last, fetchSchema nodeEngine (.file "node.db") "node.db" (.start ()) =
        (.ok nodeSchema, last) ∧
      List.Forall₂ (fun t e => ∃ rows keys,
        t.StandsFor nodeEngine (.file "node.db") (.start ()) last rows keys ∧
        ∀ row ∈ keys, row.IsUnnamed keys → row.column ∈ t.columns.map (·.name) →
          ∀ d key, (fancify .default nodeSchema "tree").entity? row.table = some d →
            d.primaryKey? = some key →
            (fancify .default nodeSchema "tree").Follows true e row.column d
              ((d.property? row.column).getD key))
        nodeSchema.tables (fancify .default nodeSchema "tree").tables := by
  obtain ⟨last, hfetch⟩ := fetchSchema_nodeEngine
  exact ⟨last, hfetch, fetched_unnamedKeys nodeEngine (.file "node.db") "node.db" (.start ()) last
    nodeSchema .default "tree" hfetch⟩

/-- The parent of a node is looked up by the parents of nodes, and not by their key. -/
theorem nodeEngine_not_by_key :
    ∃ schema last row, fetchSchema nodeEngine (.file "node.db") "node.db" (.start ()) =
        (.ok schema, last) ∧
      (nodeEngine.foreignKeyList (.file "node.db") "node" ()).1 = .ok [row] ∧
      row.referenced = none ∧
      ∃ d key, (fancify .default schema "tree").entity? row.table = some d ∧
        d.primaryKey? = some key ∧
        ∃ r ∈ d.toOne, r.source = row.column ∧ r.destination = d.raw ∧ r.target ≠ key.column := by
  obtain ⟨last, hfetch⟩ := fetchSchema_nodeEngine
  have hnode : (((fancify .default nodeSchema "tree").entity? "node").any fun d =>
      d.primaryKey?.any fun key => d.toOne.any fun r =>
        r.source == "parent_id" && r.destination == d.raw && r.target != key.column) = true := by
    decide +kernel
  refine ⟨nodeSchema, last, _, hfetch, rfl, rfl, ?_⟩
  simpa [Option.any_eq_true, List.any_eq_true, and_assoc] using hnode

end Record

end RecordLoom
