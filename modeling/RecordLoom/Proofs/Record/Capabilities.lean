import RecordLoom.Proofs.Catalog.Listing
import RecordLoom.Proofs.Catalog.Triggers
import RecordLoom.Proofs.Record.Conformances
import RecordLoom.Proofs.Record.Positions

/-!
# What the views of a database can do

A view takes the row changes that triggers replace, and its record can be bound to a statement if
there is one.  The triggers of a view are those that name it as it is spelled, although the engine
finds the view whatever case its name is written in.
-/

namespace RecordLoom

open RecordLoom.Catalog
open RecordLoom.Code
open RecordLoom.Entity
open RecordLoom.Naming

namespace Catalog

def SameName (name other : String) : Prop :=
  name.toList.map Char.toUpper = other.toList.map Char.toUpper

instance (name other : String) : Decidable (SameName name other) :=
  inferInstanceAs (Decidable (_ = _))

/-- The triggers of a catalog that the engine takes for those of a view. -/
def triggersOf (rows : List CatalogRow) (view : CatalogRow) : List CatalogRow :=
  (ofRole .trigger rows).filter fun trigger => SameName trigger.table view.name

/-- Whether a trigger names its view as it is spelled, in a plain statement. -/
def CatalogRow.PlainFor (trigger view : CatalogRow) : Prop :=
  trigger.table = view.name ∧ ∃ operation, Sql.Plain trigger.text.toList operation

end Catalog

namespace Record

/-- What an entity that stands for a view of a catalog can do. -/
structure Stands (rows : List CatalogRow) (view : CatalogRow) (e : Entity) : Prop where
  raw : e.raw = view.name
  kind : e.kind = .view
  supports : ∀ operation, e.supports operation = true ↔
    ∃ trigger ∈ ofRole .trigger rows, trigger.table = view.name ∧
      Sql.insteadOf? trigger.text = some operation
  announced : (∀ trigger ∈ triggersOf rows view, trigger.PlainFor view) →
    ∀ operation, e.supports operation = true ↔
      ∃ trigger ∈ triggersOf rows view, Sql.announced? trigger.text = some operation

/-- Whether a record type has the function that binds a record. -/
def CanBind (d : TypeDef) : Prop := "bind" ∈ d.functions.map (·.signature.name)

end Record

namespace Naming

theorem forall₂_views {R : Entity → Entity → Prop}
    (hkind : ∀ before after, R before after → after.kind = before.kind) {schema : Schema}
    {name : String} {db : Database}
    (h : List.Forall₂ R (Database.ofSchema schema name).entities db.entities) :
    List.Forall₂ (fun v e => R (.ofObject schema .view v.name v.sql v.columns []) e)
      schema.views db.views := by
  have hsame : Relator.LiftFun R (· ↔ ·) (fun e : Entity => e.kind == .view)
      (fun e : Entity => e.kind == .view) := by
    intro before after hrelated
    simp [hkind before after hrelated]
  have hviews : (Database.ofSchema schema name).entities.filter (·.kind == .view) =
      schema.views.map fun v => .ofObject schema .view v.name v.sql v.columns [] := by
    simp [Database.ofSchema, List.filter_map, Function.comp_def, Entity.ofObject]
  have hfilter := List.rel_filter hsame h
  rw [hviews, List.forall₂_map_left_iff] at hfilter
  exact hfilter

end Naming

namespace Record

theorem mem_triggersOf {rows : List CatalogRow} {view trigger : CatalogRow} :
    trigger ∈ triggersOf rows view ↔
      trigger ∈ ofRole .trigger rows ∧ SameName trigger.table view.name := by
  simp [triggersOf]

theorem mem_triggerSql {schema : Schema} {rows : List CatalogRow} (hlists : schema.Lists rows)
    {v : View} {e : Entity}
    (h : (Entity.ofObject schema .view v.name v.sql v.columns []).Refines e) {sql : String} :
    sql ∈ e.triggerSql ↔ sql ≠ "" ∧
      ∃ trigger ∈ ofRole .trigger rows, trigger.table = v.name ∧ trigger.text = sql := by
  have hsql : ∀ trigger : CatalogRow, trigger.toTrigger.sql = trigger.text := fun _ => rfl
  rw [h.triggerSql]
  simp only [Entity.ofObject, storedSql, hlists.triggers, Groups.group_ofList, List.mem_filter,
    List.mem_map, List.map_map, Function.comp_apply, hsql, beq_iff_eq, Bool.not_eq_true',
    String.isEmpty_eq_false_iff, and_assoc]
  exact and_comm

theorem supports_iff_listed {schema : Schema} {rows : List CatalogRow}
    (hlists : schema.Lists rows) {v : View} {e : Entity}
    (h : (Entity.ofObject schema .view v.name v.sql v.columns []).Refines e)
    (operation : Sql.Operation) :
    e.supports operation = true ↔ ∃ trigger ∈ ofRole .trigger rows, trigger.table = v.name ∧
      Sql.insteadOf? trigger.text = some operation := by
  have hkind : e.kind = .view := h.kind
  have hempty : Sql.insteadOf? "" = none := rfl
  simp only [supports_iff hkind, HasTrigger, mem_triggerSql hlists h]
  constructor
  · rintro ⟨_, ⟨-, trigger, htrigger, htable, rfl⟩, hoperation⟩
    exact ⟨trigger, htrigger, htable, hoperation⟩
  · rintro ⟨trigger, htrigger, htable, hoperation⟩
    refine ⟨trigger.text, ⟨?_, trigger, htrigger, htable, rfl⟩, hoperation⟩
    intro htext
    simp [htext, hempty] at hoperation

/-- Triggers that name their view as it is spelled, in plain statements, are found for what they
announce. -/
theorem exists_announced_iff {rows : List CatalogRow} {view : CatalogRow}
    (hplain : ∀ trigger ∈ triggersOf rows view, trigger.PlainFor view) (operation : Sql.Operation) :
    (∃ trigger ∈ ofRole .trigger rows, trigger.table = view.name ∧
        Sql.insteadOf? trigger.text = some operation) ↔
      ∃ trigger ∈ triggersOf rows view, Sql.announced? trigger.text = some operation := by
  constructor
  · rintro ⟨trigger, htrigger, htable, hoperation⟩
    have hsame : SameName trigger.table view.name := by rw [htable, SameName]
    have hmem : trigger ∈ triggersOf rows view := mem_triggersOf.mpr ⟨htrigger, hsame⟩
    obtain ⟨-, plain, hstatement⟩ := hplain trigger hmem
    rw [hstatement.insteadOf] at hoperation
    exact ⟨trigger, hmem, hstatement.announced.trans hoperation⟩
  · rintro ⟨trigger, hmem, hoperation⟩
    obtain ⟨htable, plain, hstatement⟩ := hplain trigger hmem
    rw [hstatement.announced] at hoperation
    exact ⟨trigger, (mem_triggersOf.mp hmem).1, htable, hstatement.insteadOf.trans hoperation⟩

theorem stands_of_refines {schema : Schema} {rows : List CatalogRow} (hlists : schema.Lists rows)
    {v : View} {view : CatalogRow} {e : Entity} (hname : v.name = view.name)
    (h : (Entity.ofObject schema .view v.name v.sql v.columns []).Refines e) :
    Stands rows view e := by
  have hsupports := supports_iff_listed hlists h
  rw [hname] at hsupports
  exact ⟨h.raw.trans hname, h.kind, hsupports, fun hplain operation =>
    (hsupports operation).trans (exists_announced_iff hplain operation)⟩

theorem recordType_canBind {output : Output} {db : Database} {e : Entity} {d : TypeDef}
    (h : output.recordType db e = .ok d) :
    CanBind d ↔ ∃ operation, e.supports operation = true := by
  obtain ⟨initializer, hinitializer, hd⟩ := bind_eq_ok h
  obtain ⟨parameters, -, hparameters⟩ := bind_eq_ok hinitializer
  cases hd
  cases hparameters
  cases hread : e.isReadOnly with
  | true =>
      have hnone := isReadOnly_iff.mp hread
      simp [CanBind, hnone, Output.rowInitializer]
  | false =>
      have hsome : ∃ operation, e.supports operation = true := by
        rw [← Bool.not_eq_true, isReadOnly_iff] at hread
        simpa using hread
      simp [CanBind, hsome, Output.bindFunction]

/-- What the views of a catalog can do once its schema has been fetched and named.  A view takes the
row changes of the triggers that name it as it is spelled, by what their statements are found to
say, and these are the row changes that the engine runs its triggers for if each of them names it so
in a plain statement.  Its record can be bound if there is such a row change. -/
theorem fetched_capabilities {State : Type} (engine : Engine State) (place : Place)
    (source : String) (first last : Trace State) (schema : Schema) (o : Options) (name : String)
    (hfetch : fetchSchema engine place source first = (.ok schema, last)) :
    ∃ rows userVersion, engine.Shows place first.engine rows userVersion ∧
      List.Forall₂ (Stands rows) (ofRole .view rows) (fancify o schema name).views ∧
      ∀ (output : Output) (u : CompilationUnit), output.unit (fancify o schema name) = .ok u →
        ∃ records, u.structures = output.databaseType (fancify o schema name) :: records ∧
          List.Forall₂ (fun e d => CanBind d ↔ ∃ operation, e.supports operation = true)
            (fancify o schema name).entities records := by
  obtain ⟨rows, userVersion, hshows, hlists, -⟩ := fetchSchema_lists hfetch
  refine ⟨rows, userVersion, hshows, ?_, fun output u hunit => ?_⟩
  · have hrows := forall₂_of_map_eq hlists.views
    have hviews := forall₂_views (fun _ _ hrefines => hrefines.kind)
      (refine_refined o (.ofSchema schema name))
    exact forall₂_trans hrows hviews fun view v e hname hrefines =>
      stands_of_refines hlists (congrArg Prod.fst hname) hrefines
  · obtain ⟨accessors, records, -, hrecords, rfl⟩ := exists_assemble output hunit
    exact ⟨records, rfl, (forall₂_of_mapM hrecords).imp fun _ _ => recordType_canBind⟩

def bookView : CatalogRow := ⟨"view", "names", "names", none, none⟩

def bookTrigger : CatalogRow :=
  ⟨"trigger", "names_insert", "names", none,
    some "CREATE TRIGGER names_insert INSTEAD OF INSERT ON names BEGIN SELECT 1; END"⟩

def bookEngine : Engine Unit where
  connect _ := fun state => (.ok (), state)
  catalog _ := fun state => (.ok [bookView, bookTrigger], state)
  schemaVersion _ := fun state => (.ok none, state)
  userVersion _ := fun state => (.ok none, state)
  tableInfo _ _ := fun state => (.ok [⟨0, "first", some "TEXT", 0, none, 0⟩], state)
  foreignKeyList _ _ := fun state => (.ok [], state)
  execute _ := fun state => (.ok (), state)
  script _ := fun state => (.ok (), state)

theorem bookTrigger_plain :
    ∀ trigger ∈ triggersOf [bookView, bookTrigger] bookView, trigger.PlainFor bookView := by
  have hname : Sql.IsName "names_insert".toList :=
    .bare (by decide) (List.all_eq_true.mp (by decide))
  have hplain := Sql.plain_spaced hname (by decide) .insert "names BEGIN SELECT 1; END".toList
  have hrows : triggersOf [bookView, bookTrigger] bookView = [bookTrigger] := by decide
  intro trigger htrigger
  rw [hrows, List.mem_singleton] at htrigger
  subst htrigger
  have htext : bookTrigger.text.toList = "CREATE TRIGGER ".toList ++ "names_insert".toList ++
      " INSTEAD OF ".toList ++ "INSERT".toList ++ " ON ".toList ++
      "names BEGIN SELECT 1; END".toList := by decide +kernel
  exact ⟨rfl, .insert, htext ▸ hplain⟩

theorem bookEngine_capabilities :
    ∃ schema last, fetchSchema bookEngine (.file "book.db") "book.db" (.start ()) =
        (.ok schema, last) ∧
      (∀ trigger ∈ triggersOf [bookView, bookTrigger] bookView, trigger.PlainFor bookView) ∧
      ∃ rows userVersion, bookEngine.Shows (.file "book.db") () rows userVersion ∧
        List.Forall₂ (Stands rows) (ofRole .view rows) (fancify .default schema "book").views ∧
        ∀ (output : Output) (u : CompilationUnit),
          output.unit (fancify .default schema "book") = .ok u →
          ∃ records,
            u.structures = output.databaseType (fancify .default schema "book") :: records ∧
            List.Forall₂ (fun e d => CanBind d ↔ ∃ operation, e.supports operation = true)
              (fancify .default schema "book").entities records := by
  have hfetch : ∃ schema last,
      fetchSchema bookEngine (.file "book.db") "book.db" (.start ()) = (.ok schema, last) :=
    ⟨_, _, rfl⟩
  obtain ⟨schema, last, hfetch⟩ := hfetch
  exact ⟨schema, last, hfetch, bookTrigger_plain, fetched_capabilities bookEngine
    (.file "book.db") "book.db" (.start ()) last schema .default "book" hfetch⟩

end Record

end RecordLoom
