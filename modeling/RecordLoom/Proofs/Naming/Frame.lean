import RecordLoom.Naming.Fancify
import Mathlib.Data.List.Forall2

/-!
# What naming leaves as it is

Every pass keeps the entities and their properties in place.  `Entity.Refines` collects what stays:
the SQL side of an entity, the SQL side of its properties, and every key that was there before.
-/

namespace RecordLoom

namespace Entity

/-- The SQL side of a property stays, and so does a key that it has. -/
structure Property.Refines (before after : Property) : Prop where
  column : after.column = before.column
  columnType : after.columnType = before.columnType
  notNull : after.notNull = before.notNull
  default : after.default = before.default
  primaryKey : before.primaryKey = true → after.primaryKey = true
  foreignKey : ∀ key, before.foreignKey = some key → after.foreignKey = some key

theorem Property.Refines.refl (p : Property) : p.Refines p :=
  ⟨rfl, rfl, rfl, rfl, id, fun _ => id⟩

theorem Property.Refines.trans {p q r : Property} (first : p.Refines q) (second : q.Refines r) :
    p.Refines r where
  column := second.column.trans first.column
  columnType := second.columnType.trans first.columnType
  notNull := second.notNull.trans first.notNull
  default := second.default.trans first.default
  primaryKey h := second.primaryKey (first.primaryKey h)
  foreignKey key h := second.foreignKey key (first.foreignKey key h)

end Entity

/-- The SQL side of an entity stays, with its properties in their order. -/
structure Entity.Refines (before after : Entity) : Prop where
  raw : after.raw = before.raw
  kind : after.kind = before.kind
  sql : after.sql = before.sql
  indexSql : after.indexSql = before.indexSql
  triggerSql : after.triggerSql = before.triggerSql
  properties : List.Forall₂ Entity.Property.Refines before.properties after.properties

namespace Entity

section

variable {α β γ : Type}

theorem forall₂_trans {R : α → β → Prop} {S : β → γ → Prop} {T : α → γ → Prop}
    {first : List α} {second : List β} {third : List γ} (h : List.Forall₂ R first second)
    (h' : List.Forall₂ S second third) (htrans : ∀ a b c, R a b → S b c → T a c) :
    List.Forall₂ T first third := by
  induction h generalizing third with
  | nil =>
      cases h'
      exact .nil
  | cons head _ ih =>
      cases h' with
      | cons head' tail' => exact .cons (htrans _ _ _ head head') (ih tail')

theorem forall₂_map {R : α → β → Prop} (items : List α) {f : α → β} (hf : ∀ a, R a (f a)) :
    List.Forall₂ R items (items.map f) := by
  rw [List.forall₂_map_right_iff]
  exact List.forall₂_same.mpr fun a _ => hf a

theorem map_eq_of_forall₂ {R : α → β → Prop} {f : α → γ} {g : β → γ}
    (hf : ∀ a b, R a b → g b = f a) {before : List α} {after : List β}
    (h : List.Forall₂ R before after) : after.map g = before.map f := by
  induction h with
  | nil => rfl
  | cons head _ ih => simp [hf _ _ head, ih]

theorem forall₂_of_map_eq {f : α → γ} {g : β → γ} {before : List α} {after : List β}
    (h : after.map g = before.map f) : List.Forall₂ (fun a b => g b = f a) before after := by
  have heq : List.Forall₂ (fun x y => y = x) (before.map f) (after.map g) := by
    rw [h]
    exact List.forall₂_same.mpr fun _ _ => rfl
  simpa [List.forall₂_map_left_iff, List.forall₂_map_right_iff] using heq

theorem exists_of_forall₂ {R : α → β → Prop} {before : List α} {after : List β}
    (h : List.Forall₂ R before after) {b : β} (hb : b ∈ after) : ∃ a ∈ before, R a b := by
  induction h with
  | nil => cases hb
  | cons head _ ih =>
      rcases List.mem_cons.mp hb with rfl | hb
      · exact ⟨_, List.mem_cons_self, head⟩
      · obtain ⟨a, ha, hab⟩ := ih hb
        exact ⟨a, List.mem_cons_of_mem _ ha, hab⟩

end

theorem refines_of_map {e : Entity} (f : Property → Property)
    (hf : ∀ p : Property, p.Refines (f p)) :
    e.Refines { e with properties := e.properties.map f } where
  raw := rfl
  kind := rfl
  sql := rfl
  indexSql := rfl
  triggerSql := rfl
  properties := forall₂_map e.properties hf

theorem Refines.refl (e : Entity) : e.Refines e :=
  ⟨rfl, rfl, rfl, rfl, rfl, List.forall₂_same.mpr fun p _ => .refl p⟩

theorem Refines.trans {e f g : Entity} (first : e.Refines f) (second : f.Refines g) :
    e.Refines g where
  raw := second.raw.trans first.raw
  kind := second.kind.trans first.kind
  sql := second.sql.trans first.sql
  indexSql := second.indexSql.trans first.indexSql
  triggerSql := second.triggerSql.trans first.triggerSql
  properties :=
    forall₂_trans first.properties second.properties fun _ _ _ h h' => h.trans h'

theorem Refines.columns {before after : Entity} (h : before.Refines after) :
    after.properties.map (·.column) = before.properties.map (·.column) :=
  map_eq_of_forall₂ (fun _ _ h => h.column) h.properties

theorem columns_ofObject (schema : Catalog.Schema) (kind : Kind) (name sql : String)
    (columns : List Catalog.Column) (keys : List Catalog.ForeignKey) :
    (ofObject schema kind name sql columns keys).properties.map (·.column) =
      columns.map (·.name) := by
  simp [ofObject, Property.ofColumn, Function.comp_def]

end Entity

namespace Naming

open RecordLoom.Entity

abbrev Refined (before after : List Entity) : Prop := List.Forall₂ Entity.Refines before after

theorem Refined.trans {first second third : List Entity} (h : Refined first second)
    (h' : Refined second third) : Refined first third :=
  forall₂_trans h h' fun _ _ _ h h' => h.trans h'

theorem Refined.raws {before after : List Entity} (h : Refined before after) :
    after.map (·.raw) = before.map (·.raw) :=
  map_eq_of_forall₂ (fun _ _ h => h.raw) h

theorem Refined.exists_before {before after : List Entity} (h : Refined before after) {e : Entity}
    (he : e ∈ after) : ∃ e₀ ∈ before, e₀.Refines e :=
  exists_of_forall₂ h he

theorem refined_map {f : Entity → Entity} (hf : ∀ e : Entity, e.Refines (f e))
    (entities : List Entity) : Refined entities (entities.map f) :=
  forall₂_map entities hf

/-! ## The passes -/

variable (o : Options)

theorem assignTypes_refines (e : Entity) : e.Refines (o.assignTypes e) :=
  refines_of_map (fun p => { p with valueType := o.valueType p })
    fun _ => ⟨rfl, rfl, rfl, rfl, id, fun _ => id⟩

theorem typePass_refined (entities : List Entity) : Refined entities (o.typePass entities).1 :=
  refined_map (assignTypes_refines o) entities

theorem markPrimaryKey_refines (p : Property) : p.Refines (markPrimaryKey p) :=
  ⟨rfl, rfl, rfl, rfl, fun _ => rfl, fun _ => id⟩

private theorem modify_refines (properties : List Property) (position : Nat) :
    List.Forall₂ Property.Refines properties (properties.modify position markPrimaryKey) := by
  induction properties generalizing position with
  | nil => simp
  | cons p rest ih =>
      cases position with
      | zero =>
          exact .cons (markPrimaryKey_refines p) (List.forall₂_same.mpr fun q _ => .refl q)
      | succ position => exact .cons (.refl p) (ih position)

theorem detectPrimaryKey_refines (e : Entity) : e.Refines (o.detectPrimaryKey e).1 := by
  unfold Options.detectPrimaryKey
  split
  · exact .refl e
  · split
    · exact .refl e
    · exact ⟨rfl, rfl, rfl, rfl, rfl, modify_refines e.properties _⟩

theorem each_refined {step : Entity → Entity × List Finding}
    (hstep : ∀ e : Entity, e.Refines (step e).1)
    (entities : List Entity) : Refined entities (Pass.each step entities).1 := by
  simpa [Pass.each, Function.comp_def] using refined_map hstep entities

theorem primaryKeyPass_refined (entities : List Entity) :
    Refined entities (o.primaryKeyPass entities).1 := by
  unfold Options.primaryKeyPass
  split
  · exact each_refined (detectPrimaryKey_refines o) entities
  · exact List.forall₂_same.mpr fun e _ => .refl e

theorem refer_cases (e : Entity) (p : Property) (d : Destination) :
    (refer e p d).1 = p ∨ p.foreignKey = none ∧ (refer e p d).1 =
      { p with foreignKey := some (detectedKey p d), foreignKeyDetected := true } := by
  unfold refer
  cases p.foreignKey with
  | some key =>
      dsimp only
      split <;> exact .inl rfl
  | none =>
      dsimp only
      split
      · exact .inr ⟨rfl, rfl⟩
      · exact .inl rfl

theorem detectForeignKey_cases (destinations : List (String × Destination)) (e : Entity)
    (p : Property) :
    (detectForeignKey destinations e p).1 = p ∨
      p.foreignKey = none ∧ ∃ d, (detectForeignKey destinations e p).1 =
        { p with foreignKey := some (detectedKey p d), foreignKeyDetected := true } := by
  unfold detectForeignKey
  split
  · exact .inl rfl
  split
  case h_1 d _ => exact (refer_cases e p d).imp_right fun ⟨hkey, h⟩ => ⟨hkey, d, h⟩
  case h_2 => exact .inl rfl

theorem detectForeignKey_refines (destinations : List (String × Destination)) (e : Entity)
    (p : Property) : p.Refines (detectForeignKey destinations e p).1 := by
  rcases detectForeignKey_cases destinations e p with hsame | ⟨hnone, d, hadded⟩
  · exact hsame.symm ▸ .refl p
  · rw [hadded]
    exact ⟨rfl, rfl, rfl, rfl, id, fun key hkey => by simp [hnone] at hkey⟩

theorem detectForeignKeys?_refines (destinations : List (String × Destination)) (e : Entity) :
    e.Refines (o.detectForeignKeys? destinations e).1 := by
  unfold Options.detectForeignKeys?
  split
  · simpa [Function.comp_def] using
      refines_of_map (fun p => (detectForeignKey destinations e p).1)
        (detectForeignKey_refines destinations e)
  · exact .refl e

theorem foreignKeyPass_refined (entities : List Entity) :
    Refined entities (o.foreignKeyPass entities).1 := by
  unfold Options.foreignKeyPass
  split
  · exact each_refined (detectForeignKeys?_refines o _) entities
  · exact List.forall₂_same.mpr fun e _ => .refl e

def Options.forcedName : String := o.forcePrimaryKeyName.getD ""

def Options.chosenName (e : Entity) (taken : List String) (p : Property)
    (others : List Property) : String :=
  if takesForcedName e o.forcedName p others then o.forcedName
  else freeName (o.propertyName p.name) taken

theorem renameProperties_cons (e : Entity) (taken : List String) (renamed : List Property)
    (p : Property) (rest : List Property) :
    renameProperties o e taken renamed (p :: rest) =
      renameProperties o e (claim (o.chosenName e taken p (renamed ++ rest)) taken)
        ({ p with name := o.chosenName e taken p (renamed ++ rest) } :: renamed) rest := by
  rw [renameProperties, Options.chosenName, ← Options.forcedName]
  dsimp only
  split <;> rfl

theorem forall_mem_renameProperties {P : String → Prop} {e : Entity} {rest : List Property}
    (hchosen : ∀ p ∈ rest, ∀ taken others, P (o.chosenName e taken p others)) :
    ∀ (taken : List String) (renamed : List Property), (∀ p ∈ renamed, P p.name) →
      ∀ p ∈ renameProperties o e taken renamed rest, P p.name := by
  induction rest with
  | nil => exact fun _ _ hrenamed p hp => hrenamed p (List.mem_reverse.mp hp)
  | cons p rest ih =>
      obtain ⟨hp, hrest⟩ := List.forall_mem_cons.mp hchosen
      intro taken renamed hrenamed
      rw [renameProperties_cons]
      exact ih hrest _ _ (List.forall_mem_cons.mpr ⟨hp taken _, hrenamed⟩)

theorem renameProperties_refines (e : Entity) (rest : List Property) :
    ∀ (taken : List String) (renamed : List Property),
      ∃ tail, renameProperties o e taken renamed rest = renamed.reverse ++ tail ∧
        List.Forall₂ Property.Refines rest tail := by
  induction rest with
  | nil => exact fun _ renamed => ⟨[], by simp [renameProperties], .nil⟩
  | cons p rest ih =>
      intro taken renamed
      rw [renameProperties_cons]
      generalize o.chosenName e taken p (renamed ++ rest) = name
      obtain ⟨tail, htail, hrest⟩ := ih (claim name taken) ({ p with name } :: renamed)
      refine ⟨{ p with name } :: tail, by simp [htail], ?_⟩
      exact .cons ⟨rfl, rfl, rfl, rfl, id, fun _ => id⟩ hrest

theorem renameEntity_refines (taken : Taken) (e : Entity) :
    e.Refines (renameEntity o taken e).1 := by
  obtain ⟨tail, htail, hrest⟩ := renameProperties_refines o e e.properties [] []
  refine ⟨rfl, rfl, rfl, rfl, rfl, ?_⟩
  simpa [renameEntity, htail] using hrest

theorem renameEntities_refined (entities : List Entity) (taken : Taken) :
    Refined entities ((renameEntities o taken entities).map (·.1)) := by
  induction entities generalizing taken with
  | nil => exact .nil
  | cons e rest ih => exact .cons (renameEntity_refines o taken e) (ih _)

theorem namePass_refined (entities : List Entity) : Refined entities (o.namePass entities).1 :=
  renameEntities_refined o entities .none

theorem attach_refined (edges : List Edge) (entities : List Entity) :
    Refined entities (attach edges entities) := by
  have hzip : entities = entities.zipIdx.map Prod.fst := by simp
  rw [Refined, attach, List.forall₂_map_right_iff]
  conv => lhs; rw [hzip]
  rw [List.forall₂_map_left_iff]
  exact List.forall₂_same.mpr fun _ _ => ⟨rfl, rfl, rfl, rfl, rfl,
    List.forall₂_same.mpr fun p _ => .refl p⟩

/-! ## The whole run -/

/-- The entities as they are when relationships are derived. -/
def Options.named (entities : List Entity) : List Entity :=
  (o.namePass (o.foreignKeyPass (o.primaryKeyPass (o.typePass entities).1).1).1).1

/-- The entities with their types and their keys, under the names that they came with. -/
def Options.keyed (entities : List Entity) : List Entity :=
  (o.foreignKeyPass (o.primaryKeyPass (o.typePass entities).1).1).1

theorem named_eq (entities : List Entity) :
    o.named entities = (renameEntities o .none (o.keyed entities)).map (·.1) := rfl

theorem named_refined (entities : List Entity) : Refined entities (o.named entities) :=
  (typePass_refined o entities).trans <| (primaryKeyPass_refined o _).trans <|
    (foreignKeyPass_refined o _).trans (namePass_refined o _)

theorem passes_entities (entities : List Entity) :
    (o.passes entities).1 = (o.relationshipPass (o.named entities)).1 := rfl

theorem relationshipPass_refined (entities : List Entity) :
    Refined entities (o.relationshipPass entities).1 :=
  attach_refined _ entities

theorem refine_refined (db : Database) : Refined db.entities (refine o db).entities := by
  change Refined db.entities (o.passes db.entities).1
  rw [passes_entities]
  exact (named_refined o _).trans (relationshipPass_refined o _)

theorem forall₂_tables {R : Entity → Entity → Prop}
    (hkind : ∀ before after, R before after → after.kind = before.kind) {schema : Catalog.Schema}
    {name : String} {db : Database}
    (h : List.Forall₂ R (Database.ofSchema schema name).entities db.entities) :
    List.Forall₂ (fun t e => R (.ofObject schema .table t.name t.sql t.columns t.foreignKeys) e)
      schema.tables db.tables := by
  have hsame : Relator.LiftFun R (· ↔ ·) (fun e : Entity => e.kind == .table)
      (fun e : Entity => e.kind == .table) := by
    intro before after hrelated
    simp [hkind before after hrelated]
  have htables : (Database.ofSchema schema name).entities.filter (·.kind == .table) =
      schema.tables.map fun t => .ofObject schema .table t.name t.sql t.columns t.foreignKeys := by
    simp [Database.ofSchema, List.filter_map, Function.comp_def, Entity.ofObject]
  have hfilter := List.rel_filter hsame h
  rw [htables, List.forall₂_map_left_iff] at hfilter
  exact hfilter

end Naming

end RecordLoom
