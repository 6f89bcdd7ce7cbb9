import RecordLoom.Proofs.Naming.StableKeys

/-!
# What naming adds

Naming adds keys and nothing else to the SQL side of a model.  Only an entity without primary key
gets one, only a property without foreign key gets one, and both are marked as detected.  Most
passes leave the keys alone: only the pass for primary keys changes the marks, and only the pass for
foreign keys the references.
-/

namespace RecordLoom

open RecordLoom.Catalog
open RecordLoom.Entity

namespace Entity

def Property.mark (p : Property) : Bool × Bool := (p.primaryKey, p.primaryKeyDetected)

def Property.reference (p : Property) : Option ForeignKey × Bool :=
  (p.foreignKey, p.foreignKeyDetected)

/-- A key refers to the single primary key of an entity, and this has the type that is wanted. -/
def Finds (entities : List Entity) (wanted : ValueType) (key : ForeignKey) : Prop :=
  ∃ e ∈ entities, e.raw = key.table ∧
    ∃ p, e.primaryKey? = some p ∧ p.column = key.referenced ∧ p.valueType = wanted

/-- A property has the foreign key that it had, or one that was detected where there was none. -/
def Property.Refers (entities : List Entity) (before after : Property) : Prop :=
  after.reference = before.reference ∨
    before.foreignKey = none ∧
      ∃ key, after.reference = (some key, true) ∧ Finds entities after.valueType key

end Entity

/-- An entity keeps its keys, and those that it gains are detected ones. -/
structure Entity.Gains (entities : List Entity) (before after : Entity) : Prop where
  keyed : before.primaryKeys ≠ [] →
    after.properties.map Entity.Property.mark = before.properties.map Entity.Property.mark
  keyless : before.primaryKeys = [] →
    after.primaryKeys.length ≤ 1 ∧ ∀ p ∈ after.primaryKeys, p.primaryKeyDetected = true
  references : List.Forall₂ (Entity.Property.Refers entities) before.properties after.properties

namespace Entity

theorem primaryKeys_marks (e : Entity) :
    e.primaryKeys.map Property.mark = (e.properties.map Property.mark).filter (·.1) := by
  rw [List.filter_map]
  rfl

theorem marks_of_keyless {e f : Entity} (h : f.keyless = e.keyless) :
    f.properties.map Property.mark = e.properties.map Property.mark := by
  have hmarks : f.keyless.properties.map Property.mark = e.keyless.properties.map Property.mark :=
    by rw [h]
  simp only [keyless, List.map_map] at hmarks
  exact hmarks

theorem Property.Refers.of_reference {entities : List Entity} {p q after : Property}
    (hsame : q.reference = p.reference) (h : q.Refers entities after) :
    p.Refers entities after := by
  have hkey : q.foreignKey = p.foreignKey := congrArg Prod.fst hsame
  rwa [Property.Refers, ← hsame, ← hkey]

theorem Property.Refers.of_unnamed {entities : List Entity} {before p q : Property}
    (h : before.Refers entities p) (hsame : q.unnamed = p.unnamed) : before.Refers entities q := by
  cases p
  cases q
  cases hsame
  exact h

end Entity

namespace Naming

variable (o : Options)

/-! ## Types and primary keys -/

def Options.typeEntity (e : Entity) : Entity :=
  if o.detectPrimaryKeys then (o.detectPrimaryKey (o.assignTypes e)).1 else o.assignTypes e

theorem typed_eq_map (entities : List Entity) : o.typed entities = entities.map o.typeEntity := by
  unfold Options.typed Options.primaryKeyPass Options.typePass
  split
  case isTrue h => simp [Pass.each, Options.typeEntity, h]
  case isFalse h => simp [Options.typeEntity, h]

theorem assignTypes_marks (e : Entity) :
    (o.assignTypes e).properties.map Property.mark = e.properties.map Property.mark := by
  simp only [Options.assignTypes, List.map_map]
  rfl

theorem assignTypes_references (e : Entity) :
    (o.assignTypes e).properties.map Property.reference = e.properties.map Property.reference := by
  simp only [Options.assignTypes, List.map_map]
  rfl

theorem assignTypes_primaryKeys_eq_nil (e : Entity) :
    (o.assignTypes e).primaryKeys = [] ↔ e.primaryKeys = [] := by
  rw [← List.map_eq_nil_iff (f := Property.mark), primaryKeys_marks, assignTypes_marks,
    ← primaryKeys_marks, List.map_eq_nil_iff]

theorem marked_references (e : Entity) (position : Nat) :
    (marked e position).properties.map Property.reference =
      e.properties.map Property.reference := by
  refine List.ext_getElem? fun i => ?_
  simp only [marked, List.getElem?_map, List.getElem?_modify, Option.map_eq_map, Option.map_map]
  congr 1
  funext p
  simp only [Function.comp_apply]
  split <;> rfl

theorem filter_modify_mark (properties : List Property) (position : Nat)
    (h : properties.filter (·.primaryKey) = []) :
    (properties.modify position markPrimaryKey).filter (·.primaryKey) =
      properties[position]?.toList.map markPrimaryKey := by
  induction properties generalizing position with
  | nil => simp
  | cons p rest ih =>
      have hp : p.primaryKey = false := by simpa using (List.filter_eq_nil_iff.mp h) p
      have hrest : rest.filter (·.primaryKey) = [] := by simpa [hp] using h
      cases position with
      | zero => simp [markPrimaryKey, hrest]
      | succ position => simpa [hp] using ih position hrest

theorem marked_primaryKeys {e : Entity} (h : e.primaryKeys = []) (position : Nat) :
    (marked e position).primaryKeys = e.properties[position]?.toList.map markPrimaryKey :=
  filter_modify_mark e.properties position h

theorem typeEntity_references (e : Entity) :
    (o.typeEntity e).properties.map Property.reference = e.properties.map Property.reference := by
  unfold Options.typeEntity
  split
  · cases h : o.newKey? (o.assignTypes e) with
    | none => rw [detectPrimaryKey_of_none h, assignTypes_references]
    | some position => rw [detectPrimaryKey_of_some h, marked_references, assignTypes_references]
  · exact assignTypes_references o e

theorem typeEntity_of_keyed {e : Entity} (h : e.primaryKeys ≠ []) :
    o.typeEntity e = o.assignTypes e := by
  have hkeys : (o.assignTypes e).primaryKeys ≠ [] := by
    rwa [Ne, assignTypes_primaryKeys_eq_nil]
  have hnew : o.newKey? (o.assignTypes e) = none := by simp [Options.newKey?, hkeys]
  unfold Options.typeEntity
  split
  · rw [detectPrimaryKey_of_none hnew]
  · rfl

theorem typeEntity_of_keyless {e : Entity} (h : e.primaryKeys = []) :
    (o.typeEntity e).primaryKeys = [] ∨
      ∃ p : Property, (o.typeEntity e).primaryKeys = [markPrimaryKey p] := by
  have hkeys := (assignTypes_primaryKeys_eq_nil o e).mpr h
  unfold Options.typeEntity
  split
  · cases hnew : o.newKey? (o.assignTypes e) with
    | none => exact .inl (by rwa [detectPrimaryKey_of_none hnew])
    | some position =>
        rw [detectPrimaryKey_of_some hnew, marked_primaryKeys hkeys]
        cases (o.assignTypes e).properties[position]? with
        | none => exact .inl rfl
        | some p => exact .inr ⟨p, rfl⟩
  · exact .inl hkeys

/-! ## Foreign keys -/

def Options.keyEntity (destinations : List (String × Destination)) (e : Entity) : Entity :=
  if o.detectForeignKeys then (o.detectForeignKeys? destinations e).1 else e

theorem keyed_eq_map (entities : List Entity) :
    o.keyed entities =
      (o.typed entities).map (o.keyEntity (o.destinations (o.typed entities))) := by
  rw [keyed_eq]
  unfold Options.foreignKeyPass
  split
  case isTrue h => simp [Pass.each, Options.keyEntity, h]
  case isFalse h =>
    have hid : o.keyEntity (o.destinations (o.typed entities)) = id := by
      funext e
      simp [Options.keyEntity, h]
    simp [hid]

theorem keyEntity_keyless (destinations : List (String × Destination)) (e : Entity) :
    (o.keyEntity destinations e).keyless = e.keyless := by
  unfold Options.keyEntity
  split
  · exact detectForeignKeys?_keyless destinations e
  · rfl

variable {o} in
theorem destination_of_mem {entities : List Entity} {name : String} {d : Destination}
    (h : (name, d) ∈ o.destinations entities) :
    ∃ e ∈ entities, e.raw = d.table ∧
      ∃ p, e.primaryKey? = some p ∧ p.column = d.column ∧ p.valueType = d.valueType := by
  obtain ⟨e, he, hd⟩ := List.mem_flatMap.mp h
  split at hd
  case h_1 key _ hkey =>
    obtain ⟨_, -, heq⟩ := List.mem_map.mp hd
    cases heq
    exact ⟨e, he, rfl, key, hkey, rfl, rfl⟩
  case h_2 => cases hd

theorem mem_of_lookup {destinations : List (String × Destination)} {name : String} {d : Destination}
    (h : destinations.lookup name = some d) : (name, d) ∈ destinations := by
  obtain ⟨before, after, hsplit, -⟩ := List.lookup_eq_some_iff.mp h
  simp [hsplit]

section

variable {entities : List Entity} {destinations : List (String × Destination)}
  (hfound : ∀ name d, (name, d) ∈ destinations → ∀ key : ForeignKey,
    key.table = d.table → key.referenced = d.column → Finds entities d.valueType key)

include hfound

theorem detectForeignKey_refers (e : Entity) (p : Property) :
    p.Refers entities (detectForeignKey destinations e p).1 := by
  cases hskip : e.isSoleKey p with
  | true => simp [detectForeignKey_of_isSoleKey hskip, Property.Refers]
  | false =>
      rw [detectForeignKey_of_not hskip]
      cases hlookup : destinations.lookup (Text.lower p.column) with
      | none => exact .inl rfl
      | some d =>
          have hfinds := hfound _ d (mem_of_lookup hlookup) (detectedKey p d) rfl rfl
          simp only [Option.elim_some]
          cases hkey : p.foreignKey with
          | some key =>
              refine .inl ?_
              simp only [refer, hkey]
              split <;> rfl
          | none =>
              simp only [refer, hkey]
              split
              case isTrue htype => exact .inr ⟨hkey, _, rfl, htype ▸ hfinds⟩
              case isFalse => exact .inl rfl

theorem keyEntity_refers (e : Entity) :
    List.Forall₂ (Property.Refers entities) e.properties
      (o.keyEntity destinations e).properties := by
  have hsame : List.Forall₂ (Property.Refers entities) e.properties e.properties :=
    List.forall₂_same.mpr fun _ _ => .inl rfl
  unfold Options.keyEntity
  split
  case isFalse => exact hsame
  case isTrue =>
    unfold Options.detectForeignKeys?
    split
    case isFalse => exact hsame
    case isTrue =>
      simp only [List.map_map]
      exact forall₂_map e.properties (detectForeignKey_refers hfound e)

/-! ## A whole run -/

theorem gains_of_unnamed (e : Entity) {f : Entity}
    (h : f.unnamed = (o.keyEntity destinations (o.typeEntity e)).unnamed) :
    e.Gains entities f := by
  have hkeyless : f.keyless = (o.typeEntity e).keyless := by
    rw [← keyless_unnamed, h, keyless_unnamed, keyEntity_keyless]
  have hmarks := marks_of_keyless hkeyless
  have hkeys : f.primaryKeys.map Property.mark =
      (o.typeEntity e).primaryKeys.map Property.mark := by
    rw [primaryKeys_marks, hmarks, primaryKeys_marks]
  have hproperties : f.properties.map Property.unnamed =
      (o.keyEntity destinations (o.typeEntity e)).properties.map Property.unnamed :=
    congrArg Entity.properties h
  refine ⟨fun hkeyed => ?_, fun hnone => ?_, ?_⟩
  · rw [hmarks, typeEntity_of_keyed o hkeyed, assignTypes_marks]
  · rcases typeEntity_of_keyless o hnone with htyped | ⟨p, htyped⟩
    · have hempty : f.primaryKeys = [] := by simpa [htyped] using hkeys
      simp [hempty]
    · rw [htyped] at hkeys
      obtain ⟨key, hkey, hmark⟩ := List.map_eq_singleton_iff.mp hkeys
      have hdetected : key.primaryKeyDetected = true := congrArg Prod.snd hmark
      simp [hkey, hdetected]
  · have htyped : List.Forall₂ (fun p q => q.reference = p.reference) e.properties
        (o.typeEntity e).properties := forall₂_of_map_eq (typeEntity_references o e)
    have hkeyed : List.Forall₂ (Property.Refers entities) e.properties
        (o.keyEntity destinations (o.typeEntity e)).properties :=
      forall₂_trans htyped (keyEntity_refers o hfound (o.typeEntity e))
        fun _ _ _ => Property.Refers.of_reference
    exact forall₂_trans hkeyed (forall₂_of_map_eq hproperties)
      fun _ _ _ => Property.Refers.of_unnamed

end

theorem destinations_refine (db : Database) :
    o.destinations (refine o db).entities = o.destinations (o.typed db.entities) := by
  refine destinations_of_keyless ?_
  have hunnamed := congrArg (List.map Entity.keyless) (refine_unnamed (o := o) db)
  rw [keyed_unnamed, List.map_map, List.map_map] at hunnamed
  simpa only [Function.comp_def, keyless_unnamed, keyed_keyless] using hunnamed

/-- But for names, the named model is the model with its types, then its keys. -/
theorem refine_eq_map (db : Database) :
    (refine o db).entities.map Entity.unnamed = db.entities.map fun e =>
      (o.keyEntity (o.destinations (refine o db).entities) (o.typeEntity e)).unnamed := by
  rw [destinations_refine, refine_unnamed, keyed_unnamed, keyed_eq_map, typed_eq_map, List.map_map,
    List.map_map]
  rfl

/-- Naming keeps the SQL side of a model and every key, and adds keys only where there are none. -/
theorem refine_gains (db : Database) :
    (refine o db).userVersion = db.userVersion ∧
      Refined db.entities (refine o db).entities ∧
      List.Forall₂ (Entity.Gains (refine o db).entities) db.entities (refine o db).entities := by
  refine ⟨rfl, refine_refined o db,
    (forall₂_of_map_eq (refine_eq_map o db)).imp fun e f => ?_⟩
  refine gains_of_unnamed o (fun name d hd key htable hcolumn => ?_) e
  rw [Finds, htable, hcolumn]
  exact destination_of_mem hd

end Naming

end RecordLoom
