import RecordLoom.Proofs.Naming.Detection
import RecordLoom.Proofs.Naming.Distinct

/-!
# Keys in a second run

Naming may run again over a model that it has named.  It leaves types and keys as they are;
relationships and reports follow the keys, so that they are the same again, except for what goes by
names.
-/

namespace RecordLoom

open RecordLoom.Catalog
open RecordLoom.Entity

/-- A relationship by its ends.  Which one is primary and how it is told apart go by names. -/
def Entity.Relationship.unnamed (r : Relationship) : Relationship :=
  { r with name := "", primary := false, qualifier := none }

namespace Naming

variable {o : Options}

/-! ## Names -/

theorem renameProperties_unnamed (e : Entity) (rest : List Property) :
    ∀ (taken : List String) (renamed : List Property),
      (renameProperties o e taken renamed rest).map Property.unnamed =
        (renamed.reverse ++ rest).map Property.unnamed := by
  induction rest with
  | nil => simp [renameProperties]
  | cons p rest ih =>
      intro taken renamed
      simp [renameProperties_cons, ih, Property.unnamed]

theorem renameEntity_unnamed (taken : Taken) (e : Entity) :
    (renameEntity o taken e).1.unnamed = e.unnamed := by
  simp [renameEntity, Entity.unnamed, renameProperties_unnamed]

theorem renameEntities_unnamed (entities : List Entity) (taken : Taken) :
    ((renameEntities o taken entities).map (·.1)).map Entity.unnamed =
      entities.map Entity.unnamed := by
  induction entities generalizing taken with
  | nil => rfl
  | cons e rest ih =>
      have hfirst := renameEntity_unnamed (o := o) taken e
      simpa [renameEntities, hfirst] using ih _

theorem named_unnamed (entities : List Entity) :
    (o.named entities).map Entity.unnamed = o.keyed (entities.map Entity.unnamed) := by
  rw [named_eq, renameEntities_unnamed, keyed_unnamed]

theorem refine_unnamed (db : Database) :
    (refine o db).entities.map Entity.unnamed = o.keyed (db.entities.map Entity.unnamed) := by
  rw [refine_entities, map_attach _ _ fun _ _ => rfl, named_unnamed]

theorem renameEntities_findings (entities : List Entity) (taken : Taken) :
    ∀ result ∈ renameEntities o taken entities, ∀ f ∈ result.2,
      ∃ e name, f = .problem (guessedSingular e name) := by
  induction entities generalizing taken with
  | nil => simp [renameEntities]
  | cons e rest ih =>
      intro result hresult f hf
      rcases List.mem_cons.mp hresult with rfl | hresult
      · dsimp only at hf
        split at hf
        · exact ⟨_, _, List.mem_singleton.mp hf⟩
        · cases hf
      · exact ih _ result hresult f hf

theorem namePass_reports (entities : List Entity) :
    (reports (o.namePass entities).2).filter (·.code != .genericSingular) = [] := by
  rw [List.filter_eq_nil_iff]
  intro d hd
  obtain ⟨f, hf, hreport⟩ := List.mem_filterMap.mp hd
  obtain ⟨result, hresult, hf⟩ := List.mem_flatMap.mp hf
  obtain ⟨e, name, rfl⟩ := renameEntities_findings entities _ result hresult f hf
  cases hreport
  simp [guessedSingular]

/-! ## Relationships -/

def Edge.unnamed (x : Edge) : Edge := { x with relationship := x.relationship.unnamed }

def Resolution.unnamed : Resolution → Resolution
  | resolved destination position target => resolved destination.unnamed position target.unnamed
  | unknownTable => unknownTable
  | unknownColumn destination => unknownColumn destination.unnamed

theorem resolve_unnamed (entities : List Entity) (key : ForeignKey) :
    resolve (entities.map Entity.unnamed) key = (resolve entities key).unnamed := by
  unfold resolve
  rw [List.zipIdx_map, findNamed_map]
  have hname : (fun x : Entity × Nat => (Prod.map Entity.unnamed id x).1.raw) = fun x => x.1.raw :=
    rfl
  rw [hname]
  cases findNamed (fun x : Entity × Nat => x.1.raw) entities.zipIdx key.table with
  | none => rfl
  | some found =>
      obtain ⟨destination, position⟩ := found
      simp only [Option.map_some, Prod.map_apply, id_eq, property?_unnamed,
        primaryKey?_of_map (primaryKeys_unnamed destination)]
      cases destination.property? key.target with
      | some target => rfl
      | none =>
          cases destination.primaryKey? <;> rfl

theorem relate_unnamed (source : Source) (state state' : KeyState)
    (keyed : List (Property × ForeignKey)) (p : Property) (key : ForeignKey)
    (destination : Entity) (position : Nat) (target : Property) :
    (relate o ⟨source.entity.unnamed, source.position, keyed⟩ state' p.unnamed key
        destination.unnamed position target.unnamed).1.map Edge.unnamed =
      (relate o source state p key destination position target).1.map Edge.unnamed := by
  unfold relate
  cases o.reverseRelationships <;>
    simp only [Bool.false_eq_true, if_true, if_false, List.map_cons, List.map_nil, Edge.unnamed,
      Relationship.unnamed] <;> rfl

theorem relateKeys_unnamed (entities : List Entity) (source : Source)
    (others : List (Property × ForeignKey)) (keyed : List (Property × ForeignKey)) :
    ∀ state state' : KeyState,
      (relateKeys o (entities.map Entity.unnamed)
          ⟨source.entity.unnamed, source.position, others⟩ state'
          (keyed.map (Prod.map Property.unnamed id))).1.map Edge.unnamed =
        (relateKeys o entities source state keyed).1.map Edge.unnamed := by
  induction keyed with
  | nil => exact fun _ _ => rfl
  | cons head rest ih =>
      intro state state'
      obtain ⟨p, key⟩ := head
      simp only [List.map_cons, Prod.map_apply, id_eq, relateKeys, resolve_unnamed]
      cases resolve entities key with
      | unknownTable => exact ih state state'
      | unknownColumn destination => exact ih state state'
      | resolved destination position target =>
          simp only [Resolution.unnamed, List.map_append]
          rw [relate_unnamed source state state', ih]

theorem keyedProperties_unnamed (e : Entity) :
    keyedProperties e.unnamed = (keyedProperties e).map (Prod.map Property.unnamed id) := by
  unfold keyedProperties
  rw [List.map_filterMap, Entity.unnamed, List.filterMap_map]
  refine List.filterMap_congr fun p _ => ?_
  have hkey : p.unnamed.foreignKey = p.foreignKey := rfl
  rw [Function.comp_apply, hkey]
  cases p.foreignKey <;> rfl

theorem relateAll_unnamed (entities : List Entity) :
    (relateAll o (entities.map Entity.unnamed)).1.map Edge.unnamed =
      (relateAll o entities).1.map Edge.unnamed := by
  have hentity : ∀ (e : Entity) (position : Nat),
      (relateEntity o (entities.map Entity.unnamed) e.unnamed position).1.map Edge.unnamed =
        (relateEntity o entities e position).1.map Edge.unnamed := by
    intro e position
    unfold relateEntity
    rw [keyedProperties_unnamed]
    exact relateKeys_unnamed entities ⟨e, position, keyedProperties e⟩ _ _ _ _
  simp only [relateAll, List.zipIdx_map, List.map_map, List.flatMap_map, List.map_flatMap,
    Function.comp_def, Prod.map, id_eq, hentity]

theorem entityFaults_unnamed (entities : List Entity) (e : Entity) :
    entityFaults (entities.map Entity.unnamed) e.unnamed = entityFaults entities e := by
  unfold entityFaults keyFaults
  rw [keyedProperties_unnamed, List.filterMap_map]
  refine List.filterMap_congr fun x _ => ?_
  simp only [Function.comp_apply, Prod.map, id_eq, resolve_unnamed]
  cases resolve entities x.2 <;> rfl

theorem attach_unnamed (edges : List Edge) (entities : List Entity) :
    (attach edges entities).map (fun e => e.relationships.map Relationship.unnamed) =
      (List.range entities.length).map fun position =>
        ((edges.map Edge.unnamed).filter (·.owner == position)).map (·.relationship) := by
  have hrange : List.range entities.length = entities.zipIdx.map Prod.snd := by
    rw [List.zipIdx_map_snd, List.range_eq_range']
  rw [attach_eq, hrange, List.map_map, List.map_map]
  refine List.map_congr_left fun x _ => ?_
  simp [attached, List.filter_map, Function.comp_def, Edge.unnamed]

/-! ## Running again -/

variable (o) in
def Options.ends (entities : List Entity) : List (List Relationship) :=
  (attach (if o.deriveRelationships then (relateAll o entities).1 else []) entities).map fun e =>
    e.relationships.map Relationship.unnamed

variable (o) in
def Options.endReports (entities : List Entity) : List Diagnostic :=
  if o.deriveRelationships then entities.flatMap (entityFaults entities) else []

theorem ends_unnamed (entities : List Entity) :
    o.ends (entities.map Entity.unnamed) = o.ends entities := by
  unfold Options.ends
  rw [attach_unnamed, attach_unnamed, List.length_map]
  split
  · rw [relateAll_unnamed]
  · rfl

theorem endReports_unnamed (entities : List Entity) :
    o.endReports (entities.map Entity.unnamed) = o.endReports entities := by
  simp only [Options.endReports, List.flatMap_map, entityFaults_unnamed]

theorem refine_ends (db : Database) :
    (refine o db).entities.map (fun e => e.relationships.map Relationship.unnamed) =
      o.ends (o.keyed (db.entities.map Entity.unnamed)) := by
  rw [← named_unnamed, ends_unnamed, refine_entities]
  rfl

theorem refine_reports (db : Database) :
    (refine o db).diagnostics.filter (·.code != .genericSingular) =
      (o.keyReports (db.entities.map Entity.unnamed) ++
        o.endReports (o.keyed (db.entities.map Entity.unnamed))).filter
          (·.code != .genericSingular) := by
  rw [keyReports_unnamed, ← named_unnamed, endReports_unnamed]
  have hends : reports (o.relationshipPass (o.named db.entities)).2 =
      o.endReports (o.named db.entities) := by
    unfold Options.relationshipPass Options.endReports
    cases o.deriveRelationships with
    | false => rfl
    | true =>
        change reports (relateAll o (o.named db.entities)).2 = _
        rw [findings_relateAll, reports, List.filterMap_map]
        exact List.filterMap_some
  have hsplit : (refine o db).diagnostics =
      reports (o.primaryKeyPass (o.typePass db.entities).1).2 ++ (o.keyReports db.entities ++
        (reports (o.namePass (o.keyed db.entities)).2 ++
          reports (o.relationshipPass (o.named db.entities)).2)) := by
    simp only [Options.keyReports, reports, ← List.filterMap_append]
    rfl
  rw [hsplit, primaryKeyPass_reports, hends]
  simp [namePass_reports]

end Naming

/-- Two models have the same keys, relationships between the same ends, and reports of the same
problems with them. -/
structure Database.SameKeys (db other : Database) : Prop where
  entities : other.entities.map Entity.unnamed = db.entities.map Entity.unnamed
  relationships :
    other.entities.map (fun e => e.relationships.map Relationship.unnamed) =
      db.entities.map fun e => e.relationships.map Relationship.unnamed
  diagnostics :
    other.diagnostics.filter (·.code != .genericSingular) =
      db.diagnostics.filter (·.code != .genericSingular)

namespace Naming

theorem refine_sameKeys (o : Options) (db : Database) :
    (refine o db).SameKeys (refine o (refine o db)) where
  entities := by rw [refine_unnamed (refine o db), refine_unnamed, keyed_keyed]
  relationships := by rw [refine_ends (refine o db), refine_unnamed, keyed_keyed, refine_ends]
  diagnostics := by
    rw [refine_reports (refine o db), refine_unnamed, keyed_keyed, keyReports_keyed, refine_reports]

/-- Naming a model again changes none of its keys. -/
theorem fancify_keepsKeys (o : Options) (schema : Schema) (name : String) :
    (fancify o schema name).SameKeys (refine o (fancify o schema name)) :=
  refine_sameKeys o (.ofSchema schema name)

end Naming

end RecordLoom
