import RecordLoom.Proofs.Naming.Edges
import Mathlib.Data.List.Count
import Mathlib.Data.Option.Basic

/-!
# Accounting for foreign keys

Every key of a named model is either followed by one to-one relationship or reported by one
diagnostic.  Both are read off the model itself: what a key refers to is looked up among the final
entities, whose SQL names are those of the schema.
-/

namespace RecordLoom

open RecordLoom.Catalog
open RecordLoom.Entity
open RecordLoom.Naming

def Catalog.Schema.objectNames (schema : Schema) : List String :=
  schema.tables.map (·.name) ++ schema.views.map (·.name)

def Diagnostic.Code.isUnresolved : Diagnostic.Code → Bool
  | .unresolvedTable | .unresolvedColumn => true
  | .ambiguousForeignKey | .genericSingular => false

/-- The property that a key to this entity means: the named one, else the lone primary key. -/
def Entity.referred? (e : Entity) (key : ForeignKey) : Option Property :=
  (e.property? key.target).orElse fun _ => e.primaryKey?

theorem Entity.primaryKey?_eq_some_iff {e : Entity} {p : Property} :
    e.primaryKey? = some p ↔ e.primaryKeys = [p] := by
  unfold primaryKey?
  split
  case h_1 key hkeys => simp [hkeys]
  case h_2 hmany => exact iff_of_false nofun (hmany p)

/-- A key refers to the property that has the name of its target, or to the lone key of an entity in
which no property has this name in any case. -/
theorem Entity.referred?_eq_some_iff {e : Entity} {key : ForeignKey} {p : Property} :
    e.referred? key = some p ↔ Names Property.column e.properties key.target p ∨
      (∀ q ∈ e.properties, Text.lower q.column ≠ Text.lower key.target) ∧ e.primaryKeys = [p] := by
  rw [referred?, Option.orElse_eq_or, Option.or_eq_some_iff, property?, findNamed_eq_some_iff,
    findNamed_eq_none_iff, primaryKey?_eq_some_iff]

theorem Entity.mem_of_referred? {e : Entity} {key : ForeignKey} {p : Property}
    (h : e.referred? key = some p) : p ∈ e.properties := by
  rcases referred?_eq_some_iff.mp h with h | ⟨-, hkeys⟩
  · exact mem_of_findNamed (findNamed_eq_some_iff.mpr h)
  · have hkey : p ∈ e.primaryKeys := by simp [hkeys]
    exact (List.mem_filter.mp hkey).1

namespace Database

variable (db : Database)

/-- The key of a property, if its table and its column are there. -/
def linkOf? (e : Entity) (p : Property) : Option Link :=
  p.foreignKey.bind fun key => (db.entity? key.table).bind fun destination =>
    (destination.referred? key).map fun target =>
      ⟨e.raw, p.column, destination.raw, target.column, p.foreignKeyDetected⟩

/-- What is wrong with the key of a property. -/
def faultOf? (p : Property) : Option Diagnostic.Code :=
  p.foreignKey.bind fun key =>
    match db.entity? key.table with
    | none => some .unresolvedTable
    | some destination =>
        if (destination.referred? key).isSome then none else some .unresolvedColumn

/-- The reports of keys of an entity that lead nowhere. -/
def unresolvedIn (e : Entity) : List Diagnostic :=
  db.diagnostics.filter fun d => d.code.isUnresolved && d.entity == some e.raw

def unresolvedAt (e : Entity) (p : Property) : List Diagnostic :=
  (db.unresolvedIn e).filter fun d => d.column == some p.column

/-- How a key is resolved: its table by name, and then the property that it refers to. -/
theorem linkOf?_eq_some_iff {db : Database} {e : Entity} {p : Property} {link : Link} :
    db.linkOf? e p = some link ↔
      ∃ key destination target, p.foreignKey = some key ∧
        Names Entity.raw db.entities key.table destination ∧
        (Names Property.column destination.properties key.target target ∨
          (∀ q ∈ destination.properties, Text.lower q.column ≠ Text.lower key.target) ∧
            destination.primaryKeys = [target]) ∧
        link = ⟨e.raw, p.column, destination.raw, target.column, p.foreignKeyDetected⟩ := by
  simp only [linkOf?, Option.bind_eq_some_iff, Option.map_eq_some_iff, entity?,
    findNamed_eq_some_iff, referred?_eq_some_iff]
  constructor
  · rintro ⟨key, hkey, destination, hdestination, target, htarget, rfl⟩
    exact ⟨key, destination, target, hkey, hdestination, htarget, rfl⟩
  · rintro ⟨key, destination, target, hkey, hdestination, htarget, rfl⟩
    exact ⟨key, hkey, destination, hdestination, target, htarget, rfl⟩

theorem linkOf?_eq_some {db : Database} {e : Entity} {p : Property} {link : Link}
    (h : db.linkOf? e p = some link) :
    ∃ destination ∈ db.entities, ∃ target ∈ destination.properties,
      link = ⟨e.raw, p.column, destination.raw, target.column, p.foreignKeyDetected⟩ := by
  obtain ⟨key, destination, target, -, hdestination, htarget, rfl⟩ := linkOf?_eq_some_iff.mp h
  exact ⟨destination, mem_of_findNamed (findNamed_eq_some_iff.mpr hdestination), target,
    mem_of_referred? (referred?_eq_some_iff.mpr htarget), rfl⟩

end Database

/-- Whether a to-many relationship goes back along a to-one relationship of an entity. -/
def Entity.Relationship.isMirroredBy (r : Relationship) (owner : Entity) (back : Relationship) :
    Bool :=
  back.source == r.target && back.destination == owner.raw && back.target == r.source &&
    back.detected == r.detected

namespace Naming

variable (o : Options)

/-! ## Findings of the passes -/

def Finding.isUnresolved : Finding → Bool
  | problem d => d.code.isUnresolved
  | primaryKey .. | foreignKey .. => false

theorem detectPrimaryKey_findings (e : Entity) :
    ∀ f ∈ (o.detectPrimaryKey e).2, f.isUnresolved = false := by
  unfold Options.detectPrimaryKey
  split
  · simp
  · split
    · simp
    · intro f hf
      obtain ⟨p, -, rfl⟩ := List.mem_map.mp hf
      rfl

theorem refer_findings (e : Entity) (p : Property) (d : Destination) :
    ∀ f ∈ (refer e p d).2, f.isUnresolved = false := by
  unfold refer
  split <;> split <;> simp [Finding.isUnresolved, ambiguousKey, Diagnostic.Code.isUnresolved]

theorem detectForeignKeys?_findings (destinations : List (String × Destination)) (e : Entity) :
    ∀ f ∈ (o.detectForeignKeys? destinations e).2, f.isUnresolved = false := by
  unfold Options.detectForeignKeys?
  split
  · intro f hf
    obtain ⟨result, hresult, hf⟩ := List.mem_flatMap.mp hf
    obtain ⟨p, -, rfl⟩ := List.mem_map.mp hresult
    unfold detectForeignKey at hf
    split at hf
    · simp at hf
    · split at hf
      · exact refer_findings e p _ f hf
      · simp at hf
  · simp

theorem each_findings {step : Entity → Entity × List Finding}
    (hstep : ∀ e, ∀ f ∈ (step e).2, f.isUnresolved = false) (entities : List Entity) :
    ∀ f ∈ (Pass.each step entities).2, f.isUnresolved = false := by
  intro f hf
  obtain ⟨result, hresult, hf⟩ := List.mem_flatMap.mp hf
  obtain ⟨e, -, rfl⟩ := List.mem_map.mp hresult
  exact hstep e f hf

theorem primaryKeyPass_findings (entities : List Entity) :
    ∀ f ∈ (o.primaryKeyPass entities).2, f.isUnresolved = false := by
  unfold Options.primaryKeyPass
  split
  · exact each_findings (detectPrimaryKey_findings o) entities
  · simp

theorem foreignKeyPass_findings (entities : List Entity) :
    ∀ f ∈ (o.foreignKeyPass entities).2, f.isUnresolved = false := by
  unfold Options.foreignKeyPass
  split
  · exact each_findings (detectForeignKeys?_findings o _) entities
  · simp

theorem namePass_findings (entities : List Entity) :
    ∀ f ∈ (o.namePass entities).2, f.isUnresolved = false := by
  have hrename : ∀ (entities : List Entity) (taken : Taken),
      ∀ result ∈ renameEntities o taken entities, ∀ f ∈ result.2, f.isUnresolved = false := by
    intro entities
    induction entities with
    | nil => simp [renameEntities]
    | cons e rest ih =>
        intro taken result hresult f hf
        rcases List.mem_cons.mp hresult with rfl | hresult
        · dsimp only at hf
          split at hf
          · rw [List.mem_singleton.mp hf]
            rfl
          · simp at hf
        · exact ih _ result hresult f hf
  intro f hf
  obtain ⟨result, hresult, hf⟩ := List.mem_flatMap.mp hf
  exact hrename entities _ result hresult f hf

theorem fault?_eq_some {resolution : Resolution} {e : Entity} {p : Property} {key : ForeignKey}
    {d : Diagnostic} (h : resolution.fault? e p key = some d) :
    d.code.isUnresolved = true ∧ d.entity = some e.raw ∧ d.column = some p.column := by
  cases resolution with
  | resolved => cases h
  | unknownTable =>
      cases h
      exact ⟨rfl, rfl, rfl⟩
  | unknownColumn destination =>
      cases h
      exact ⟨rfl, rfl, rfl⟩

def entityFaults (entities : List Entity) (e : Entity) : List Diagnostic :=
  keyFaults entities e (keyedProperties e)

def propertyFaults (entities : List Entity) (e : Entity) (p : Property) : List Diagnostic :=
  (p.foreignKey.bind fun key => (resolve entities key).fault? e p key).toList

theorem entityFaults_eq_flatMap (entities : List Entity) (e : Entity) :
    entityFaults entities e = e.properties.flatMap (propertyFaults entities e) := by
  unfold entityFaults keyFaults keyedProperties propertyFaults
  rw [List.filterMap_filterMap, List.filterMap_eq_flatMap_toList]
  refine List.flatMap_congr fun p _ => ?_
  cases p.foreignKey <;> rfl

theorem mem_propertyFaults {entities : List Entity} {e : Entity} {p : Property} {d : Diagnostic}
    (h : d ∈ propertyFaults entities e p) :
    d.code.isUnresolved = true ∧ d.entity = some e.raw ∧ d.column = some p.column := by
  obtain ⟨key, -, hfault⟩ := Option.bind_eq_some_iff.mp (Option.mem_toList.mp h)
  exact fault?_eq_some hfault

theorem mem_entityFaults {entities : List Entity} {e : Entity} {d : Diagnostic}
    (h : d ∈ entityFaults entities e) :
    d.code.isUnresolved = true ∧ d.entity = some e.raw := by
  rw [entityFaults_eq_flatMap] at h
  obtain ⟨p, -, h⟩ := List.mem_flatMap.mp h
  exact ⟨(mem_propertyFaults h).1, (mem_propertyFaults h).2.1⟩

theorem unresolved_passes (hderive : o.deriveRelationships = true) (entities : List Entity) :
    ((o.passes entities).2.filterMap Finding.diagnostic?).filter (·.code.isUnresolved) =
      (o.named entities).flatMap (entityFaults (o.named entities)) := by
  have hquiet : ∀ findings : List Finding, (∀ f ∈ findings, f.isUnresolved = false) →
      (findings.filterMap Finding.diagnostic?).filter (·.code.isUnresolved) = [] := by
    intro findings h
    rw [List.filter_eq_nil_iff]
    intro d hd
    obtain ⟨f, hf, hdiagnostic⟩ := List.mem_filterMap.mp hd
    cases f with
    | problem d' =>
        cases hdiagnostic
        simpa [Finding.isUnresolved] using h _ hf
    | primaryKey | foreignKey => cases hdiagnostic
  have hrelate : (o.relationshipPass (o.named entities)).2 =
      ((o.named entities).flatMap (entityFaults (o.named entities))).map .problem := by
    simp only [Options.relationshipPass, hderive, if_true]
    exact findings_relateAll o (o.named entities)
  have hsplit : (o.passes entities).2 =
      (o.primaryKeyPass (o.typePass entities).1).2 ++
        ((o.foreignKeyPass (o.primaryKeyPass (o.typePass entities).1).1).2 ++
          ((o.namePass (o.foreignKeyPass (o.primaryKeyPass (o.typePass entities).1).1).1).2 ++
            (o.relationshipPass (o.named entities)).2)) := rfl
  simp only [hsplit, List.filterMap_append, List.filter_append,
    hquiet _ (primaryKeyPass_findings o _), hquiet _ (foreignKeyPass_findings o _),
    hquiet _ (namePass_findings o _), List.nil_append, hrelate, List.filterMap_map]
  have hproblem : Finding.diagnostic? ∘ Finding.problem = some := rfl
  rw [hproblem, List.filterMap_some, List.filter_eq_self]
  intro d hd
  obtain ⟨e, -, hd⟩ := List.mem_flatMap.mp hd
  exact (mem_entityFaults hd).1

/-! ## Resolution among the final entities -/

/-- How a key resolves, as the final entities show it. -/
inductive Leads (db : Database) (edges : List Edge) (key : ForeignKey) : Resolution → Prop where
  | unknownTable (hnone : db.entity? key.table = none) : Leads db edges key .unknownTable
  | unknownColumn {destination : Entity} {position : Nat}
      (hentity : db.entity? key.table = some (attached edges destination position))
      (hnone : (attached edges destination position).referred? key = none) :
      Leads db edges key (.unknownColumn destination)
  | resolved {destination : Entity} {position : Nat} {target : Property}
      (hentity : db.entity? key.table = some (attached edges destination position))
      (htarget : (attached edges destination position).referred? key = some target) :
      Leads db edges key (.resolved destination position target)

section

variable {db : Database} {edges : List Edge} {entities : List Entity}
  (hdb : db.entities = attach edges entities)

include hdb

theorem entity?_attach (table : String) :
    db.entity? table =
      (findNamed (fun x => x.1.raw) entities.zipIdx table).map fun x => attached edges x.1 x.2 := by
  rw [Database.entity?, hdb, attach_eq, findNamed_map]
  rfl

theorem resolve_leads (key : ForeignKey) : Leads db edges key (resolve entities key) := by
  unfold resolve
  cases hfound : findNamed (fun x => x.1.raw) entities.zipIdx key.table with
  | none => exact .unknownTable (by rw [entity?_attach hdb, hfound, Option.map_none])
  | some found =>
      have hentity : db.entity? key.table = some (attached edges found.1 found.2) := by
        rw [entity?_attach hdb, hfound, Option.map_some]
      dsimp only
      cases hreferred : (found.1.property? key.target).orElse fun _ => found.1.primaryKey? with
      | none => exact .unknownColumn hentity hreferred
      | some target => exact .resolved hentity hreferred

theorem linkOf?_attach (e : Entity) (p : Property) :
    db.linkOf? e p = p.foreignKey.bind fun key => (resolve entities key).link? e p := by
  refine Option.bind_congr fun key _ => ?_
  have hleads := resolve_leads hdb key
  generalize resolve entities key = resolution at hleads ⊢
  cases hleads with
  | unknownTable hnone => rw [hnone]; rfl
  | unknownColumn hentity hnone => rw [hentity, Option.bind_some, hnone]; rfl
  | resolved hentity htarget => rw [hentity, Option.bind_some, htarget]; rfl

theorem faultOf?_attach (e : Entity) (p : Property) :
    (db.faultOf? p).toList = (propertyFaults entities e p).map (·.code) := by
  unfold Database.faultOf? propertyFaults
  cases p.foreignKey with
  | none => rfl
  | some key =>
      have hleads := resolve_leads hdb key
      simp only [Option.bind_some]
      generalize resolve entities key = resolution at hleads ⊢
      cases hleads with
      | unknownTable hnone => rw [hnone]; rfl
      | unknownColumn hentity hnone => simp only [hentity, hnone]; rfl
      | resolved hentity htarget => simp only [hentity, htarget]; rfl

theorem entityLinks_attach (e : Entity) :
    entityLinks entities e = e.properties.filterMap (db.linkOf? e) := by
  unfold entityLinks keyLinks keyedProperties
  rw [List.filterMap_filterMap]
  refine List.filterMap_congr fun p _ => ?_
  rw [linkOf?_attach hdb]
  cases p.foreignKey <;> rfl

omit hdb in
theorem length_keyedProperties (entities : List Entity) (e : Entity) :
    (keyedProperties e).length =
      (entityLinks entities e).length + (entityFaults entities e).length := by
  unfold entityLinks entityFaults
  generalize keyedProperties e = keyed
  induction keyed with
  | nil => rfl
  | cons head rest ih =>
      obtain ⟨p, key⟩ := head
      simp only [keyLinks, keyFaults, List.filterMap_cons] at ih ⊢
      cases resolve entities key <;>
        simp only [Resolution.link?, Resolution.fault?, List.length_cons, ih] <;> omega

end

/-! ## The named model of a schema -/

theorem fancify_raws (schema : Schema) (name : String) :
    (fancify o schema name).entities.map (·.raw) = schema.objectNames := by
  have hraws := (refine_refined o (.ofSchema schema name)).raws
  rw [fancify, hraws]
  simp [Database.ofSchema, Schema.objectNames, Entity.ofObject, Function.comp_def]

theorem fancify_columns {schema : Schema} {name : String} {e : Entity}
    (h : e ∈ (fancify o schema name).entities) (hkind : e.kind = .table) :
    ∃ t ∈ schema.tables, e.properties.map (·.column) = t.columns.map (·.name) := by
  obtain ⟨before, hbefore, hrefines⟩ := (refine_refined o (.ofSchema schema name)).exists_before h
  rcases List.mem_append.mp hbefore with hmem | hmem
  · obtain ⟨t, ht, rfl⟩ := List.mem_map.mp hmem
    exact ⟨t, ht, hrefines.columns.trans (columns_ofObject ..)⟩
  · obtain ⟨v, -, rfl⟩ := List.mem_map.mp hmem
    have hview : e.kind = .view := hrefines.kind
    rw [hkind] at hview
    cases hview

def Options.namedSchema (schema : Schema) (name : String) : List Entity :=
  o.named (Database.ofSchema schema name).entities

section

variable {o : Options} (hderive : o.deriveRelationships = true) {schema : Schema} {name : String}

include hderive

theorem fancify_entities :
    (fancify o schema name).entities =
      attach (relateAll o (o.namedSchema schema name)).1 (o.namedSchema schema name) := by
  change (o.relationshipPass (o.namedSchema schema name)).1 = _
  simp [Options.relationshipPass, hderive]

theorem fancify_toOne {e : Entity} (he : e ∈ (fancify o schema name).entities) :
    e.toOne.map (Link.of e) = e.properties.filterMap ((fancify o schema name).linkOf? e) := by
  rw [← entityLinks_attach (fancify_entities hderive)]
  rw [fancify_entities hderive] at he
  exact toOne_links o _ he

theorem exists_toOne_iff {e : Entity} (he : e ∈ (fancify o schema name).entities) (link : Link) :
    (∃ r ∈ e.toOne, Link.of e r = link) ↔
      ∃ p ∈ e.properties, (fancify o schema name).linkOf? e p = some link := by
  rw [← List.mem_map, fancify_toOne hderive he, List.mem_filterMap]

theorem fancify_toMany (hreverse : o.reverseRelationships = true) :
    ((fancify o schema name).entities.flatMap fun e => e.toMany.map (Link.of e)).Perm
      ((fancify o schema name).entities.flatMap fun e =>
        e.properties.filterMap ((fancify o schema name).linkOf? e)) := by
  have hlinks : ((fancify o schema name).entities.flatMap fun e =>
        e.properties.filterMap ((fancify o schema name).linkOf? e)) =
      (o.namedSchema schema name).flatMap (entityLinks (o.namedSchema schema name)) := by
    simp only [← entityLinks_attach (fancify_entities hderive)]
    rw [fancify_entities hderive]
    exact flatMap_attach _ _ fun _ _ => rfl
  rw [hlinks, fancify_entities hderive]
  exact toMany_links_perm o _ hreverse

theorem fancify_unresolved :
    (fancify o schema name).diagnostics.filter (·.code.isUnresolved) =
      (fancify o schema name).entities.flatMap (entityFaults (o.namedSchema schema name)) := by
  have hfaults := unresolved_passes o hderive (Database.ofSchema schema name).entities
  rw [fancify_entities hderive, flatMap_attach _ _ fun _ _ => rfl]
  exact hfaults

variable (hnames : schema.objectNames.Nodup) {e : Entity}
  (he : e ∈ (fancify o schema name).entities)

include hnames he

theorem unresolvedIn_eq :
    (fancify o schema name).unresolvedIn e = entityFaults (o.namedSchema schema name) e := by
  have hraws : ((fancify o schema name).entities.map fun e => some e.raw).Nodup := by
    have hsome := List.Nodup.map (Option.some_injective String) hnames
    rw [← fancify_raws o schema name, List.map_map] at hsome
    exact hsome
  have hsplit : (fancify o schema name).unresolvedIn e =
      ((fancify o schema name).diagnostics.filter (·.code.isUnresolved)).filter
        (·.entity == some e.raw) := by
    rw [List.filter_filter]
    exact List.filter_congr fun d _ => Bool.and_comm ..
  rw [hsplit, fancify_unresolved hderive]
  exact filter_label_flatMap (k := fun e => some e.raw) (fun _ _ hd => (mem_entityFaults hd).2)
    hraws he

theorem fancify_balance :
    (keyedProperties e).length =
      e.toOne.length + ((fancify o schema name).unresolvedIn e).length := by
  have hlinks := congrArg List.length (fancify_toOne hderive he)
  rw [List.length_map, ← entityLinks_attach (fancify_entities hderive)] at hlinks
  rw [unresolvedIn_eq hderive hnames he, hlinks]
  exact length_keyedProperties _ e

variable (hcolumns : (e.properties.map (·.column)).Nodup)

include hcolumns

theorem fancify_reported {p : Property} (hp : p ∈ e.properties) :
    ((fancify o schema name).unresolvedAt e p).map (·.code) =
      ((fancify o schema name).faultOf? p).toList := by
  have hsome : (e.properties.map fun p => some p.column).Nodup := by
    have hsome := List.Nodup.map (Option.some_injective String) hcolumns
    rwa [List.map_map] at hsome
  have hfaults : (fancify o schema name).unresolvedAt e p =
      propertyFaults (o.namedSchema schema name) e p := by
    rw [Database.unresolvedAt, unresolvedIn_eq hderive hnames he, entityFaults_eq_flatMap]
    exact filter_label_flatMap (k := fun p => some p.column)
      (fun _ _ hd => (mem_propertyFaults hd).2.2) hsome hp
  rw [faultOf?_attach (fancify_entities hderive) e p, hfaults]

omit hderive hnames he in
theorem count_links (db : Database) {link : Link}
    (h : link ∈ e.properties.filterMap (db.linkOf? e)) :
    (e.properties.filterMap (db.linkOf? e)).count link = 1 := by
  obtain ⟨p, hp, hlink⟩ := List.mem_filterMap.mp h
  have hcolumn : ∀ q, ∀ other ∈ (db.linkOf? e q).toList, other.column = q.column := by
    intro q other hother
    obtain ⟨-, -, -, -, rfl⟩ := Database.linkOf?_eq_some (Option.mem_toList.mp hother)
    rfl
  rw [List.filterMap_eq_flatMap_toList, count_label_flatMap hcolumn hcolumns hp
    (hcolumn p link (Option.mem_toList.mpr hlink)), hlink]
  simp

theorem fancify_mirror (hreverse : o.reverseRelationships = true) {r : Relationship}
    (hr : r ∈ e.toOne) :
    ∃ destination ∈ (fancify o schema name).entities,
      (fancify o schema name).entity? r.destination = some destination ∧
      destination.raw = r.destination ∧
      destination.toMany.countP (r.isMirroredBy e) = 1 := by
  have hraws : ((fancify o schema name).entities.map (·.raw)).Nodup := by
    rwa [fancify_raws]
  have hforward : r.toMany = false := (mem_toOne.mp hr).2
  have hof := Link.of_toOne hforward e
  obtain ⟨p, hproperty, hp⟩ := (exists_toOne_iff hderive he _).mp ⟨r, hr, rfl⟩
  obtain ⟨destination, hmem, target, -, hends⟩ := Database.linkOf?_eq_some hp
  have hraw : r.destination = destination.raw := by
    rw [hof] at hends
    exact congrArg Link.destination hends
  refine ⟨destination, hmem, ?_, hraw.symm, ?_⟩
  · rw [hraw]
    exact findNamed_self hraws hmem
  -- The way back is counted among all links, which hold the way there once: the links that lead to
  -- the destination are its own to-many ones, and those from `e` come from its columns.
  have hmirror : destination.toMany.countP (r.isMirroredBy e) =
      (destination.toMany.map (Link.of destination)).count (Link.of e r) := by
    rw [List.count, List.countP_map]
    refine List.countP_congr fun back hback => ?_
    have hback : back.toMany = true := (mem_toMany.mp hback).2
    simp [Relationship.isMirroredBy, Link.of, hback, hforward, hraw]
    tauto
  have hgroup : ∀ d : Entity, ∀ link ∈ d.toMany.map (Link.of d), link.destination = d.raw := by
    intro d link hlink
    obtain ⟨back, hback, rfl⟩ := List.mem_map.mp hlink
    rw [Link.of_toMany (mem_toMany.mp hback).2]
  have howner : ∀ d : Entity, ∀ link ∈ d.properties.filterMap ((fancify o schema name).linkOf? d),
      link.entity = d.raw := by
    intro d link hlink
    obtain ⟨q, -, hq⟩ := List.mem_filterMap.mp hlink
    obtain ⟨-, -, -, -, rfl⟩ := Database.linkOf?_eq_some hq
    rfl
  rw [hmirror, ← count_label_flatMap hgroup hraws hmem (by rw [hof, hraw]),
    (fancify_toMany hderive hreverse).count_eq,
    count_label_flatMap howner hraws he (by rw [hof])]
  exact count_links hcolumns _ (List.mem_filterMap.mpr ⟨p, hproperty, hp⟩)

end

end Naming

/-- Every key of a model is accounted for.  The relationships of an entity and its reports are the
ones that its own keys call for; with `reverse`, what leads somewhere also leads back.  A view that
repeats a column name is only counted. -/
structure Database.AccountsForKeys (db : Database) (reverse : Bool) : Prop where
  followed : ∀ e ∈ db.entities, e.toOne.map (Link.of e) = e.properties.filterMap (db.linkOf? e)
  reported : ∀ e ∈ db.entities, (e.kind = .view → (e.properties.map (·.column)).Nodup) →
    ∀ p ∈ e.properties, (db.unresolvedAt e p).map (·.code) = (db.faultOf? p).toList
  balanced : ∀ e ∈ db.entities,
    (keyedProperties e).length = e.toOne.length + (db.unresolvedIn e).length
  reversed : reverse = true →
    (db.entities.flatMap fun e => e.toMany.map (Link.of e)).Perm
      (db.entities.flatMap fun e => e.toOne.map (Link.of e))
  mirrored : reverse = true →
    ∀ e ∈ db.entities, (e.kind = .view → (e.properties.map (·.column)).Nodup) →
      ∀ r ∈ e.toOne, ∃ destination ∈ db.entities,
        db.entity? r.destination = some destination ∧ destination.raw = r.destination ∧
        destination.toMany.countP (r.isMirroredBy e) = 1

namespace Naming

theorem fancify_accountsForKeys (schema : Schema) (o : Options) (name : String)
    (hderive : o.deriveRelationships = true) (hnames : schema.objectNames.Nodup)
    (hcolumns : ∀ t ∈ schema.tables, (t.columns.map (·.name)).Nodup) :
    (fancify o schema name).AccountsForKeys o.reverseRelationships := by
  have hdistinct : ∀ e ∈ (fancify o schema name).entities,
      (e.kind = .view → (e.properties.map (·.column)).Nodup) →
        (e.properties.map (·.column)).Nodup := by
    intro e he hview
    cases hkind : e.kind with
    | view => exact hview hkind
    | table =>
        obtain ⟨t, ht, hsame⟩ := fancify_columns o he hkind
        rw [hsame]
        exact hcolumns t ht
  constructor
  case followed => exact fun e he => fancify_toOne hderive he
  case reported =>
    exact fun e he hview p hp => fancify_reported hderive hnames he (hdistinct e he hview) hp
  case balanced => exact fun e he => fancify_balance hderive hnames he
  case reversed =>
    intro hreverse
    refine (fancify_toMany hderive hreverse).trans (.of_eq ?_)
    exact List.flatMap_congr fun e he => (fancify_toOne hderive he).symm
  case mirrored =>
    intro hreverse e he hview r hr
    exact fancify_mirror hderive hnames he (hdistinct e he hview) hreverse hr

def albumSchema : Schema :=
  let column (id : Int) (name : String) (primaryKey : Bool) : Column :=
    ⟨id, name, none, false, none, primaryKey⟩
  let key (id : Int) (name table target : String) : ForeignKey :=
    ⟨id, 0, name, table, target, .noAction, .noAction, .none⟩
  { Schema.empty with
    tables :=
      [⟨"Artist", "", [column 0 "id" true], []⟩,
       ⟨"Album", "", [column 0 "id" true, column 1 "artist_id" false, column 2 "parent" false,
          column 3 "label" false],
        [key 0 "artist_id" "ARTIST" "", key 1 "parent" "Album" "id",
         key 2 "label" "Label" ""]⟩] }

theorem albumSchema_accountsForKeys :
    Options.default.deriveRelationships = true ∧ albumSchema.objectNames.Nodup ∧
      (∀ t ∈ albumSchema.tables, (t.columns.map (·.name)).Nodup) ∧
      (fancify .default albumSchema "albums").AccountsForKeys true :=
  have hderive : Options.default.deriveRelationships = true := rfl
  have hnames : albumSchema.objectNames.Nodup := by decide
  have hcolumns : ∀ t ∈ albumSchema.tables, (t.columns.map (·.name)).Nodup := by decide
  ⟨hderive, hnames, hcolumns,
    fancify_accountsForKeys albumSchema .default "albums" hderive hnames hcolumns⟩

end Naming

end RecordLoom
