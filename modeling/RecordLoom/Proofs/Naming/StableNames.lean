import RecordLoom.Proofs.Naming.SettledNames
import RecordLoom.Proofs.Naming.StableKeys

/-!
# Names in a second run

Naming that runs again over a model derives the same names from the names that it has given, as long
as each of these is a name that stays.  The choice of a free name is then the same choice again, one
name after another, and so is the choice of the property that takes a forced name.
-/

namespace RecordLoom

open RecordLoom.Catalog
open RecordLoom.Entity

/-- The names that naming gives to an entity and to its properties. -/
structure Entity.DerivedNames where
  name : String
  reference : String
  singular : String
  plural : String
  properties : List String
  deriving DecidableEq, Repr

def Entity.derivedNames (e : Entity) : DerivedNames :=
  ⟨e.name, e.referenceName, e.singularName, e.pluralName, e.properties.map (·.name)⟩

namespace Naming

variable {o : Options}

/-! ## Detection keeps names -/

section

variable {α β γ : Type} {f : α → β} {g : α → γ}

theorem eq_of_map_eq (hinjective : ∀ a b, f a = f b → g a = g b → a = b) {xs ys : List α}
    (hf : xs.map f = ys.map f) (hg : xs.map g = ys.map g) : xs = ys := by
  induction xs generalizing ys with
  | nil => exact (List.map_eq_nil_iff.mp hf.symm).symm
  | cons x xs ih =>
      cases ys with
      | nil => cases hf
      | cons y ys =>
          obtain ⟨hfx, hfs⟩ := List.cons.inj hf
          obtain ⟨hgx, hgs⟩ := List.cons.inj hg
          rw [hinjective x y hfx hgx, ih hfs hgs]

end

def labels (e : Entity) : DerivedNames × List Relationship := (e.derivedNames, e.relationships)

theorem eq_of_labels {e f : Entity} (hunnamed : e.unnamed = f.unnamed)
    (hlabels : labels e = labels f) : e = f := by
  have hproperty : ∀ p q : Property, p.unnamed = q.unnamed → p.name = q.name → p = q := by
    intro p q hunnamed hname
    cases p
    cases q
    simp_all [Property.unnamed]
  have hproperties : e.properties = f.properties := by
    refine eq_of_map_eq hproperty ?_ ?_
    · exact congrArg Entity.properties hunnamed
    · exact congrArg (·.1.properties) hlabels
  cases e
  cases f
  simp_all [Entity.unnamed, labels, Entity.derivedNames]

theorem labels_assignTypes (e : Entity) : labels (o.assignTypes e) = labels e := by
  simp [labels, Entity.derivedNames, Options.assignTypes, Function.comp_def]

theorem labels_detectPrimaryKey (e : Entity) : labels (o.detectPrimaryKey e).1 = labels e := by
  have hmodify : ∀ position, (e.properties.modify position markPrimaryKey).map (·.name) =
      e.properties.map (·.name) := by
    intro position
    refine List.ext_getElem? fun i => ?_
    simp only [List.getElem?_map, List.getElem?_modify]
    cases e.properties[i]? with
    | none => rfl
    | some p => split <;> rfl
  unfold Options.detectPrimaryKey
  split
  · rfl
  · split
    · rfl
    · simp [labels, Entity.derivedNames, hmodify]

theorem name_detectForeignKey (destinations : List (String × Destination)) (e : Entity)
    (p : Property) : (detectForeignKey destinations e p).1.name = p.name := by
  rcases detectForeignKey_cases destinations e p with hsame | ⟨-, d, hadded⟩
  · rw [hsame]
  · rw [hadded]

theorem labels_detectForeignKeys? (destinations : List (String × Destination)) (e : Entity) :
    labels (o.detectForeignKeys? destinations e).1 = labels e := by
  unfold Options.detectForeignKeys?
  split
  · simp [labels, Entity.derivedNames, Function.comp_def, name_detectForeignKey]
  · rfl

theorem labels_keyed (entities : List Entity) :
    (o.keyed entities).map labels = entities.map labels := by
  have htyped : (o.typed entities).map labels = entities.map labels := by
    unfold Options.typed Options.primaryKeyPass Options.typePass
    split <;> simp [Pass.each, Function.comp_def, labels_assignTypes, labels_detectPrimaryKey]
  rw [keyed_eq, ← htyped]
  unfold Options.foreignKeyPass
  split
  · simp [Pass.each, Function.comp_def, labels_detectForeignKeys?]
  · rfl

theorem keyed_refine (db : Database) : o.keyed (refine o db).entities = (refine o db).entities := by
  refine eq_of_map_eq (fun _ _ => eq_of_labels) ?_ (labels_keyed _)
  rw [← keyed_unnamed, refine_unnamed, keyed_keyed]

/-! ## Forced names -/

variable (o) in
/-- Whether the forced name is meant for a property. -/
def Options.forces (e : Entity) (p : Property) : Bool :=
  !o.forcedName.isEmpty && p.primaryKey && !e.hasCompoundKey

theorem takesForcedName_iff {e : Entity} {p : Property} {others : List Property} :
    takesForcedName e o.forcedName p others = true ↔
      o.forces e p = true ∧ others.countP (·.name == o.forcedName) = 0 := by
  rw [takesForcedName, ← Options.forces, Bool.and_eq_true, List.countP_eq_zero]
  simp

/-- Among the properties of an entity, those that may keep their names. -/
structure Options.KeepsProperties (o : Options) (e : Entity) (properties : List Property) :
    Prop where
  names : ∀ p ∈ properties, o.forces e p = true ∧ p.name = o.forcedName ∨ o.Keeps p.name
  forced : ∀ p ∈ properties, o.forces e p = true →
    properties.countP (·.name == o.forcedName) = 1

instance (e : Entity) (properties : List Property) :
    Decidable (o.KeepsProperties e properties) :=
  decidable_of_iff ((∀ p ∈ properties, o.forces e p = true ∧ p.name = o.forcedName ∨
      o.Keeps p.name) ∧
    ∀ p ∈ properties, o.forces e p = true → properties.countP (·.name == o.forcedName) = 1)
    ⟨fun h => ⟨h.1, h.2⟩, fun h => ⟨h.names, h.forced⟩⟩

theorem takesForcedName_of_unique {e : Entity} {p : Property} {before after : List Property}
    (hforces : o.forces e p = true)
    (hunique : (before.reverse ++ p :: after).countP (·.name == o.forcedName) = 1) :
    takesForcedName e o.forcedName p (before ++ after) = true ↔ p.name = o.forcedName := by
  rw [List.countP_append, List.countP_reverse, List.countP_cons] at hunique
  rw [takesForcedName_iff, List.countP_append]
  constructor
  · rintro ⟨-, hothers⟩
    by_contra hname
    rw [if_neg (by simpa using hname)] at hunique
    omega
  · intro hname
    rw [if_pos (by simpa using hname)] at hunique
    exact ⟨hforces, by omega⟩

theorem chosenName_again {e f : Entity} (hforces : ∀ p, o.forces f p = o.forces e p)
    {taken : List String} {p : Property} {others before after : List Property} {name : String}
    (hname : o.chosenName e taken p others = name)
    (hkeeps : o.KeepsProperties f (before.reverse ++ { p with name } :: after)) :
    o.chosenName f taken { p with name } (before ++ after) = name := by
  have hmem : { p with name } ∈ before.reverse ++ { p with name } :: after := by simp
  have htakes (hforced : o.forces f p = true) :
      takesForcedName f o.forcedName { p with name } (before ++ after) = true ↔
        name = o.forcedName :=
    takesForcedName_of_unique (p := { p with name }) hforced (hkeeps.forced _ hmem hforced)
  rw [Options.chosenName]
  split
  case isTrue htaken => exact ((htakes (takesForcedName_iff.mp htaken).1).mp htaken).symm
  case isFalse hleft =>
    have hother (hforced : o.forces f p = true) : name ≠ o.forcedName :=
      fun hsame => hleft ((htakes hforced).mpr hsame)
    have hsettled : o.Keeps name := (hkeeps.names _ hmem).resolve_left fun h => hother h.1 h.2
    rw [Options.chosenName] at hname
    split at hname
    case isTrue htaken =>
      exact absurd hname.symm (hother ((hforces p).trans (takesForcedName_iff.mp htaken).1))
    case isFalse =>
      have hnumbered : IsNumbered (o.propertyName p.name) name := hname ▸ freeName_isNumbered _ _
      rw [propertyName_settled hnumbered hsettled, ← hname, freeName_freeName]

theorem renameProperties_again {e f : Entity} (hforces : ∀ p, o.forces f p = o.forces e p)
    {all : List Property} (hkeeps : o.KeepsProperties f all) (rest : List Property) :
    ∀ (taken : List String) (renamed tail : List Property), all = renamed.reverse ++ tail →
      renameProperties o e taken renamed rest = all →
      renameProperties o f taken renamed tail = all := by
  induction rest with
  | nil =>
      intro taken renamed tail hall hrun
      have htail : tail = [] := by
        rw [renameProperties, hall] at hrun
        exact List.self_eq_append_right.mp hrun
      rw [htail, List.append_nil] at hall
      rw [htail, renameProperties, hall]
  | cons p rest ih =>
      intro taken renamed tail hall hrun
      rw [renameProperties_cons] at hrun
      generalize hname : o.chosenName e taken p (renamed ++ rest) = name at hrun
      obtain ⟨more, hmore, -⟩ :=
        renameProperties_refines o e rest (claim name taken) ({ p with name } :: renamed)
      obtain rfl : tail = { p with name } :: more := by
        rw [hrun, hall, List.reverse_cons, List.append_assoc] at hmore
        exact List.append_cancel_left hmore
      rw [renameProperties_cons, chosenName_again hforces hname (hall ▸ hkeeps)]
      exact ih _ _ more (by simpa using hall) hrun

/-! ## Running again -/

/-- An entity of a model may keep its names. -/
structure Options.KeepsEntity (o : Options) (e : Entity) : Prop where
  name : o.Keeps e.name
  singular : o.singularizeRecordNames = true → Inflection.isLatePlural e.name = false
  properties : o.KeepsProperties e e.properties

instance (e : Entity) : Decidable (o.KeepsEntity e) :=
  decidable_of_iff (o.Keeps e.name ∧
    (o.singularizeRecordNames = true → Inflection.isLatePlural e.name = false) ∧
    o.KeepsProperties e e.properties)
    ⟨fun h => ⟨h.1, h.2.1, h.2.2⟩, fun h => ⟨h.name, h.singular, h.properties⟩⟩

theorem renameEntity_again {taken : Taken} {e f : Entity} {relationships : List Relationship}
    (hf : f = { (renameEntity o taken e).1 with relationships }) (hkeeps : o.KeepsEntity f) :
    (renameEntity o taken f).1 = f ∧
      (renameEntity o taken f).2.2 = (renameEntity o taken e).2.2 := by
  have hname : f.name = freeName (o.recordName e.name).1 taken.records := by
    rw [hf]
    rfl
  have hrecord : dedupe (o.recordName f.name).1 taken.records =
      dedupe (o.recordName e.name).1 taken.records := by
    rw [recordName_settled (hname ▸ freeName_isNumbered _ _) hkeeps.name hkeeps.singular, hname,
      dedupe_freeName]
  have hunnamed : f.unnamed.primaryKeys = e.unnamed.primaryKeys := by
    rw [← renameEntity_unnamed (o := o) taken e, hf]
    rfl
  have hforces : ∀ p, o.forces f p = o.forces e p := by
    have hlength := congrArg List.length hunnamed
    rw [primaryKeys_unnamed, primaryKeys_unnamed, List.length_map, List.length_map] at hlength
    intro p
    rw [Options.forces, Options.forces, Entity.hasCompoundKey, Entity.hasCompoundKey, hlength]
  have hproperties : renameProperties o f [] [] f.properties = f.properties := by
    refine renameProperties_again hforces hkeeps.properties e.properties [] [] _ rfl ?_
    rw [hf]
    rfl
  refine ⟨?_, by simp only [renameEntity, hrecord]⟩
  simp only [renameEntity, hrecord, hproperties]
  rw [hf]
  rfl

theorem renameEntities_cons (taken : Taken) (e : Entity) (rest : List Entity) :
    (renameEntities o taken (e :: rest)).map (·.1) = (renameEntity o taken e).1 ::
      (renameEntities o (renameEntity o taken e).2.2 rest).map (·.1) :=
  rfl

theorem renameEntities_again (entities : List Entity) :
    ∀ (taken : Taken) (named : List Entity),
      List.Forall₂ (fun e f : Entity => ∃ relationships, f = { e with relationships })
        ((renameEntities o taken entities).map (·.1)) named →
      (∀ f ∈ named, o.KeepsEntity f) → (renameEntities o taken named).map (·.1) = named := by
  induction entities with
  | nil =>
      intro taken named hsame hkeeps
      obtain rfl := List.forall₂_nil_left_iff.mp hsame
      rfl
  | cons e rest ih =>
      intro taken named hsame hkeeps
      rw [renameEntities_cons, List.forall₂_cons_left_iff] at hsame
      obtain ⟨f, more, ⟨relationships, hf⟩, hrest, rfl⟩ := hsame
      obtain ⟨hkeep, hkeeps⟩ := List.forall_mem_cons.mp hkeeps
      obtain ⟨hnamed, htaken⟩ := renameEntity_again hf hkeep
      rw [renameEntities_cons, hnamed, htaken, ih _ more hrest hkeeps]

theorem forall₂_attach {R : Entity → Entity → Prop} (edges : List Edge) (entities : List Entity)
    (hR : ∀ e position, R e (attached edges e position)) :
    List.Forall₂ R entities (attach edges entities) := by
  have hzip : entities.zipIdx.map Prod.fst = entities := List.zipIdx_map_fst ..
  have hall : List.Forall₂ R (entities.zipIdx.map Prod.fst) (attach edges entities) := by
    rw [attach_eq, List.forall₂_map_left_iff, List.forall₂_map_right_iff]
    exact List.forall₂_same.mpr fun x _ => hR x.1 x.2
  rwa [hzip] at hall

/-- A model that may keep its names is named as it is. -/
theorem named_refine {db : Database} (hkeeps : ∀ e ∈ (refine o db).entities, o.KeepsEntity e) :
    o.named (refine o db).entities = (refine o db).entities := by
  rw [named_eq, keyed_refine]
  refine renameEntities_again (o.keyed db.entities) .none _ ?_ hkeeps
  rw [← named_eq, refine_entities]
  exact forall₂_attach _ _ fun e position => ⟨_, rfl⟩

end Naming

/-- Two models have the same names throughout. -/
structure Database.SameNames (db other : Database) : Prop where
  name : other.name = db.name
  entities : other.entities.map Entity.derivedNames = db.entities.map Entity.derivedNames

namespace Naming

/-- What naming may meet in a model that it has named before, so that it leaves every name. -/
structure Options.KeepsDatabase (o : Options) (db : Database) : Prop where
  replaced : o.forcedDatabaseName? = none → o.replaceCharacters db.name = db.name
  capital : o.forcedDatabaseName? = none → o.capitalizeDatabaseName = true →
    Casing.upperFirst db.name = db.name
  entities : ∀ e ∈ db.entities, o.KeepsEntity e

instance (o : Options) (db : Database) : Decidable (o.KeepsDatabase db) :=
  decidable_of_iff ((o.forcedDatabaseName? = none → o.replaceCharacters db.name = db.name) ∧
    (o.forcedDatabaseName? = none → o.capitalizeDatabaseName = true →
      Casing.upperFirst db.name = db.name) ∧
    ∀ e ∈ db.entities, o.KeepsEntity e)
    ⟨fun h => ⟨h.1, h.2.1, h.2.2⟩, fun h => ⟨h.replaced, h.capital, h.entities⟩⟩

theorem refine_sameNames {db : Database} (h : o.KeepsDatabase (refine o db)) :
    (refine o db).SameNames (refine o (refine o db)) where
  name := databaseName_settled rfl h.replaced h.capital
  entities := by
    rw [refine_entities o (refine o db), map_attach _ _ fun _ _ => rfl, named_refine h.entities]

/-- A model whose names may stay keeps all of them when it is named again. -/
theorem fancify_keepsNames (o : Options) (schema : Schema) (name : String)
    (h : o.KeepsDatabase (fancify o schema name)) :
    (fancify o schema name).SameNames (refine o (fancify o schema name)) :=
  refine_sameNames h

def trackSchema : Schema :=
  let column (id : Int) (name : String) (primaryKey : Bool) : Column :=
    ⟨id, name, none, false, none, primaryKey⟩
  { Schema.empty with
    tables := [⟨"album-tracks", "", [column 0 "id" true, column 1 "URL_ID" false], []⟩] }

theorem trackSchema_keepsNames :
    let o := { Options.default with forcePrimaryKeyName := some "key", detectForeignKeys := false }
    let db := fancify o trackSchema "tracks.db"
    o.KeepsDatabase db ∧ db.SameNames (refine o db) := by
  intro o db
  have hkeeps : o.KeepsDatabase db := by decide +kernel
  exact ⟨hkeeps, fancify_keepsNames o trackSchema "tracks.db" hkeeps⟩

-- A name whose first character is no part of an identifier shows the next one too late.
example : Options.default.databaseName "@contacts" = "contacts" ∧
    Options.default.databaseName "contacts" = "Contacts" := by decide +kernel

example : (Options.default.recordName "peoples").1 = "People" ∧
    (Options.default.recordName "People").1 = "Person" := by decide +kernel

end Naming

end RecordLoom
