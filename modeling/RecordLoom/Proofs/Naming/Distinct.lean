import RecordLoom.Proofs.Naming.Accounting
import RecordLoom.Proofs.Naming.Dedupe

/-!
# Distinct names

Each namespace of a named model is a row of choices: of the names of records and of references, of
both SQL-style names together, of the properties of one entity and of the to-one relationships of
one entity.  A forced name of a primary key is no choice; it is free all the same, since the names
that are taken are the names of the properties before it.
-/

namespace RecordLoom

open RecordLoom.Catalog
open RecordLoom.Entity
open RecordLoom.Naming

/-- Derived names tell apart what they name, each within its namespace. -/
structure Database.DistinctNames (db : Database) : Prop where
  records : (db.entities.map (·.name)).Nodup
  properties : ∀ e ∈ db.entities, (e.properties.map (·.name)).Nodup
  references : (db.entities.map (·.referenceName)).Nodup
  rawNames : (db.entities.flatMap fun e => [e.singularName, e.pluralName]).Nodup
  toOne : ∀ e ∈ db.entities, (e.toOne.map (·.name)).Nodup

namespace Naming

variable (o : Options)

/-! ## Records and properties -/

theorem records_chosen (entities : List Entity) (taken : Taken) :
    ChosenFrom taken.records ((renameEntities o taken entities).map (·.1.name)) := by
  induction entities generalizing taken with
  | nil => exact .nil _
  | cons e rest ih => exact .cons (o.recordName e.name).1 (ih (renameEntity o taken e).2.2)

theorem references_chosen (entities : List Entity) (taken : Taken) :
    ChosenFrom taken.references ((renameEntities o taken entities).map (·.1.referenceName)) := by
  induction entities generalizing taken with
  | nil => exact .nil _
  | cons e rest ih => exact .cons _ (ih (renameEntity o taken e).2.2)

theorem rawNames_chosen (entities : List Entity) (taken : Taken) :
    ChosenFrom taken.rawNames
      ((renameEntities o taken entities).flatMap fun x => [x.1.singularName, x.1.pluralName]) := by
  induction entities generalizing taken with
  | nil => exact .nil _
  | cons e rest ih => exact .cons _ (.cons _ (ih (renameEntity o taken e).2.2))

theorem renameProperties_chosen (e : Entity) (rest : List Property) :
    ∀ (taken : List String) (renamed : List Property),
      (∀ n ∈ taken, n ∈ renamed.map (·.name)) →
      ∃ tail, renameProperties o e taken renamed rest = renamed.reverse ++ tail ∧
        ChosenFrom taken (tail.map (·.name)) := by
  induction rest with
  | nil => exact fun taken renamed _ => ⟨[], by simp [renameProperties], .nil taken⟩
  | cons p rest ih =>
      intro taken renamed htaken
      have hfree : takesForcedName e o.forcedName p (renamed ++ rest) = true →
          o.forcedName ∉ taken := by
        intro hforced hmem
        obtain ⟨q, hq, hname⟩ := List.mem_map.mp (htaken _ hmem)
        have hothers := (Bool.and_eq_true_iff.mp hforced).2
        rw [Bool.not_eq_true', List.any_eq_false] at hothers
        exact hothers q (List.mem_append_left _ hq) (by simp [hname])
      rw [renameProperties_cons]
      generalize hname : o.chosenName e taken p (renamed ++ rest) = name
      have hclaim : ∀ n ∈ claim name taken, n ∈ ({ p with name } :: renamed).map (·.name) := by
        intro n hn
        rcases mem_claim.mp hn with rfl | hn
        · simp
        · simpa using .inr (by simpa using htaken n hn)
      obtain ⟨tail, htail, hchosen⟩ := ih _ _ hclaim
      refine ⟨{ p with name } :: tail, by simp [htail], ?_⟩
      rw [Options.chosenName] at hname
      split at hname
      case isTrue hforced => exact .cons_of_not_mem (hname ▸ hfree hforced) hchosen
      case isFalse =>
        subst hname
        exact .cons (o.propertyName p.name) hchosen

theorem renameEntity_chosen (e : Entity) (taken : Taken) :
    ChosenFrom [] ((renameEntity o taken e).1.properties.map (·.name)) := by
  obtain ⟨tail, htail, hchosen⟩ := renameProperties_chosen o e e.properties [] [] (by simp)
  have hproperties : (renameEntity o taken e).1.properties = tail := by
    simpa [renameEntity] using htail
  rwa [hproperties]

theorem exists_renameEntity {entities : List Entity} {taken : Taken} {e : Entity}
    (h : e ∈ (renameEntities o taken entities).map (·.1)) :
    ∃ before ∈ entities, ∃ taken, e = (renameEntity o taken before).1 := by
  induction entities generalizing taken with
  | nil => simp [renameEntities] at h
  | cons first rest ih =>
      rcases List.mem_cons.mp h with rfl | h
      · exact ⟨first, List.mem_cons_self, taken, rfl⟩
      · obtain ⟨before, hbefore, found⟩ := ih h
        exact ⟨before, List.mem_cons_of_mem _ hbefore, found⟩

/-! ## Relationships -/

theorem outgoing_relate (source : Source) (state : KeyState) (p : Property) (key : ForeignKey)
    (destination : Entity) (position : Nat) (target : Property) :
    (outgoing (relate o source state p key destination position target).1).map
        (·.relationship.name) = [(dedupe (o.relationshipName p) state.names).1] := by
  unfold relate outgoing
  cases o.reverseRelationships <;> rfl

theorem outgoing_names (entities : List Entity) (source : Source) (state : KeyState)
    (keyed : List (Property × ForeignKey)) :
    (outgoing (relateKeys o entities source state keyed).1).map (·.relationship.name) =
      freeNames state.names
        ((keyReferences entities keyed).map fun k => o.relationshipName k.property) := by
  induction keyed generalizing state with
  | nil => rfl
  | cons head rest ih =>
      obtain ⟨p, key⟩ := head
      rw [relateKeys, keyReferences_cons]
      cases resolve entities key with
      | unknownTable => exact ih state
      | unknownColumn destination => exact ih state
      | resolved destination position target =>
          rw [outgoing_append, List.map_append, outgoing_relate]
          exact congrArg _ (ih (relate o source state p key destination position target).2)

theorem length_outgoing_le (entities : List Entity) (e : Entity) (position : Nat) :
    (outgoing (relateEntity o entities e position).1).length ≤ e.properties.length := by
  have hlinks := congrArg List.length (outgoing_relateEntity o entities e position)
  rw [List.length_map, List.length_map] at hlinks
  rw [hlinks]
  exact (List.length_filterMap_le ..).trans (List.length_filterMap_le ..)

/-! ## The named model -/

theorem map_attach {β : Type} (edges : List Edge) (entities : List Entity) {f : Entity → β}
    (hf : ∀ e position, f (attached edges e position) = f e) :
    (attach edges entities).map f = entities.map f := by
  simp only [List.map_eq_flatMap]
  exact flatMap_attach entities edges fun e position => by rw [hf]

def Options.edges (entities : List Entity) : List Edge :=
  if o.deriveRelationships then (relateAll o (o.named entities)).1 else []

theorem refine_entities (db : Database) :
    (refine o db).entities = attach (o.edges db.entities) (o.named db.entities) := by
  change (o.relationshipPass (o.named db.entities)).1 = _
  unfold Options.relationshipPass Options.edges
  cases o.deriveRelationships <;> rfl

theorem Refined.exists_length {before after : List Entity} (h : Refined before after) {e : Entity}
    (he : e ∈ after) : ∃ e₀ ∈ before, e.properties.length = e₀.properties.length := by
  obtain ⟨e₀, hmem, hrefines⟩ := h.exists_before he
  exact ⟨e₀, hmem, hrefines.properties.length_eq.symm⟩

theorem properties_chosen {db : Database} {e : Entity} (he : e ∈ (refine o db).entities) :
    ChosenFrom [] (e.properties.map (·.name)) := by
  rw [refine_entities] at he
  obtain ⟨before, position, hat, rfl⟩ := mem_attach _ he
  obtain ⟨keyed, -, taken, rfl⟩ := exists_renameEntity o (List.mem_of_getElem? hat)
  exact renameEntity_chosen o keyed taken

theorem toOne_chosen {db : Database} {e : Entity} (he : e ∈ (refine o db).entities) :
    ChosenFrom [] (e.toOne.map (·.name)) ∧ e.toOne.length ≤ e.properties.length := by
  rw [refine_entities] at he
  obtain ⟨before, position, hat, rfl⟩ := mem_attach _ he
  rw [toOne_attached, List.map_map, List.length_map]
  unfold Options.edges
  cases o.deriveRelationships with
  | false => exact ⟨.nil [], Nat.zero_le _⟩
  | true =>
      rw [if_pos rfl, outgoing_owned o _ hat]
      refine ⟨?_, length_outgoing_le o _ before position⟩
      have hnames := outgoing_names o (o.named db.entities)
        ⟨before, position, keyedProperties before⟩ ⟨[], [], []⟩ (keyedProperties before)
      exact hnames ▸ chosenFrom_freeNames [] _

/-- In a model that is not huge every choice is free. -/
theorem refine_distinctNames {db : Database} (hentities : db.entities.length ≤ 500)
    (hproperties : ∀ e ∈ db.entities, e.properties.length ≤ 1001) :
    (refine o db).DistinctNames := by
  have hlength : (renameEntities o .none (o.keyed db.entities)).length ≤ 500 := by
    have hsame := (named_refined o db.entities).length_eq
    rw [named_eq, List.length_map] at hsame
    omega
  have hfew : ∀ e ∈ (refine o db).entities, e.properties.length ≤ dedupeLimit + 1 := by
    intro e he
    obtain ⟨e₀, hmem, hsame⟩ := (refine_refined o db).exists_length he
    exact hsame ▸ hproperties e₀ hmem
  constructor
  case records =>
    rw [refine_entities, map_attach _ _ fun _ _ => rfl, named_eq, List.map_map]
    refine (records_chosen o _ .none).nodup_of_length_le ?_
    rw [List.length_map, dedupeLimit]
    omega
  case references =>
    rw [refine_entities, map_attach _ _ fun _ _ => rfl, named_eq, List.map_map]
    refine (references_chosen o _ .none).nodup_of_length_le ?_
    rw [List.length_map, dedupeLimit]
    omega
  case rawNames =>
    rw [refine_entities, flatMap_attach _ _ fun _ _ => rfl, named_eq, List.flatMap_map]
    refine (rawNames_chosen o _ .none).nodup_of_length_le ?_
    have htwo : ∀ results : List (Entity × List Finding),
        (results.flatMap fun x => [x.1.singularName, x.1.pluralName]).length =
          2 * results.length := by
      simp [List.length_flatMap, Nat.mul_comm]
    rw [htwo, dedupeLimit]
    omega
  case properties =>
    intro e he
    refine (properties_chosen o he).nodup_of_length_le ?_
    rw [List.length_map]
    exact hfew e he
  case toOne =>
    intro e he
    obtain ⟨hchosen, hle⟩ := toOne_chosen o he
    refine hchosen.nodup_of_length_le ?_
    rw [List.length_map]
    exact hle.trans (hfew e he)

/-- A choice is free wherever there is one to make, and naming makes all of its choices so. -/
theorem names_keptApart (o : Options) (db : Database) (hentities : db.entities.length ≤ 500)
    (hproperties : ∀ e ∈ db.entities, e.properties.length ≤ 1001) :
    (∀ name taken, Chooses name taken (dedupe name taken)) ∧ (refine o db).DistinctNames :=
  ⟨dedupe_chooses, refine_distinctNames o hentities hproperties⟩

theorem albumSchema_keptApart :
    let db := Database.ofSchema albumSchema "albums"
    db.entities.length ≤ 500 ∧ (∀ e ∈ db.entities, e.properties.length ≤ 1001) ∧
      (refine { Options.default with forcePrimaryKeyName := some "label" } db).DistinctNames := by
  intro db
  have hentities : db.entities.length ≤ 500 := by decide
  have hproperties : ∀ e ∈ db.entities, e.properties.length ≤ 1001 := by decide
  exact ⟨hentities, hproperties, (names_keptApart _ db hentities hproperties).2⟩

end Naming

end RecordLoom
