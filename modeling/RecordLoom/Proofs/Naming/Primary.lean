import RecordLoom.Proofs.Naming.Qualifiers

/-!
# Primary relationships

Of the keys that lead from one entity to another at most one is primary, and so is at most one of
the relationships back.  Both marks are given key by key, to the first key into a table that
qualifies.  A key that is called after what it refers to qualifies in both directions.  Ahead, a key
qualifies as well if its entity has no other one into the same table, and back only if its entity
has no other one at all.
-/

namespace RecordLoom

open RecordLoom.Catalog
open RecordLoom.Entity
open RecordLoom.Naming

namespace Entity.Reference

def place (k : Reference) : String := Text.lower k.destination.raw

def isNamesake (k : Reference) : Bool := Naming.isNamesake k.property k.destination k.target

end Entity.Reference

namespace Naming

/-! ## The first key into a table that qualifies -/

def IsFirst (qualifies : Reference → Prop) (earlier : List Reference) (k : Reference) : Prop :=
  qualifies k ∧ ∀ other ∈ earlier, other.place = k.place → ¬qualifies other

def UsedUp (qualifies : Reference → Prop) (earlier : List Reference) (used : List String) : Prop :=
  ∀ place, place ∈ used ↔ ∃ k ∈ earlier, k.place = place ∧ qualifies k

section

variable {qualifies : Reference → Prop} {earlier : List Reference} {used : List String}

theorem usedUp_nil : UsedUp qualifies [] [] := by simp [UsedUp]

theorem UsedUp.choosePrimary_iff (h : UsedUp qualifies earlier used) {k : Reference}
    {alone namesake : Bool} (hk : qualifies k ↔ (alone || namesake) = true) :
    choosePrimary used k.place alone namesake = true ↔ IsFirst qualifies earlier k := by
  rw [choosePrimary_eq_true_iff, h, ← hk, IsFirst, and_comm]
  simp

theorem UsedUp.markUsed (h : UsedUp qualifies earlier used) {k : Reference}
    {alone namesake : Bool} (hk : qualifies k ↔ (alone || namesake) = true) :
    UsedUp qualifies (earlier ++ [k])
      (markUsed used k.place (choosePrimary used k.place alone namesake)) := by
  intro place
  have hchosen := h.choosePrimary_iff hk
  simp only [List.mem_append, List.mem_singleton, or_and_right, exists_or, exists_eq_left,
    ← h place]
  unfold Naming.markUsed
  split
  case isTrue hprimary =>
    have hqualifies := (hchosen.mp hprimary).1
    simp [hqualifies, or_comm, eq_comm]
  case isFalse hprimary =>
    -- A key that qualifies and is not chosen comes after one that was.
    refine ⟨.inl, fun hplace => hplace.elim id ?_⟩
    rintro ⟨rfl, hqualifies⟩
    by_contra hfree
    refine hprimary (hchosen.mpr ⟨hqualifies, fun other hother hsame hother' => hfree ?_⟩)
    exact (h k.place).mpr ⟨other, hother, hsame, hother'⟩

end

/-! ## The keys of one entity -/

/-- Whether a key may be primary ahead. -/
def QualifiesAhead (keyed : List (Property × ForeignKey)) (k : Reference) : Prop :=
  countKeysTo keyed k.destination.raw ≤ 1 ∨ k.isNamesake = true

/-- Whether a key may be primary back. -/
def QualifiesBack (keyed : List (Property × ForeignKey)) (k : Reference) : Prop :=
  keyed.length = 1 ∨ k.isNamesake = true

/-- A key that is followed, with the edges that come of it. -/
structure Step where
  reference : Reference
  ahead : Edge
  back : Edge

def Step.edges (o : Options) (x : Step) : List Edge :=
  x.ahead :: if o.reverseRelationships then [x.back] else []

def Step.link (source : Entity) (x : Step) : Link :=
  ⟨source.raw, x.reference.property.column, x.reference.destination.raw,
    x.reference.target.column, x.reference.property.foreignKeyDetected⟩

/-- What the edges of a key are, by the keys that came before it. -/
structure Step.Follows (entities : List Entity) (owner : Source) (earlier : List Reference)
    (x : Step) : Prop where
  toOne : x.ahead.relationship.toMany = false
  toMany : x.back.relationship.toMany = true
  position : x.ahead.owner = owner.position
  backPosition : entities[x.back.owner]? = some x.reference.destination
  link : Link.of owner.entity x.ahead.relationship = x.link owner.entity
  backLink : Link.of x.reference.destination x.back.relationship = x.link owner.entity
  primary : x.ahead.relationship.primary = true ↔
    IsFirst (QualifiesAhead owner.keyed) earlier x.reference
  backPrimary : x.back.relationship.primary = true ↔
    IsFirst (QualifiesBack owner.keyed) earlier x.reference
  qualifier : x.back.relationship.qualifier =
    if x.back.relationship.primary then none else some x.ahead.relationship.name

theorem relate_step (o : Options) {entities : List Entity} (owner : Source) (state : KeyState)
    (p : Property) {key : ForeignKey} {destination : Entity} {position : Nat} {target : Property}
    (hresolve : resolve entities key = .resolved destination position target)
    {earlier : List Reference}
    (hahead : UsedUp (QualifiesAhead owner.keyed) earlier state.primaryToOne)
    (hback : UsedUp (QualifiesBack owner.keyed) earlier state.primaryToMany) :
    ∃ x : Step, x.reference = ⟨p, destination, target⟩ ∧
      (relate o owner state p key destination position target).1 = x.edges o ∧
      x.Follows entities owner earlier ∧
      UsedUp (QualifiesAhead owner.keyed) (earlier ++ [x.reference])
        (relate o owner state p key destination position target).2.primaryToOne ∧
      UsedUp (QualifiesBack owner.keyed) (earlier ++ [x.reference])
        (relate o owner state p key destination position target).2.primaryToMany := by
  have hsame : countKeysTo owner.keyed key.table = countKeysTo owner.keyed destination.raw := by
    rw [countKeysTo, countKeysTo, lower_of_resolve hresolve]
  have hqahead : QualifiesAhead owner.keyed ⟨p, destination, target⟩ ↔
      (decide (countKeysTo owner.keyed key.table ≤ 1) || isNamesake p destination target) =
        true := by
    simp [QualifiesAhead, hsame, Reference.isNamesake]
  have hqback : QualifiesBack owner.keyed ⟨p, destination, target⟩ ↔
      (owner.keyed.length == 1 || isNamesake p destination target) = true := by
    simp [QualifiesBack, Reference.isNamesake]
  have hused := hahead.markUsed hqahead
  have hbackUsed := hback.markUsed hqback
  have hprimary := hahead.choosePrimary_iff hqahead
  have hbackPrimary := hback.choosePrimary_iff hqback
  have hplace : Reference.place ⟨p, destination, target⟩ = Text.lower destination.raw := rfl
  rw [hplace] at hused hbackUsed hprimary hbackPrimary
  dsimp only [relate, dedupe]
  generalize choosePrimary state.primaryToOne (Text.lower destination.raw) _ _ = primary at *
  generalize choosePrimary state.primaryToMany (Text.lower destination.raw) _ _ = backPrimary at *
  exact ⟨⟨⟨p, destination, target⟩, _, _⟩, rfl, rfl,
    ⟨rfl, rfl, rfl, getElem?_of_resolve hresolve, rfl, rfl, hprimary, hbackPrimary, rfl⟩, hused,
    hbackUsed⟩

structure Steps (o : Options) (entities : List Entity) (owner : Source)
    (keyed : List (Property × ForeignKey)) (earlier : List Reference) (edges : List Edge)
    (steps : List Step) : Prop where
  references : steps.map (·.reference) = keyReferences entities keyed
  edges : edges = steps.flatMap (Step.edges o)
  follows : ∀ before x after, steps = before ++ x :: after →
    x.Follows entities owner (earlier ++ before.map (·.reference))

theorem Steps.cons {o : Options} {entities : List Entity} {owner : Source} {p : Property}
    {key : ForeignKey} {keyed : List (Property × ForeignKey)} {earlier : List Reference}
    {edges : List Edge} {x : Step} {rest : List Step}
    (hreference : (resolve entities key).reference? p = some x.reference)
    (hx : x.Follows entities owner earlier)
    (hrest : Steps o entities owner keyed (earlier ++ [x.reference]) edges rest) :
    Steps o entities owner ((p, key) :: keyed) earlier (x.edges o ++ edges) (x :: rest) where
  references := by
    rw [List.map_cons, hrest.references, keyReferences_cons, hreference]
    rfl
  edges := by rw [hrest.edges, List.flatMap_cons]
  follows before y after hsplit := by
    cases before with
    | nil =>
        obtain ⟨rfl, -⟩ := List.cons.inj hsplit
        simpa using hx
    | cons first before =>
        obtain ⟨rfl, htail⟩ := List.cons.inj hsplit
        simpa using hrest.follows before y after htail

theorem Steps.skip {o : Options} {entities : List Entity} {owner : Source} {p : Property}
    {key : ForeignKey} {keyed : List (Property × ForeignKey)} {earlier : List Reference}
    {edges : List Edge} {steps : List Step}
    (hreference : (resolve entities key).reference? p = none)
    (h : Steps o entities owner keyed earlier edges steps) :
    Steps o entities owner ((p, key) :: keyed) earlier edges steps where
  references := by
    rw [h.references, keyReferences_cons, hreference]
    rfl
  edges := h.edges
  follows := h.follows

theorem exists_steps (o : Options) (entities : List Entity) (owner : Source)
    (keyed : List (Property × ForeignKey)) :
    ∀ (state : KeyState) (earlier : List Reference),
      UsedUp (QualifiesAhead owner.keyed) earlier state.primaryToOne →
      UsedUp (QualifiesBack owner.keyed) earlier state.primaryToMany →
      ∃ steps, Steps o entities owner keyed earlier
        (relateKeys o entities owner state keyed).1 steps := by
  induction keyed with
  | nil => exact fun state earlier _ _ => ⟨[], rfl, rfl, fun before x after h => by simp at h⟩
  | cons head rest ih =>
      obtain ⟨p, key⟩ := head
      intro state earlier hahead hback
      rw [relateKeys]
      cases hresolve : resolve entities key with
      | unknownTable =>
          obtain ⟨steps, hsteps⟩ := ih state earlier hahead hback
          exact ⟨steps, hsteps.skip (by rw [hresolve]; rfl)⟩
      | unknownColumn destination =>
          obtain ⟨steps, hsteps⟩ := ih state earlier hahead hback
          exact ⟨steps, hsteps.skip (by rw [hresolve]; rfl)⟩
      | resolved destination position target =>
          obtain ⟨x, hreference, hedges, hx, hahead, hback⟩ :=
            relate_step o owner state p hresolve hahead hback
          obtain ⟨steps, hsteps⟩ := ih _ _ hahead hback
          dsimp only
          rw [hedges]
          exact ⟨x :: steps, hsteps.cons (by rw [hresolve, hreference]; rfl) hx⟩

section

variable {o : Options} {entities : List Entity} {owner : Source}
  {keyed : List (Property × ForeignKey)} {edges : List Edge} {steps : List Step}
  (h : Steps o entities owner keyed [] edges steps)

include h

theorem Steps.exists_follows {x : Step} (hx : x ∈ steps) :
    ∃ earlier, x.Follows entities owner earlier := by
  obtain ⟨before, after, hsplit⟩ := List.append_of_mem hx
  exact ⟨_, h.follows before x after hsplit⟩

theorem Steps.outgoing : outgoing edges = steps.map (·.ahead) := by
  rw [h.edges, Naming.outgoing, List.filter_flatMap, List.map_eq_flatMap]
  refine List.flatMap_congr fun x hx => ?_
  obtain ⟨earlier, hfollows⟩ := h.exists_follows hx
  cases hreverse : o.reverseRelationships <;>
    simp [Step.edges, hreverse, hfollows.toOne, hfollows.toMany]

theorem Steps.incoming :
    incoming edges = if o.reverseRelationships then steps.map (·.back) else [] := by
  rw [h.edges, Naming.incoming, List.filter_flatMap, List.map_eq_flatMap]
  cases hreverse : o.reverseRelationships with
  | false =>
      refine List.flatMap_eq_nil_iff.mpr fun x hx => ?_
      obtain ⟨earlier, hfollows⟩ := h.exists_follows hx
      simp [Step.edges, hreverse, hfollows.toOne]
  | true =>
      refine List.flatMap_congr fun x hx => ?_
      obtain ⟨earlier, hfollows⟩ := h.exists_follows hx
      simp [Step.edges, hreverse, hfollows.toOne, hfollows.toMany]

theorem Steps.pairwise {marked : Step → Prop} {qualifies : Reference → Prop}
    (hmarked : ∀ x earlier, x.Follows entities owner earlier →
      (marked x ↔ IsFirst qualifies earlier x.reference)) :
    steps.Pairwise fun x y => x.reference.place = y.reference.place → ¬(marked x ∧ marked y) := by
  rw [List.pairwise_iff_getElem]
  rintro i j hi hj hij hplace ⟨hx, hy⟩
  have hsplit : ∀ n (hn : n < steps.length),
      steps = steps.take n ++ steps[n] :: steps.drop (n + 1) :=
    fun n hn => by rw [List.getElem_cons_drop, List.take_append_drop]
  have hfirst := (hmarked _ _ (h.follows _ _ _ (hsplit i hi))).mp hx
  have hsecond := (hmarked _ _ (h.follows _ _ _ (hsplit j hj))).mp hy
  have hearlier : steps[i].reference ∈ [] ++ (steps.take j).map (·.reference) := by
    refine List.mem_map_of_mem (List.mem_take_iff_getElem.mpr ⟨i, ?_, rfl⟩)
    omega
  exact hsecond.2 _ hearlier hplace hfirst.1

end

/-! ## Keys between two entities -/

theorem countP_keyReferences_le (entities : List Entity) (keyed : List (Property × ForeignKey))
    (raw : String) :
    (keyReferences entities keyed).countP (·.place == Text.lower raw) ≤ countKeysTo keyed raw := by
  rw [keyReferences, List.countP_filterMap]
  refine List.countP_mono_left fun pair _ hplace => ?_
  obtain ⟨p, key⟩ := pair
  cases hresolve : resolve entities key with
  | unknownTable | unknownColumn => simp [hresolve, Resolution.reference?] at hplace
  | resolved destination position target =>
      have hlower := lower_of_resolve hresolve
      simpa [hresolve, Resolution.reference?, Reference.place, hlower] using hplace

end Naming

namespace Entity

/-- Whether a key is the only one of an entity into its table. -/
def Reference.IsAlone (e : Entity) (k : Reference) : Prop :=
  countKeysTo (keyedProperties e) k.destination.raw ≤ 1

/-- Whether a key of an entity is primary ahead and not back. -/
def Reference.IsOneWay (e : Entity) (k : Reference) : Prop :=
  k.IsAlone e ∧ (keyedProperties e).length ≠ 1 ∧ k.isNamesake = false

/-- The relationship along a key. -/
structure Reference.Ahead (e : Entity) (k : Reference) (r : Relationship) : Prop where
  source : r.source = k.property.column
  destination : r.destination = k.destination.raw
  target : r.target = k.target.column
  alone : k.IsAlone e → r.primary = true
  several : ¬k.IsAlone e → r.primary = true → k.isNamesake = true

/-- The relationship back along a key, beside the one ahead. -/
structure Reference.Back (e : Entity) (k : Reference) (r back : Relationship) : Prop where
  mirrors : r.isMirroredBy e back = true
  qualifier : back.qualifier = if back.primary then none else some r.name
  primary : back.primary = true ↔ r.primary = true ∧ ¬k.IsOneWay e

section

variable {e : Entity} {k : Reference} {r back : Relationship} (edges : List Edge)
  (position place : Nat)

theorem Reference.Ahead.attached (h : k.Ahead e r) :
    Reference.Ahead (Naming.attached edges e position)
      { k with destination := Naming.attached edges k.destination place } r :=
  ⟨h.source, h.destination, h.target, h.alone, h.several⟩

theorem Reference.Back.attached (h : k.Back e r back) :
    Reference.Back (Naming.attached edges e position)
      { k with destination := Naming.attached edges k.destination place } r back :=
  ⟨h.mirrors, h.qualifier, h.primary⟩

end

end Entity

namespace Naming

section

variable {o : Options} {entities : List Entity} {e : Entity} {position : Nat}
  {edges : List Edge} {steps : List Step}
  (h : Steps o entities ⟨e, position, keyedProperties e⟩ (keyedProperties e) [] edges steps)

include h

theorem Steps.earlier_of_alone {before after : List Step} {x : Step}
    (hsplit : steps = before ++ x :: after) (halone : x.reference.IsAlone e) :
    ∀ other ∈ before.map (·.reference), other.place ≠ x.reference.place := by
  have hcount := countP_keyReferences_le entities (keyedProperties e) x.reference.destination.raw
  have hself : (x.reference.place == Text.lower x.reference.destination.raw) = true :=
    beq_self_eq_true _
  rw [← h.references, hsplit, List.map_append, List.map_cons, List.countP_append,
    List.countP_cons, if_pos hself] at hcount
  unfold Reference.IsAlone at halone
  have hnone : (before.map (·.reference)).countP
      (·.place == Text.lower x.reference.destination.raw) = 0 := by omega
  intro other hother hplace
  exact List.countP_eq_zero.mp hnone other hother (beq_iff_eq.mpr hplace)

theorem Steps.ahead {x : Step} (hx : x ∈ steps) :
    x.reference.Ahead e x.ahead.relationship := by
  obtain ⟨before, after, hsplit⟩ := List.append_of_mem hx
  have hfollows := h.follows before x after hsplit
  have hlink := hfollows.link
  rw [Link.of_toOne hfollows.toOne, Step.link, Link.mk.injEq] at hlink
  refine ⟨hlink.2.1, hlink.2.2.1, hlink.2.2.2.1, fun halone => ?_, fun hseveral hprimary => ?_⟩
  · exact hfollows.primary.mpr ⟨.inl halone, fun other hother hplace =>
      absurd hplace (h.earlier_of_alone hsplit halone other hother)⟩
  · exact (hfollows.primary.mp hprimary).1.resolve_left hseveral

theorem Steps.back {x : Step} (hx : x ∈ steps) :
    x.reference.Back e x.ahead.relationship x.back.relationship := by
  obtain ⟨before, after, hsplit⟩ := List.append_of_mem hx
  have hfollows := h.follows before x after hsplit
  refine ⟨?mirrors, hfollows.qualifier, ?primary⟩
  case mirrors =>
    have hlink := hfollows.link
    have hback := hfollows.backLink
    rw [Link.of_toOne hfollows.toOne, Step.link, Link.mk.injEq] at hlink
    rw [Link.of_toMany hfollows.toMany, Step.link, Link.mk.injEq] at hback
    simp [Relationship.isMirroredBy, hlink, hback]
  case primary =>
    rw [hfollows.primary, hfollows.backPrimary]
    by_cases halone : x.reference.IsAlone e
    case pos =>
      have hfree := h.earlier_of_alone hsplit halone
      have hahead : IsFirst (QualifiesAhead (keyedProperties e)) ([] ++ before.map (·.reference))
          x.reference :=
        ⟨.inl halone, fun other hother hplace => absurd hplace (hfree other hother)⟩
      have hback : IsFirst (QualifiesBack (keyedProperties e)) ([] ++ before.map (·.reference))
          x.reference ↔ QualifiesBack (keyedProperties e) x.reference :=
        and_iff_left fun other hother hplace => absurd hplace (hfree other hother)
      rw [hback]
      simp only [hahead, true_and, Reference.IsOneWay, halone, QualifiesBack]
      cases x.reference.isNamesake <;> simp
    case neg =>
      -- Among several keys into a table only the namesakes qualify, in either direction.
      have hlength : countKeysTo (keyedProperties e) x.reference.destination.raw ≤
          (keyedProperties e).length := List.countP_le_length
      have hsame : ∀ other : Reference, other.place = x.reference.place →
          (QualifiesBack (keyedProperties e) other ↔ QualifiesAhead (keyedProperties e) other) := by
        intro other hplace
        have hcount : countKeysTo (keyedProperties e) other.destination.raw =
            countKeysTo (keyedProperties e) x.reference.destination.raw := by
          unfold Reference.place at hplace
          rw [countKeysTo, countKeysTo, hplace]
        unfold Reference.IsAlone at halone
        unfold QualifiesBack QualifiesAhead
        rw [or_iff_right (by omega), or_iff_right (by omega)]
      have hways : ¬x.reference.IsOneWay e := fun hone => halone hone.1
      rw [and_iff_left hways, IsFirst, IsFirst, hsame _ rfl]
      refine and_congr_right fun _ => forall₂_congr fun other _ => ?_
      exact imp_congr_right fun hplace => not_congr (hsame other hplace)

end

end Naming

/-! ## The named model -/

def Entity.toOneTo (e d : Entity) : List Relationship := e.toOne.filter (·.destination == d.raw)

def Entity.toManyFrom (d e : Entity) : List Relationship := d.toMany.filter (·.destination == e.raw)

def Database.keysInto (db : Database) (e d : Entity) : List Reference :=
  e.properties.filterMap fun p => p.foreignKey.bind fun key =>
    (db.entity? key.table).bind fun found =>
      if found.raw = d.raw then (found.referred? key).map fun target => ⟨p, d, target⟩ else none

/-- What the flags of the relationships between two entities are.  Along each key there is one
relationship ahead, if they are derived at all, and with `reverse` one back. -/
structure Database.MarksPrimaries (db : Database) (derive reverse : Bool) (e d : Entity) :
    Prop where
  ahead : List.Forall₂ (Reference.Ahead e) (if derive then db.keysInto e d else []) (e.toOneTo d)
  back : List.Forall₂ (fun (pair : Reference × Relationship) => pair.1.Back e pair.2)
    (if reverse then (db.keysInto e d).zip (e.toOneTo d) else []) (d.toManyFrom e)
  aheadOnce : (e.toOneTo d).Pairwise fun r s => ¬(r.primary = true ∧ s.primary = true)
  backOnce : (d.toManyFrom e).Pairwise fun r s => ¬(r.primary = true ∧ s.primary = true)

namespace Naming

theorem keysInto_attach {db : Database} {edges : List Edge} {entities : List Entity}
    (hdb : db.entities = attach edges entities) (e d : Entity) :
    db.keysInto e d =
      ((keyReferences entities (keyedProperties e)).filter (·.destination.raw == d.raw)).map
        fun k => { k with destination := d } := by
  unfold keyReferences keyedProperties
  rw [List.filterMap_filterMap, List.filter_filterMap, List.map_filterMap]
  refine List.filterMap_congr fun p _ => ?_
  cases p.foreignKey with
  | none => rfl
  | some key =>
      have hleads := resolve_leads hdb key
      simp only [Option.bind_some, Option.map_some]
      generalize resolve entities key = resolution at hleads ⊢
      cases hleads with
      | unknownTable hnone => simp [hnone, Resolution.reference?]
      | unknownColumn hentity hnone => simp [hentity, hnone, Resolution.reference?]
      | @resolved destination position target hentity htarget =>
          have hraw : (attached edges destination position).raw = destination.raw := rfl
          simp only [hentity, Option.bind_some, htarget, hraw]
          by_cases hsame : destination.raw = d.raw <;> simp [Resolution.reference?, hsame]

def stepsInto (steps : List Step) (d : Entity) : List Step :=
  steps.filter (·.reference.destination.raw == d.raw)

section

variable {o : Options} {entities : List Entity} {e d : Entity} {position place : Nat}
  {steps : List Step}
  (h : Steps o entities ⟨e, position, keyedProperties e⟩ (keyedProperties e) []
    (relateEntity o entities e position).1 steps)
  (he : entities[position]? = some e) (hd : entities[place]? = some d)

theorem Step.Follows.backOwner {owner : Source} {earlier : List Reference} {x : Step}
    (h : x.Follows entities owner earlier) (hd : entities[place]? = some d)
    (hraws : (entities.map (·.raw)).Nodup) :
    (x.back.owner == place) = (x.reference.destination.raw == d.raw) := by
  rw [Bool.eq_iff_iff, beq_iff_eq, beq_iff_eq]
  constructor
  · intro howner
    have hat := h.backPosition
    rw [howner, hd] at hat
    exact congrArg Entity.raw (Option.some.inj hat).symm
  · intro hraw
    obtain ⟨hlt, -⟩ := List.getElem?_eq_some_iff.mp h.backPosition
    refine (List.getElem?_inj (by simpa using hlt) hraws).mp ?_
    rw [List.getElem?_map, List.getElem?_map, h.backPosition, hd, Option.map_some, Option.map_some,
      hraw]

include h

theorem Steps.keysInto {db : Database} {edges : List Edge}
    (hdb : db.entities = attach edges entities) (d : Entity) :
    db.keysInto (attached edges e position) d =
      (stepsInto steps d).map fun x => { x.reference with destination := d } := by
  have hreferences : keyReferences entities (keyedProperties (attached edges e position)) =
      steps.map (·.reference) := h.references.symm
  rw [keysInto_attach hdb, hreferences, List.filter_map, List.map_map]
  rfl

/-- Of the keys into one entity at most one is the first that qualifies. -/
theorem Steps.pairwise_into {marked : Step → Prop} {qualifies : Reference → Prop}
    (hmarked : ∀ x earlier, x.Follows entities ⟨e, position, keyedProperties e⟩ earlier →
      (marked x ↔ IsFirst qualifies earlier x.reference)) (d : Entity) :
    (stepsInto steps d).Pairwise fun x y => ¬(marked x ∧ marked y) := by
  refine ((h.pairwise hmarked).filter _).imp_of_mem fun hx hy h => h ?_
  have hx := beq_iff_eq.mp (List.mem_filter.mp hx).2
  have hy := beq_iff_eq.mp (List.mem_filter.mp hy).2
  rw [Reference.place, Reference.place, hx, hy]

theorem Steps.destination_of_mem_into (hd : entities[place]? = some d)
    (hraws : (entities.map (·.raw)).Nodup) {x : Step} (hx : x ∈ stepsInto steps d) :
    x ∈ steps ∧ x.reference.destination = d := by
  obtain ⟨hx, hraw⟩ := List.mem_filter.mp hx
  obtain ⟨earlier, hfollows⟩ := h.exists_follows hx
  exact ⟨hx, List.inj_on_of_nodup_map hraws (List.mem_of_getElem? hfollows.backPosition)
    (List.mem_of_getElem? hd) (beq_iff_eq.mp hraw)⟩

include he

theorem Steps.toOneTo (d : Entity) :
    (attached (relateAll o entities).1 e position).toOneTo d =
      (stepsInto steps d).map (·.ahead.relationship) := by
  rw [Entity.toOneTo, toOne_attached, outgoing_owned o entities he, h.outgoing, List.map_map,
    List.filter_map]
  refine congrArg _ (List.filter_congr fun x hx => ?_)
  simp [(h.ahead hx).destination]

variable (hraws : (entities.map (·.raw)).Nodup)

include hd hraws

theorem Steps.toManyFrom :
    (attached (relateAll o entities).1 d place).toManyFrom
        (attached (relateAll o entities).1 e position) =
      if o.reverseRelationships then (stepsInto steps d).map (·.back.relationship) else [] := by
  have hlabels : (entities.zipIdx.map fun x => x.1.raw).Nodup := by
    rwa [← List.zipIdx_map_fst 0 entities, List.map_map] at hraws
  -- The edges back that name `e` are those of its own keys.
  have hfrom : (Naming.incoming (relateAll o entities).1).filter
        (·.relationship.destination == e.raw) =
      if o.reverseRelationships then steps.map (·.back) else [] := by
    rw [incoming_relateAll_eq, ← h.incoming]
    have hdestination : ∀ x : Entity × Nat,
        ∀ y ∈ Naming.incoming (relateEntity o entities x.1 x.2).1,
          y.relationship.destination = x.1.raw :=
      fun x y hy => (backward_relateEntity o entities hy).2.1
    exact filter_label_flatMap hdestination hlabels (List.mk_mem_zipIdx_iff_getElem?.mpr he)
  have hraw : (attached (relateAll o entities).1 e position).raw = e.raw := rfl
  rw [Entity.toManyFrom, toMany_attached, List.filter_map, List.filter_comm, Function.comp_def,
    hraw, hfrom]
  cases o.reverseRelationships with
  | false => rfl
  | true =>
      rw [if_pos rfl, if_pos rfl, List.filter_map, List.map_map]
      refine congrArg _ (List.filter_congr fun x hx => ?_)
      obtain ⟨earlier, hfollows⟩ := h.exists_follows hx
      exact hfollows.backOwner hd hraws

end

variable {o : Options} {schema : Schema} {name : String} {e d : Entity}

theorem raws_attach (edges : List Edge) (entities : List Entity) :
    (attach edges entities).map (·.raw) = entities.map (·.raw) := by
  conv => rhs; rw [← List.zipIdx_map_fst 0 entities, List.map_map]
  rw [attach_eq, List.map_map]
  rfl

theorem marksPrimaries_attached {db : Database} {entities : List Entity}
    (hdb : db.entities = attach (relateAll o entities).1 entities)
    (hraws : (entities.map (·.raw)).Nodup) {position place : Nat}
    (he : entities[position]? = some e) (hd : entities[place]? = some d) :
    db.MarksPrimaries true o.reverseRelationships (attached (relateAll o entities).1 e position)
      (attached (relateAll o entities).1 d place) := by
  obtain ⟨steps, hsteps⟩ := exists_steps o entities ⟨e, position, keyedProperties e⟩
    (keyedProperties e) ⟨[], [], []⟩ [] usedUp_nil usedUp_nil
  -- The destination is compared by its name, which relationships do not change.
  have htoOne : (attached (relateAll o entities).1 e position).toOneTo
        (attached (relateAll o entities).1 d place) =
      (stepsInto steps d).map (·.ahead.relationship) := hsteps.toOneTo he d
  have hkeys : db.keysInto (attached (relateAll o entities).1 e position)
        (attached (relateAll o entities).1 d place) =
      (stepsInto steps d).map fun x =>
        { x.reference with destination := attached (relateAll o entities).1 d place } :=
    hsteps.keysInto hdb _
  have htoMany := hsteps.toManyFrom he hd hraws
  constructor
  case ahead =>
    rw [if_pos rfl, hkeys, htoOne, List.forall₂_map_left_iff, List.forall₂_map_right_iff,
      List.forall₂_same]
    intro x hinto
    obtain ⟨hx, rfl⟩ := hsteps.destination_of_mem_into hd hraws hinto
    exact (hsteps.ahead hx).attached ..
  case back =>
    rw [hkeys, htoOne, htoMany]
    cases o.reverseRelationships with
    | false => exact .nil
    | true =>
        rw [if_pos rfl, if_pos rfl, List.zip_map', List.forall₂_map_left_iff,
          List.forall₂_map_right_iff, List.forall₂_same]
        intro x hinto
        obtain ⟨hx, rfl⟩ := hsteps.destination_of_mem_into hd hraws hinto
        exact (hsteps.back hx).attached ..
  case aheadOnce =>
    rw [htoOne, List.pairwise_map]
    exact hsteps.pairwise_into (fun x earlier h => h.primary) d
  case backOnce =>
    rw [htoMany]
    cases o.reverseRelationships with
    | false => exact .nil
    | true =>
        rw [if_pos rfl, List.pairwise_map]
        exact hsteps.pairwise_into (fun x earlier h => h.backPrimary) d

theorem fancify_marksPrimaries (schema : Schema) (o : Options) (name : String)
    (hnames : schema.objectNames.Nodup) :
    ∀ e ∈ (fancify o schema name).entities, ∀ d ∈ (fancify o schema name).entities,
      (fancify o schema name).MarksPrimaries o.deriveRelationships o.reverseRelationships e d := by
  intro e he d hd
  cases hderive : o.deriveRelationships with
  | false =>
      have hahead : e.toOneTo d = [] := by
        rw [Entity.toOneTo, Entity.toOne, fancify_withoutRelationships hderive he]
        rfl
      have hback : d.toManyFrom e = [] := by
        rw [Entity.toManyFrom, Entity.toMany, fancify_withoutRelationships hderive hd]
        rfl
      constructor <;> simp [hahead, hback]
  | true =>
      have hentities : (fancify o schema name).entities = _ := fancify_entities hderive
      have hraws : ((o.namedSchema schema name).map (·.raw)).Nodup := by
        have hraws := fancify_raws o schema name ▸ hnames
        rwa [hentities, raws_attach] at hraws
      have he' := he
      have hd' := hd
      rw [hentities] at he' hd'
      obtain ⟨source, position, hsource, rfl⟩ := mem_attach _ he'
      obtain ⟨destination, place, hdestination, rfl⟩ := mem_attach _ hd'
      exact marksPrimaries_attached hentities hraws hsource hdestination

def orderSchema : Schema :=
  let column (id : Int) (name : String) (primaryKey : Bool) : Column :=
    ⟨id, name, none, false, none, primaryKey⟩
  let key (id : Int) (name table : String) : ForeignKey :=
    ⟨id, 0, name, table, "id", .noAction, .noAction, .none⟩
  { Schema.empty with
    tables :=
      [⟨"people", "", [column 0 "id" true], []⟩,
       ⟨"items", "", [column 0 "id" true], []⟩,
       ⟨"orders", "", [column 0 "id" true, column 1 "buyer_id" false, column 2 "thing_id" false],
        [key 0 "buyer_id" "people", key 1 "thing_id" "items"]⟩] }

theorem orderSchema_marksPrimaries :
    orderSchema.objectNames.Nodup ∧
      ∀ e ∈ (fancify .default orderSchema "shop").entities,
        ∀ d ∈ (fancify .default orderSchema "shop").entities,
          (fancify .default orderSchema "shop").MarksPrimaries true true e d :=
  have hnames : orderSchema.objectNames.Nodup := by decide
  ⟨hnames, fancify_marksPrimaries orderSchema .default "shop" hnames⟩

/-- The two keys of an order are primary ahead, each alone into its table, and not back. -/
example : ((fancify { Options.default with detectForeignKeys := false } orderSchema
    "shop").entities.map fun e => e.relationships.map fun r => (r.toMany, r.primary)) =
      [[(true, false)], [(true, false)], [(false, true), (false, true)]] := by
  decide +kernel

end Naming

end RecordLoom
