import RecordLoom.Proofs.Entity.Lookup
import RecordLoom.Proofs.Naming.Frame
import Mathlib.Data.List.Perm.Basic

/-!
# Relationships as edges

A key that resolves gives one edge to its owner and, if wanted, one to its destination.  Both follow
the same key, which `Link` names by its two columns.  `attach` groups the edges by owner, so that
the edges of one owner are the ones derived from its own keys and the ones that reach it from
elsewhere.
-/

namespace RecordLoom.Entity

/-- A key that is followed: its property, and the property that it leads to. -/
structure Reference where
  property : Property
  destination : Entity
  target : Property

end RecordLoom.Entity

namespace RecordLoom.Naming

open RecordLoom.Catalog
open RecordLoom.Entity

/-- A foreign key between two columns, whichever end looks at it. -/
structure Link where
  entity : String
  column : String
  destination : String
  target : String
  detected : Bool
  deriving DecidableEq, Repr

/-- The key that a relationship follows; a to-many relationship follows it backwards. -/
def Link.of (owner : Entity) (r : Relationship) : Link :=
  if r.toMany then ⟨r.destination, r.target, owner.raw, r.source, r.detected⟩
  else ⟨owner.raw, r.source, r.destination, r.target, r.detected⟩

theorem Link.of_toOne {r : Relationship} (h : r.toMany = false) (owner : Entity) :
    Link.of owner r = ⟨owner.raw, r.source, r.destination, r.target, r.detected⟩ := by
  simp [Link.of, h]

theorem Link.of_toMany {r : Relationship} (h : r.toMany = true) (owner : Entity) :
    Link.of owner r = ⟨r.destination, r.target, owner.raw, r.source, r.detected⟩ := by
  simp [Link.of, h]

theorem mem_toOne {e : Entity} {r : Relationship} :
    r ∈ e.toOne ↔ r ∈ e.relationships ∧ r.toMany = false := by
  simp [Entity.toOne]

theorem mem_toMany {e : Entity} {r : Relationship} :
    r ∈ e.toMany ↔ r ∈ e.relationships ∧ r.toMany = true := by
  simp [Entity.toMany]

theorem forall_mem_relationships {P : Relationship → Prop} (e : Entity) :
    (∀ r ∈ e.relationships, P r) ↔ (∀ r ∈ e.toOne, P r) ∧ ∀ r ∈ e.toMany, P r := by
  constructor
  · intro h
    exact ⟨fun r hr => h r (mem_toOne.mp hr).1, fun r hr => h r (mem_toMany.mp hr).1⟩
  · rintro ⟨hone, hmany⟩ r hr
    cases hkind : r.toMany with
    | false => exact hone r (mem_toOne.mpr ⟨hr, hkind⟩)
    | true => exact hmany r (mem_toMany.mpr ⟨hr, hkind⟩)

namespace Resolution

def link? (e : Entity) (p : Property) : Resolution → Option Link
  | resolved destination _ target =>
      some ⟨e.raw, p.column, destination.raw, target.column, p.foreignKeyDetected⟩
  | unknownTable | unknownColumn _ => none

def reference? (p : Property) : Resolution → Option Reference
  | resolved destination _ target => some ⟨p, destination, target⟩
  | unknownTable | unknownColumn _ => none

def fault? (e : Entity) (p : Property) (key : ForeignKey) : Resolution → Option Diagnostic
  | resolved .. => none
  | unknownTable => unresolvedKey e p .unresolvedTable ("table '" ++ key.table ++ "'")
  | unknownColumn destination =>
      unresolvedKey e p .unresolvedColumn
        ("column '" ++ destination.raw ++ "." ++ key.target ++ "'")

end Resolution

def keyLinks (entities : List Entity) (e : Entity) (keyed : List (Property × ForeignKey)) :
    List Link :=
  keyed.filterMap fun (p, key) => (resolve entities key).link? e p

def keyReferences (entities : List Entity) (keyed : List (Property × ForeignKey)) :
    List Reference :=
  keyed.filterMap fun pair => (resolve entities pair.2).reference? pair.1

theorem keyReferences_cons (entities : List Entity) (p : Property) (key : ForeignKey)
    (keyed : List (Property × ForeignKey)) :
    keyReferences entities ((p, key) :: keyed) =
      ((resolve entities key).reference? p).toList ++ keyReferences entities keyed := by
  rw [keyReferences, List.filterMap_cons]
  cases (resolve entities key).reference? p <;> rfl

def keyFaults (entities : List Entity) (e : Entity) (keyed : List (Property × ForeignKey)) :
    List Diagnostic :=
  keyed.filterMap fun (p, key) => (resolve entities key).fault? e p key

section

variable {entities : List Entity} {key : ForeignKey} {destination : Entity} {position : Nat}
  {target : Property} (h : resolve entities key = .resolved destination position target)

include h

theorem findNamed_of_resolve :
    findNamed (fun x => x.1.raw) entities.zipIdx key.table = some (destination, position) := by
  unfold resolve at h
  split at h
  case h_1 => cases h
  case h_2 hfound =>
    split at h <;> cases h
    exact hfound

theorem getElem?_of_resolve : entities[position]? = some destination :=
  List.mk_mem_zipIdx_iff_getElem?.mp (mem_of_findNamed (findNamed_of_resolve h))

theorem lower_of_resolve : Text.lower destination.raw = Text.lower key.table := by
  have hlower := lower_of_findNamed (findNamed_of_resolve h)
  exact hlower

end

/-! ## Edges of one entity -/

def outgoing (edges : List Edge) : List Edge := edges.filter fun x => !x.relationship.toMany

def incoming (edges : List Edge) : List Edge := edges.filter fun x => x.relationship.toMany

theorem outgoing_append (edges more : List Edge) :
    outgoing (edges ++ more) = outgoing edges ++ outgoing more :=
  List.filter_append ..

theorem incoming_append (edges more : List Edge) :
    incoming (edges ++ more) = incoming edges ++ incoming more :=
  List.filter_append ..

def Edge.link? (entities : List Entity) (x : Edge) : Option Link :=
  entities[x.owner]?.map fun owner => Link.of owner x.relationship

theorem relate_edges (o : Options) (source : Source) (state : KeyState) (p : Property)
    (key : ForeignKey) (destination : Entity) (position : Nat) (target : Property) :
    ∃ forward backward : Relationship,
      (relate o source state p key destination position target).1 =
        ⟨source.position, forward⟩ ::
          (if o.reverseRelationships then [⟨position, backward⟩] else []) ∧
      forward.toMany = false ∧ backward.toMany = true ∧
      (Resolution.resolved destination position target).link? source.entity p =
        some (Link.of source.entity forward) ∧
      Link.of destination backward = Link.of source.entity forward :=
  ⟨_, _, rfl, rfl, rfl, rfl, rfl⟩

variable (o : Options) (entities : List Entity)

theorem outgoing_relateKeys (source : Source) (state : KeyState)
    (keyed : List (Property × ForeignKey)) :
    (outgoing (relateKeys o entities source state keyed).1).map
        (fun x => (x.owner, Link.of source.entity x.relationship)) =
      (keyLinks entities source.entity keyed).map (source.position, ·) := by
  induction keyed generalizing state with
  | nil => rfl
  | cons head rest ih =>
      obtain ⟨p, key⟩ := head
      simp only [relateKeys, keyLinks, List.filterMap_cons] at ih ⊢
      cases hresolve : resolve entities key with
      | unknownTable => exact ih state
      | unknownColumn destination => exact ih state
      | resolved destination position target =>
          obtain ⟨forward, backward, hedges, hforward, hbackward, hlink, -⟩ :=
            relate_edges o source state p key destination position target
          -- Whether there is an edge back or not, one key puts one edge among the outgoing ones.
          have hpair : outgoing (⟨source.position, forward⟩ ::
              if o.reverseRelationships then [⟨position, backward⟩] else []) =
                [⟨source.position, forward⟩] := by
            cases o.reverseRelationships <;> simp [outgoing, hforward, hbackward]
          simp only [hedges, hlink, outgoing_append, hpair, List.map_append, ih]
          rfl

theorem incoming_relateKeys (source : Source) (state : KeyState)
    (keyed : List (Property × ForeignKey)) :
    (incoming (relateKeys o entities source state keyed).1).map (Edge.link? entities) =
      if o.reverseRelationships then (keyLinks entities source.entity keyed).map some else [] := by
  induction keyed generalizing state with
  | nil => simp [relateKeys, incoming, keyLinks]
  | cons head rest ih =>
      obtain ⟨p, key⟩ := head
      simp only [relateKeys, keyLinks, List.filterMap_cons] at ih ⊢
      cases hresolve : resolve entities key with
      | unknownTable => exact ih state
      | unknownColumn destination => exact ih state
      | resolved destination position target =>
          obtain ⟨forward, backward, hedges, hforward, hbackward, hlink, hmirror⟩ :=
            relate_edges o source state p key destination position target
          simp only [hedges, hlink, incoming_append, List.map_append, ih]
          cases o.reverseRelationships with
          | false => simp [incoming, hforward]
          | true =>
              simp [incoming, hforward, hbackward, Edge.link?, getElem?_of_resolve hresolve,
                hmirror]

theorem findings_relateKeys (source : Source) (state : KeyState)
    (keyed : List (Property × ForeignKey)) :
    (relateKeys o entities source state keyed).2 =
      (keyFaults entities source.entity keyed).map .problem := by
  induction keyed generalizing state with
  | nil => rfl
  | cons head rest ih =>
      obtain ⟨p, key⟩ := head
      simp only [relateKeys, keyFaults, List.filterMap_cons] at ih ⊢
      cases hresolve : resolve entities key with
      | unknownTable => simp [ih state, Resolution.fault?]
      | unknownColumn destination => simp [ih state, Resolution.fault?]
      | resolved destination position target =>
          simpa [Resolution.fault?] using ih _

/-! ## Edges of all entities -/

def entityLinks (e : Entity) : List Link := keyLinks entities e (keyedProperties e)

theorem outgoing_relateEntity (e : Entity) (position : Nat) :
    (outgoing (relateEntity o entities e position).1).map
        (fun x => (x.owner, Link.of e x.relationship)) =
      (entityLinks entities e).map (position, ·) :=
  outgoing_relateKeys o entities ⟨e, position, keyedProperties e⟩ _ _

theorem incoming_relateEntity (e : Entity) (position : Nat) :
    (incoming (relateEntity o entities e position).1).map (Edge.link? entities) =
      if o.reverseRelationships then (entityLinks entities e).map some else [] :=
  incoming_relateKeys o entities ⟨e, position, keyedProperties e⟩ _ _

theorem findings_relateEntity (e : Entity) (position : Nat) :
    (relateEntity o entities e position).2 =
      (keyFaults entities e (keyedProperties e)).map .problem :=
  findings_relateKeys o entities ⟨e, position, keyedProperties e⟩ _ _

theorem owner_of_mem_outgoing {e : Entity} {position : Nat} {x : Edge}
    (h : x ∈ outgoing (relateEntity o entities e position).1) : x.owner = position := by
  have hpair := List.mem_map_of_mem (f := fun x => (x.owner, Link.of e x.relationship)) h
  rw [outgoing_relateEntity] at hpair
  obtain ⟨link, -, hlink⟩ := List.mem_map.mp hpair
  exact (congrArg Prod.fst hlink).symm

private theorem flatMap_zipIdx_fst {α β : Type} (f : α → List β) (items : List α) :
    (items.zipIdx.flatMap fun x => f x.1) = items.flatMap f := by
  conv => rhs; rw [← List.zipIdx_map_fst 0 items, List.flatMap_map]

theorem outgoing_relateAll :
    outgoing (relateAll o entities).1 =
      entities.zipIdx.flatMap fun x => outgoing (relateEntity o entities x.1 x.2).1 := by
  simp [relateAll, outgoing, List.filter_flatMap, List.flatMap_map]

theorem incoming_relateAll :
    (incoming (relateAll o entities).1).map (Edge.link? entities) =
      if o.reverseRelationships then (entities.flatMap (entityLinks entities)).map some
      else [] := by
  have hall : (incoming (relateAll o entities).1).map (Edge.link? entities) =
      entities.zipIdx.flatMap fun x =>
        (incoming (relateEntity o entities x.1 x.2).1).map (Edge.link? entities) := by
    simp [relateAll, incoming, List.filter_flatMap, List.flatMap_map, List.map_flatMap]
  simp only [hall, incoming_relateEntity]
  cases o.reverseRelationships with
  | false => simp
  | true =>
      rw [List.map_flatMap]
      exact flatMap_zipIdx_fst (fun e => (entityLinks entities e).map some) entities

theorem findings_relateAll :
    (relateAll o entities).2 =
      (entities.flatMap fun e => keyFaults entities e (keyedProperties e)).map .problem := by
  rw [List.map_flatMap, ← flatMap_zipIdx_fst]
  simp [relateAll, List.flatMap_map, findings_relateEntity]

private theorem filter_owner_flatMap {g : Entity → Nat → List Edge}
    (howner : ∀ e position, ∀ x ∈ g e position, x.owner = position)
    (entities : List Entity) (start position : Nat) :
    ((entities.zipIdx start).flatMap fun x => g x.1 x.2).filter (·.owner == position) =
      if start ≤ position then entities[position - start]?.elim [] (g · position)
      else [] := by
  induction entities generalizing start with
  | nil => simp
  | cons e rest ih =>
      simp only [List.zipIdx_cons, List.flatMap_cons, List.filter_append, ih]
      by_cases hstart : start = position
      · subst hstart
        have hfirst : (g e start).filter (·.owner == start) = g e start := by
          rw [List.filter_eq_self]
          intro x hx
          simp [howner e start x hx]
        rw [hfirst, if_pos (Nat.le_refl start), if_neg (Nat.not_succ_le_self start)]
        simp
      · have hfirst : (g e start).filter (·.owner == position) = [] := by
          rw [List.filter_eq_nil_iff]
          intro x hx
          simp [howner e start x hx, hstart]
        rw [hfirst, List.nil_append]
        by_cases hlt : start < position
        · have hsub : position - start = (position - (start + 1)) + 1 := by omega
          simp [Nat.le_of_lt hlt, Nat.succ_le_of_lt hlt, hsub]
        · have hgt : ¬start ≤ position := by omega
          have hgt' : ¬start + 1 ≤ position := by omega
          simp [hgt, hgt']

theorem outgoing_owned {position : Nat} {e : Entity} (h : entities[position]? = some e) :
    (outgoing (relateAll o entities).1).filter (·.owner == position) =
      outgoing (relateEntity o entities e position).1 := by
  rw [outgoing_relateAll, filter_owner_flatMap
    (g := fun e i => outgoing (relateEntity o entities e i).1)
    (fun _ _ _ hx => owner_of_mem_outgoing o entities hx) entities 0 position]
  simp [h]

theorem outgoing_at {position : Nat} {e : Entity} (h : entities[position]? = some e) :
    ((outgoing (relateAll o entities).1).filter (·.owner == position)).map
        (fun x => Link.of e x.relationship) = entityLinks entities e := by
  have hlinks := congrArg (List.map Prod.snd) (outgoing_relateEntity o entities e position)
  rw [outgoing_owned o entities h]
  simpa [Function.comp_def] using hlinks

private theorem group_by_owner_perm (edges : List Edge) (entities : List Entity) (start : Nat) :
    ((entities.zipIdx start).flatMap fun x => edges.filter (·.owner == x.2)).Perm
      (edges.filter fun x => start ≤ x.owner && x.owner < start + entities.length) := by
  induction entities generalizing start with
  | nil => simp
  | cons e rest ih =>
      -- The edges in range split into those of the first position and those of the positions after.
      have hfirst : edges.filter (·.owner == start) =
          (edges.filter fun x => start ≤ x.owner && x.owner < start + (e :: rest).length).filter
            (·.owner == start) := by
        rw [List.filter_filter]
        refine List.filter_congr fun x _ => ?_
        simp only [List.length_cons, beq_eq_decide, ← Bool.decide_and, decide_eq_decide]
        omega
      have hrest : (edges.filter fun x =>
            start + 1 ≤ x.owner && x.owner < start + 1 + rest.length) =
          (edges.filter fun x => start ≤ x.owner && x.owner < start + (e :: rest).length).filter
            fun x => !(x.owner == start) := by
        rw [List.filter_filter]
        refine List.filter_congr fun x _ => ?_
        simp only [List.length_cons, beq_eq_decide, ← decide_not, ← Bool.decide_and,
          decide_eq_decide]
        omega
      simp only [List.zipIdx_cons, List.flatMap_cons]
      refine (List.Perm.append_left _ (ih (start + 1))).trans ?_
      rw [hfirst, hrest]
      exact List.filter_append_perm _ _

/-! ## Attached edges -/

def attached (edges : List Edge) (e : Entity) (position : Nat) : Entity :=
  { e with relationships := (edges.filter (·.owner == position)).map (·.relationship) }

theorem attach_eq (edges : List Edge) :
    attach edges entities = entities.zipIdx.map fun x => attached edges x.1 x.2 := rfl

theorem mem_attach {edges : List Edge} {e : Entity} (h : e ∈ attach edges entities) :
    ∃ (before : Entity) (position : Nat), entities[position]? = some before ∧
      e = attached edges before position := by
  obtain ⟨⟨before, position⟩, hmem, rfl⟩ := List.mem_map.mp h
  exact ⟨before, position, List.mk_mem_zipIdx_iff_getElem?.mp hmem, rfl⟩

theorem flatMap_attach {β : Type} (edges : List Edge) {g : Entity → List β}
    (hg : ∀ e position, g (attached edges e position) = g e) :
    (attach edges entities).flatMap g = entities.flatMap g := by
  rw [attach_eq, List.flatMap_map]
  simp only [hg]
  exact flatMap_zipIdx_fst g entities

theorem toOne_attached (edges : List Edge) (e : Entity) (position : Nat) :
    (attached edges e position).toOne =
      ((outgoing edges).filter (·.owner == position)).map (·.relationship) := by
  simp [attached, Entity.toOne, outgoing, List.filter_map, List.filter_filter, Function.comp_def,
    Bool.and_comm]

theorem toMany_attached (edges : List Edge) (e : Entity) (position : Nat) :
    (attached edges e position).toMany =
      ((incoming edges).filter (·.owner == position)).map (·.relationship) := by
  simp [attached, Entity.toMany, incoming, List.filter_map, List.filter_filter, Function.comp_def,
    Bool.and_comm]

theorem toOne_links {e : Entity} (h : e ∈ attach (relateAll o entities).1 entities) :
    e.toOne.map (Link.of e) = entityLinks entities e := by
  obtain ⟨before, position, hbefore, rfl⟩ := mem_attach entities h
  rw [toOne_attached, List.map_map]
  have hlinks := outgoing_at o entities hbefore
  exact hlinks

/-- The to-many relationships of all entities follow the keys that resolve, each once. -/
theorem toMany_links_perm (hreverse : o.reverseRelationships = true) :
    ((attach (relateAll o entities).1 entities).flatMap fun e => e.toMany.map (Link.of e)).Perm
      (entities.flatMap (entityLinks entities)) := by
  have hlinks := incoming_relateAll o entities
  rw [if_pos hreverse] at hlinks
  have howner : ∀ x ∈ incoming (relateAll o entities).1, x.owner < entities.length := by
    intro x hx
    have hmem := List.mem_map_of_mem (f := Edge.link? entities) hx
    rw [hlinks] at hmem
    obtain ⟨link, -, hlink⟩ := List.mem_map.mp hmem
    obtain ⟨owner, hat, -⟩ := Option.map_eq_some_iff.mp hlink.symm
    exact (List.getElem?_eq_some_iff.mp hat).1
  have hgroups : (((attach (relateAll o entities).1 entities).flatMap
        fun e => e.toMany.map (Link.of e)).map some) =
      (entities.zipIdx.flatMap fun x =>
        (incoming (relateAll o entities).1).filter (·.owner == x.2)).map (Edge.link? entities) := by
    rw [attach_eq, List.flatMap_map, List.map_flatMap, List.map_flatMap]
    refine List.flatMap_congr fun x hx => ?_
    have hat := List.mem_zipIdx_iff_getElem?.mp hx
    rw [toMany_attached, List.map_map, List.map_map]
    refine List.map_congr_left fun y hy => ?_
    have hy : y.owner = x.2 := by simpa using (List.mem_filter.mp hy).2
    simp only [Function.comp_apply, Edge.link?, hy, hat, Option.map_some]
    rfl
  have hperm := (group_by_owner_perm (incoming (relateAll o entities).1) entities 0).map
    (Edge.link? entities)
  rw [← hgroups, List.filter_eq_self.mpr (by simpa using howner), hlinks] at hperm
  simpa using hperm.filterMap id

end RecordLoom.Naming
