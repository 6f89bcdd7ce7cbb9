import RecordLoom.Proofs.Naming.Distinct
import RecordLoom.Proofs.Naming.Ends
import RecordLoom.Proofs.Naming.StableNames
import RecordLoom.Proofs.Naming.Suffixes

/-!
# Qualifiers

A key that leads back to many records is told from the other keys of the same entity by a qualifier,
which the main key between two entities goes without.  Qualifiers are chosen entity by entity, so
that only the keys of one entity are told apart by them; the name of the relationship, the plural of
the entity, has to do the rest.
-/

namespace RecordLoom.Naming

open RecordLoom.Casing
open RecordLoom.Catalog
open RecordLoom.Entity
open RecordLoom.Text

/-! ## Names that are not empty -/

section

variable {o : Options}

def StartsDark (s : String) : Prop := s.toList ≠ [] ∧ ' ' ∉ s.toList.head?

theorem StartsDark.ne_empty {s : String} (h : StartsDark s) : s ≠ "" := by
  rintro rfl
  exact h.1 rfl

theorem StartsDark.of_head? {s t : String} (h : StartsDark s)
    (hhead : t.toList.head? = s.toList.head?) : StartsDark t := by
  refine ⟨fun hnil => h.1 ?_, hhead ▸ h.2⟩
  rw [hnil] at hhead
  exact List.head?_eq_none_iff.mp hhead.symm

theorem startsDark_toIdentifier (s : String) : StartsDark (toIdentifier s) := by
  obtain ⟨c, rest, hsplit, -⟩ := (toIdentifier_isIdentifier s).first
  exact ⟨by simp [hsplit], head?_toIdentifier_ne s⟩

theorem StartsDark.lowerFirst {s : String} (h : StartsDark s) : StartsDark (lowerFirst s) := by
  unfold StartsDark
  rw [Casing.lowerFirst, String.toList_ofList]
  refine ⟨?_, head?_lowerFirstChars_ne h.2⟩
  obtain ⟨c, rest, hsplit⟩ := List.exists_cons_of_ne_nil h.1
  rw [hsplit, lowerFirstChars_cons]
  exact List.append_ne_nil_of_left_ne_nil (lowerOf_ne_nil c) rest

theorem StartsDark.respelled {s : String} (h : StartsDark s) : StartsDark (o.respelled s) := by
  have hfolded : StartsDark (applyIf o.foldCapitalRuns foldUpperRuns s) :=
    h.of_head? (head?_applyIf_foldUpperRuns _ s)
  unfold Options.respelled
  generalize applyIf o.foldCapitalRuns foldUpperRuns s = folded at hfolded ⊢
  have hlowered : StartsDark (applyIf o.decapitalizePropertyNames Casing.lowerFirst folded) := by
    unfold applyIf
    split
    · exact hfolded.lowerFirst
    · exact hfolded
  dsimp only
  generalize applyIf o.decapitalizePropertyNames Casing.lowerFirst folded = lowered at hlowered ⊢
  split
  · refine hlowered.of_head? ?_
    rw [head?_applyIf_foldUpperRuns, camelCase, String.toList_ofList,
      head?_camelChars hlowered.2]
  · exact hlowered

theorem propertyName_ne_empty (name : String) : o.propertyName name ≠ "" := by
  rw [propertyName_eq]
  exact (startsDark_toIdentifier _).respelled.ne_empty

theorem freeName_ne_empty {wanted : String} (h : wanted ≠ "") (taken : List String) :
    freeName wanted taken ≠ "" := by
  obtain ⟨digits, -, hsplit⟩ := freeName_isNumbered wanted taken
  intro hempty
  have hnil : wanted.toList = [] := by
    have happend := hsplit.symm.trans (congrArg String.toList hempty)
    exact (List.append_eq_nil_iff.mp happend).1
  exact h (String.toList_injective hnil)

theorem chosenName_ne_empty (e : Entity) (taken : List String) (p : Property)
    (others : List Property) : o.chosenName e taken p others ≠ "" := by
  unfold Options.chosenName
  split
  case isTrue hforced =>
    have hforces := (takesForcedName_iff.mp hforced).1
    simp only [Options.forces, Bool.and_eq_true, Bool.not_eq_true'] at hforces
    rintro hempty
    simp [hempty] at hforces
  case isFalse => exact freeName_ne_empty (propertyName_ne_empty p.name) taken

theorem upperFirst_ne_empty {s : String} (h : s ≠ "") : upperFirst s ≠ "" := by
  intro hempty
  obtain ⟨c, rest, hsplit⟩ := List.exists_cons_of_ne_nil fun hnil => h (String.toList_injective hnil)
  have hchars := congrArg String.toList hempty
  rw [upperFirst, String.toList_ofList, hsplit, upperFirstChars_cons] at hchars
  exact upperOf_ne_nil c (List.append_eq_nil_iff.mp hchars).1

theorem relationshipName_ne_empty (hsuffixes : "" ∉ o.relationshipSuffixes) {p : Property}
    (hp : p.name ≠ "") : o.relationshipName p ≠ "" :=
  (shortens_relationshipName (not_erases hsuffixes _)).ne_empty (upperFirst_ne_empty hp)

end

/-! ## Edges back -/

variable (o : Options) (entities : List Entity)

def KeyState.Leaves (state : KeyState) (place : String) : Option String → Prop
  | none => place ∉ state.primaryToMany
  | some qualifier => qualifier ∉ state.names

structure Backward (source : Source) (state after : KeyState) (p : Property) (place : String)
    (r : Relationship) : Prop where
  name : r.name = upperFirst (Inflection.pluralize source.entity.name)
  destination : r.destination = source.entity.raw
  qualifier : ∀ name ∈ r.qualifier, name = freeName (o.relationshipName p) state.names
  left : state.names.toFinset.card ≤ dedupeLimit → state.Leaves place r.qualifier
  used : ¬after.Leaves place r.qualifier

theorem choosePrimary_eq_true_iff {used : List String} {place : String} {alone namesake : Bool} :
    choosePrimary used place alone namesake = true ↔
      place ∉ used ∧ (alone || namesake) = true := by
  simp [choosePrimary]

theorem relate_backward (source : Source) (state : KeyState) (p : Property) (key : ForeignKey)
    (destination : Entity) (position : Nat) (target : Property) :
    ∃ forward backward : Relationship,
      (relate o source state p key destination position target).1 =
        ⟨source.position, forward⟩ ::
          (if o.reverseRelationships then [⟨position, backward⟩] else []) ∧
      forward.toMany = false ∧ backward.toMany = true ∧
      Backward o source state (relate o source state p key destination position target).2 p
        (lower destination.raw) backward := by
  refine ⟨_, _, rfl, rfl, rfl, rfl, rfl, ?qualifier, ?left, ?used⟩ <;> dsimp only [relate, dedupe]
  all_goals
    generalize hprimary : choosePrimary state.primaryToMany (lower destination.raw)
      (source.keyed.length == 1) (isNamesake p destination target) = primary
    generalize hname : freeName (o.relationshipName p) state.names = name
  case qualifier => cases primary <;> simp
  case left =>
    intro hfew
    cases primary with
    | true => exact (choosePrimary_eq_true_iff.mp hprimary).1
    | false => exact hname ▸ freeName_not_mem hfew
  case used => cases primary <;> simp [KeyState.Leaves, markUsed]

theorem Leaves_of_relate (source : Source) (state : KeyState) (p : Property) (key : ForeignKey)
    (destination : Entity) (position : Nat) (target : Property) (place : String)
    (qualifier : Option String)
    (h : (relate o source state p key destination position target).2.Leaves place qualifier) :
    state.Leaves place qualifier := by
  cases qualifier with
  | none =>
      refine fun hmem => h ?_
      dsimp only [relate, markUsed]
      split
      · exact List.mem_cons_of_mem _ hmem
      · exact hmem
  | some name => exact fun hmem => h (mem_claim.mpr (.inr hmem))

theorem incoming_apart (source : Source) (keyed : List (Property × ForeignKey)) :
    ∀ state : KeyState, state.names.toFinset.card + keyed.length ≤ dedupeLimit + 1 →
      (incoming (relateKeys o entities source state keyed).1).Pairwise (fun x y =>
        x.owner = y.owner → x.relationship.qualifier ≠ y.relationship.qualifier) ∧
      ∀ x ∈ incoming (relateKeys o entities source state keyed).1, ∀ e,
        entities[x.owner]? = some e → state.Leaves (lower e.raw) x.relationship.qualifier := by
  induction keyed with
  | nil => exact fun state _ => ⟨.nil, nofun⟩
  | cons head rest ih =>
      obtain ⟨p, key⟩ := head
      intro state hfew
      rw [List.length_cons] at hfew
      rw [relateKeys]
      cases hresolve : resolve entities key with
      | unknownTable => exact ih state (by omega)
      | unknownColumn destination => exact ih state (by omega)
      | resolved destination position target =>
          obtain ⟨forward, backward, hedges, hforward, hbackward, hback⟩ :=
            relate_backward o source state p key destination position target
          have hlater := Leaves_of_relate o source state p key destination position target
          have hcard : (relate o source state p key destination position target).2.names.toFinset.card
              ≤ state.names.toFinset.card + 1 := card_claim_le ..
          dsimp only
          generalize relate o source state p key destination position target = related at *
          obtain ⟨hapart, hleft⟩ := ih related.2 (by omega)
          have hpair : incoming related.1 =
              if o.reverseRelationships then [⟨position, backward⟩] else [] := by
            rw [hedges]
            cases o.reverseRelationships <;> simp [incoming, hforward, hbackward]
          rw [incoming_append, hpair, List.pairwise_append]
          have hat := getElem?_of_resolve hresolve
          cases o.reverseRelationships with
          | false =>
              exact ⟨⟨.nil, hapart, fun _ hx => absurd hx List.not_mem_nil⟩,
                fun x hx e he => hlater _ _ (hleft x hx e he)⟩
          | true =>
              refine ⟨⟨List.pairwise_singleton _ _, hapart, ?_⟩, ?_⟩
              · intro x hx y hy howner hsame
                obtain rfl := List.mem_singleton.mp hx
                -- What the key has used up is left to no later key.
                exact hback.used (hsame ▸ hleft y hy destination (howner ▸ hat))
              · intro x hx e he
                rcases List.mem_append.mp hx with hx | hx
                · obtain rfl := List.mem_singleton.mp hx
                  obtain rfl : destination = e := Option.some.inj (hat.symm.trans he)
                  exact hback.left (by omega)
                · exact hlater _ _ (hleft x hx e he)

theorem mem_relateKeys {source : Source} {keyed : List (Property × ForeignKey)} {x : Edge} :
    ∀ {state : KeyState}, x ∈ (relateKeys o entities source state keyed).1 →
      ∃ state, ∃ pair ∈ keyed, ∃ destination position target,
        x ∈ (relate o source state pair.1 pair.2 destination position target).1 := by
  induction keyed with
  | nil => nofun
  | cons head rest ih =>
      obtain ⟨p, key⟩ := head
      intro state hx
      have hlater {state : KeyState} (hx : x ∈ (relateKeys o entities source state rest).1) :
          ∃ state, ∃ pair ∈ (p, key) :: rest, ∃ destination position target,
            x ∈ (relate o source state pair.1 pair.2 destination position target).1 := by
        obtain ⟨state, pair, hpair, found⟩ := ih hx
        exact ⟨state, pair, List.mem_cons_of_mem _ hpair, found⟩
      rw [relateKeys] at hx
      cases hresolve : resolve entities key with
      | unknownTable =>
          simp only [hresolve] at hx
          exact hlater hx
      | unknownColumn destination =>
          simp only [hresolve] at hx
          exact hlater hx
      | resolved destination position target =>
          simp only [hresolve] at hx
          rcases List.mem_append.mp hx with hx | hx
          · exact ⟨state, (p, key), List.mem_cons_self, destination, position, target, hx⟩
          · exact hlater hx

theorem backward_relateEntity {e : Entity} {position : Nat} {x : Edge}
    (hx : x ∈ incoming (relateEntity o entities e position).1) :
    x.relationship.name = upperFirst (Inflection.pluralize e.name) ∧
      x.relationship.destination = e.raw ∧
      ∀ name ∈ x.relationship.qualifier, ∃ p ∈ e.properties, ∃ taken,
        name = freeName (o.relationshipName p) taken := by
  obtain ⟨hx, hmany⟩ := List.mem_filter.mp hx
  obtain ⟨state, pair, hpair, destination, owner, target, hx⟩ := mem_relateKeys o entities hx
  obtain ⟨forward, backward, hedges, hforward, -, hback⟩ :=
    relate_backward o ⟨e, position, keyedProperties e⟩ state pair.1 pair.2 destination owner target
  rw [hedges] at hx
  have hrelationship : x.relationship = backward := by
    rcases List.mem_cons.mp hx with rfl | hx
    · simp [hforward] at hmany
    · split at hx
      · rw [List.mem_singleton.mp hx]
      · cases hx
  rw [hrelationship]
  refine ⟨hback.name, hback.destination, fun name hname => ?_⟩
  obtain ⟨p, hp, hkey⟩ := List.mem_filterMap.mp hpair
  obtain ⟨key, -, rfl⟩ := Option.map_eq_some_iff.mp hkey
  exact ⟨p, hp, state.names, hback.qualifier name hname⟩

/-! ## Edges back among all entities -/

theorem incoming_relateAll_eq :
    incoming (relateAll o entities).1 =
      entities.zipIdx.flatMap fun x => incoming (relateEntity o entities x.1 x.2).1 := by
  simp [relateAll, incoming, List.filter_flatMap, List.flatMap_map]

theorem incoming_relateAll_apart (hraws : (entities.map (·.raw)).Nodup)
    (hfew : ∀ e ∈ entities, e.properties.length ≤ 1001) :
    (incoming (relateAll o entities).1).Pairwise fun x y =>
      x.owner = y.owner → x.relationship.destination = y.relationship.destination →
        x.relationship.qualifier ≠ y.relationship.qualifier := by
  rw [incoming_relateAll_eq]
  apply List.pairwise_flatMap.mpr
  constructor
  · intro x hx
    have hmem : x.1 ∈ entities := List.fst_mem_of_mem_zipIdx hx
    have hkeyed : (keyedProperties x.1).length ≤ x.1.properties.length := List.length_filterMap_le ..
    have hlimit := hfew x.1 hmem
    refine (incoming_apart o entities ⟨x.1, x.2, keyedProperties x.1⟩ (keyedProperties x.1)
      ⟨[], [], []⟩ ?_).1.imp fun h howner _ => h howner
    simp only [List.toFinset_nil, Finset.card_empty, dedupeLimit]
    omega
  · have hdistinct : entities.zipIdx.Pairwise fun x y => x.1.raw ≠ y.1.raw := by
      have hpairs := hraws
      rw [← List.zipIdx_map_fst 0 entities, List.map_map] at hpairs
      exact List.pairwise_map.mp hpairs
    refine hdistinct.imp fun hne x hx y hy _ hsame => ?_
    rw [(backward_relateEntity o entities hx).2.1, (backward_relateEntity o entities hy).2.1] at hsame
    exact absurd hsame hne

/-! ## The named model -/

variable {o}

theorem named_property_ne_empty {before : List Entity} {e : Entity} (he : e ∈ o.named before) :
    ∀ p ∈ e.properties, p.name ≠ "" := by
  obtain ⟨keyed, -, taken, rfl⟩ := exists_renameEntity o he
  exact forall_mem_renameProperties o (P := (· ≠ ""))
    (fun p _ taken others => chosenName_ne_empty keyed taken p others) [] [] (List.forall_mem_nil _)

theorem refine_property_ne_empty {db : Database} {e : Entity} (he : e ∈ (refine o db).entities) :
    ∀ p ∈ e.properties, p.name ≠ "" := by
  rw [refine_entities] at he
  obtain ⟨before, position, hat, rfl⟩ := mem_attach _ he
  have hnames := named_property_ne_empty (List.mem_of_getElem? hat)
  exact hnames

theorem refine_toMany {db : Database} {e : Entity} (he : e ∈ (refine o db).entities)
    {r : Relationship} (hr : r ∈ e.toMany) :
    ∃ source ∈ (refine o db).entities, source.raw = r.destination ∧
      r.name = upperFirst (Inflection.pluralize source.name) ∧
      ("" ∉ o.relationshipSuffixes → r.qualifier ≠ some "") := by
  rw [refine_entities] at he ⊢
  obtain ⟨before, position, -, rfl⟩ := mem_attach _ he
  rw [toMany_attached] at hr
  obtain ⟨x, hx, rfl⟩ := List.mem_map.mp hr
  have hx := (List.mem_filter.mp hx).1
  unfold Options.edges at hx ⊢
  cases hderive : o.deriveRelationships with
  | false => simp [hderive, incoming] at hx
  | true =>
      rw [hderive, if_pos rfl, incoming_relateAll_eq] at hx
      obtain ⟨source, hsource, hx⟩ := List.mem_flatMap.mp hx
      obtain ⟨hname, hdestination, hqualifier⟩ := backward_relateEntity o _ hx
      refine ⟨attached _ source.1 source.2, List.mem_map_of_mem hsource, hdestination.symm, hname,
        fun hsuffixes hempty => ?_⟩
      obtain ⟨p, hp, taken, hchosen⟩ := hqualifier "" hempty
      have hne : p.name ≠ "" :=
        named_property_ne_empty (List.fst_mem_of_mem_zipIdx hsource) p hp
      exact freeName_ne_empty (relationshipName_ne_empty hsuffixes hne) taken hchosen.symm

/-- Two relationships from one entity back to the records of another differ in the qualifier. -/
theorem refine_toMany_apart {db : Database} (hraws : (db.entities.map (·.raw)).Nodup)
    (hproperties : ∀ e ∈ db.entities, e.properties.length ≤ 1001) :
    ∀ e ∈ (refine o db).entities, e.toMany.Pairwise fun r s =>
      r.destination = s.destination → r.qualifier ≠ s.qualifier := by
  intro e he
  rw [refine_entities] at he
  obtain ⟨before, position, -, rfl⟩ := mem_attach _ he
  rw [toMany_attached, List.pairwise_map]
  have hnamed := named_refined o db.entities
  have hfew : ∀ e ∈ o.named db.entities, e.properties.length ≤ 1001 := by
    intro e he
    obtain ⟨e₀, hmem, hsame⟩ := hnamed.exists_length he
    exact hsame ▸ hproperties e₀ hmem
  have hraws : ((o.named db.entities).map (·.raw)).Nodup := hnamed.raws ▸ hraws
  unfold Options.edges
  cases o.deriveRelationships with
  | false => simp [incoming]
  | true =>
      rw [if_pos rfl]
      refine ((incoming_relateAll_apart o _ hraws hfew).filter _).imp_of_mem ?_
      intro x y hx hy h
      have hx := beq_iff_eq.mp (List.mem_filter.mp hx).2
      have hy := beq_iff_eq.mp (List.mem_filter.mp hy).2
      exact h (hx.trans hy.symm)

end RecordLoom.Naming
