import RecordLoom.Proofs.Naming.FirstNames
import RecordLoom.Proofs.Record.Soundness

/-!
# What identifies a record

A record with a lone primary key says that it can be identified, by its member `id`.  The member is
the key if the key has this name, and returns the key if no property has it.  But it can also be
another property, one that was given the name before the key or that wants it while the key does
not.
-/

namespace RecordLoom

open RecordLoom.Catalog
open RecordLoom.Code
open RecordLoom.Entity
open RecordLoom.Naming

namespace Record

/-! ## Members -/

/-- A member of the values of a type. -/
inductive Member where
  | stored (v : Variable)
  | computed (c : ComputedProperty)

def Member.name : Member → String
  | stored v => v.name
  | computed c => c.name

def membersNamed (name : String) (d : TypeDef) : List Member :=
  (d.instanceVariables.map Member.stored ++ d.computed.map Member.computed).filter (·.name == name)

/-- Whether a member is a property or returns it, with a type that holds every value of it. -/
def Member.Yields (p : Property) : Member → Prop
  | stored v => v.name = p.name ∧ v.type = some (valueNode p.valueType)
  | computed c =>
      c.type = valueNode p.valueType ∧ c.body = [.ret (some (ownMember p.name))]

/-- Whether a property other than a primary key has a name. -/
def HasOther (e : Entity) (name : String) : Prop :=
  ∃ p ∈ e.properties, p.primaryKey = false ∧ p.name = name

/-- What identifies the records of an entity. -/
structure Identified (o : Options) (e : Entity) (d : TypeDef) : Prop where
  identifiable : .named "Identifiable" ∈ d.conformances ↔ e.primaryKey?.isSome = true
  member : ∀ key, e.primaryKey? = some key →
    ((∃ m, membersNamed "id" d = [m] ∧ m.Yields key) ↔ ¬HasOther e "id")
  wanted : HasOther e "id" →
    ∃ p ∈ e.properties, p.primaryKey = false ∧ o.propertyName p.column = "id"
  other : ∀ before key after, e.primaryKey? = some key → e.properties = before ++ key :: after →
    e.properties.length ≤ dedupeLimit + 1 →
    (HasOther e "id" ↔ (∃ p ∈ before, o.propertyName p.column = "id") ∨
      key.name ≠ "id" ∧ ∃ p ∈ after, o.propertyName p.column = "id")

/-! ## The lone key -/

theorem primaryKeys_eq {e : Entity} {key : Property} (h : e.primaryKey? = some key) :
    e.primaryKeys = [key] := by
  unfold Entity.primaryKey? at h
  split at h
  case h_1 hkeys =>
    cases h
    exact hkeys
  case h_2 => cases h

theorem primaryKey_of_primaryKey? {e : Entity} {key : Property} (h : e.primaryKey? = some key) :
    key ∈ e.properties ∧ key.primaryKey = true := by
  have hmem : key ∈ e.primaryKeys := by simp [primaryKeys_eq h]
  exact List.mem_filter.mp hmem

section

variable {e : Entity} {before after : List Property} {key : Property}

theorem forall_others (h : e.primaryKey? = some key)
    (hsplit : e.properties = before ++ key :: after) :
    ∀ p ∈ before ++ after, p.primaryKey = false := by
  have hcount : e.properties.countP (·.primaryKey) = 1 := by
    rw [List.countP_eq_length_filter, ← Entity.primaryKeys, primaryKeys_eq h]
    rfl
  simp only [hsplit, List.countP_append, List.countP_cons, (primaryKey_of_primaryKey? h).2,
    if_true] at hcount
  have hnone : (before ++ after).countP (·.primaryKey) = 0 := by
    rw [List.countP_append]
    omega
  simpa using List.countP_eq_zero.mp hnone

theorem hasOther_iff (h : e.primaryKey? = some key)
    (hsplit : e.properties = before ++ key :: after) {name : String} :
    HasOther e name ↔ ∃ p ∈ before ++ after, p.name = name := by
  constructor
  · rintro ⟨p, hp, hother, hname⟩
    have hne : p ≠ key := by
      rintro rfl
      simp [(primaryKey_of_primaryKey? h).2] at hother
    exact ⟨p, by simpa [hsplit, hne] using hp, hname⟩
  · rintro ⟨p, hp, hname⟩
    refine ⟨p, ?_, forall_others h hsplit p hp, hname⟩
    rw [hsplit, List.mem_append, List.mem_cons]
    exact (List.mem_append.mp hp).imp_right .inr

theorem filter_name_eq {name : String} (h : e.primaryKey? = some key)
    (hnone : ¬HasOther e name) :
    e.properties.filter (·.name == name) = if key.name = name then [key] else [] := by
  have hkeys : e.properties.filter (·.name == name) =
      e.primaryKeys.filter (·.name == name) := by
    rw [Entity.primaryKeys, List.filter_filter]
    refine List.filter_congr fun p hp => ?_
    cases hprimary : p.primaryKey with
    | true => simp
    | false =>
        have hname : p.name ≠ name := fun hname => hnone ⟨p, hp, hprimary, hname⟩
        simp [hname]
  rw [hkeys, primaryKeys_eq h]
  simp [List.filter_cons]

end

/-! ## The member of the name -/

section

variable {e : Entity} {key : Property} {d : TypeDef}

theorem membersNamed_recordType {output : Output} {db : Database}
    (h : output.recordType db e = .ok d) (name : String) :
    membersNamed name d =
      (e.properties.filter (·.name == name)).map (fun p => Member.stored (output.recordVariable p)) ++
        ((output.idProperty e).filter (·.name == name)).map Member.computed := by
  obtain ⟨initializer, -, hd⟩ := bind_eq_ok h
  cases hd
  simp [membersNamed, List.filter_append, List.filter_map, Function.comp_def, Member.name,
    Output.recordVariable]

theorem propertyNode_key (hkey : e.primaryKey? = some key) :
    propertyNode key = valueNode key.valueType := by
  simp [propertyNode, Property.isOptional, (primaryKey_of_primaryKey? hkey).2]

theorem idProperty_eq (output : Output) (hkey : e.primaryKey? = some key) :
    (∃ p ∈ e.properties, p.name = "id") ∧ output.idProperty e = [] ∨
      (¬∃ p ∈ e.properties, p.name = "id") ∧
        ∃ c, output.idProperty e = [c] ∧ c.name = "id" ∧ (Member.computed c).Yields key := by
  by_cases hnamed : ∃ p ∈ e.properties, p.name = "id"
  case pos => exact .inl ⟨hnamed, by simpa [Output.idProperty, hkey] using hnamed⟩
  case neg =>
    have hnone : e.properties.any (·.name == "id") = false := by simpa using hnamed
    refine .inr ⟨hnamed, ?_⟩
    rw [Output.idProperty, hkey]
    simp only [hnone, Bool.false_eq_true, if_false]
    exact ⟨_, rfl, rfl, propertyNode_key hkey, rfl⟩

theorem not_yields_of_hasOther {output : Output} {db : Database}
    (h : output.recordType db e = .ok d) (hkey : e.primaryKey? = some key)
    (hother : HasOther e "id") : ¬∃ m, membersNamed "id" d = [m] ∧ m.Yields key := by
  obtain ⟨hmem, hprimary⟩ := primaryKey_of_primaryKey? hkey
  obtain ⟨p, hp, hfalse, hname⟩ := hother
  rintro ⟨m, hm, hyields⟩
  rcases idProperty_eq output hkey with ⟨-, hid⟩ | ⟨hnone, -⟩
  case inr => exact hnone ⟨p, hp, hname⟩
  rw [membersNamed_recordType h, hid, List.filter_nil, List.map_nil, List.append_nil] at hm
  obtain ⟨q, hq, rfl⟩ := List.map_eq_singleton_iff.mp hm
  have honly : ∀ r ∈ e.properties, r.name = "id" → r = q := by
    intro r hr hrname
    have hmem : r ∈ e.properties.filter (·.name == "id") := by simp [hr, hrname]
    simpa [hq] using hmem
  obtain rfl := honly p hp hname
  have hkeyname : key.name = "id" := hyields.1.symm.trans hname
  rw [← honly key hmem hkeyname, hprimary] at hfalse
  cases hfalse

theorem yields_of_not_hasOther {output : Output} {db : Database}
    (h : output.recordType db e = .ok d) (hkey : e.primaryKey? = some key)
    (hother : ¬HasOther e "id") : ∃ m, membersNamed "id" d = [m] ∧ m.Yields key := by
  have hfilter := filter_name_eq hkey hother
  rw [membersNamed_recordType h]
  rcases idProperty_eq output hkey with ⟨⟨p, hp, hname⟩, hid⟩ | ⟨hnone, c, hid, hc, hyields⟩
  case inl =>
    have hmem : p ∈ e.properties.filter (·.name == "id") := by simp [hp, hname]
    have hkeyname : key.name = "id" := by
      by_contra hkeyname
      rw [hfilter, if_neg hkeyname] at hmem
      cases hmem
    rw [hfilter, if_pos hkeyname, hid]
    exact ⟨_, rfl, rfl, congrArg some (propertyNode_key hkey)⟩
  case inr =>
    have hkeyname : key.name ≠ "id" :=
      fun hkeyname => hnone ⟨key, (primaryKey_of_primaryKey? hkey).1, hkeyname⟩
    rw [hfilter, if_neg hkeyname, hid]
    exact ⟨.computed c, by simp [hc], hyields⟩

theorem identifiable_mem {output : Output} {db : Database} (h : output.recordType db e = .ok d) :
    .named "Identifiable" ∈ d.conformances ↔ e.primaryKey?.isSome = true := by
  obtain ⟨initializer, -, hd⟩ := bind_eq_ok h
  cases hd
  unfold Output.recordConformances
  cases e.kind <;> cases e.primaryKey? <;>
    simp [Runtime.tableRecord, Runtime.viewRecord, Node.named]

end

/-! ## Units -/

theorem unnumbered_id : Unnumbered "id" := by
  intro c hc
  obtain rfl : 'd' = c := Option.some.inj hc
  rfl

theorem recordType_identified {o : Options} {schema : Schema} {name : String} {e : Entity}
    {d : TypeDef} {output : Output} (he : e ∈ (fancify o schema name).entities)
    (h : output.recordType (fancify o schema name) e = .ok d) : Identified o e d where
  identifiable := identifiable_mem h
  member key hkey :=
    ⟨fun hyields hother => not_yields_of_hasOther h hkey hother hyields,
      yields_of_not_hasOther h hkey⟩
  wanted := by
    rintro ⟨p, hp, hother, hname⟩
    exact ⟨p, hp, hother, (properties_named he).wants unnumbered_id p hp hother hname⟩
  other before key after hkey hsplit hfew := by
    have hnamed := properties_named he
    have hnodup : (e.properties.map (·.name)).Nodup :=
      (properties_chosen o he).nodup_of_length_le (by rwa [List.length_map])
    rw [hsplit] at hnamed hnodup
    rw [hasOther_iff hkey hsplit]
    exact hnamed.exists_other_iff unnumbered_id (forall_others hkey hsplit) hnodup

/-- A record with a lone primary key is identified by it, exactly if no other property is called
`id`.  Another property is called so if its column wants the name, and comes before the key or the
key has another name. -/
theorem fancify_identified (o : Options) (schema : Schema) (name : String) (output : Output)
    (u : CompilationUnit) (hunit : output.unit (fancify o schema name) = .ok u) :
    ∃ records, u.structures = output.databaseType (fancify o schema name) :: records ∧
      List.Forall₂ (Identified o) (fancify o schema name).entities records := by
  obtain ⟨accessors, records, -, hrecords, rfl⟩ := exists_assemble output hunit
  have hbuilt := (List.forall₂_and_left _ _).mpr
    ⟨fun e (he : e ∈ (fancify o schema name).entities) => he, forall₂_of_mapM hrecords⟩
  exact ⟨records, rfl, hbuilt.imp fun _ _ h => recordType_identified h.1 h.2⟩

def keyedTagSchema : Schema :=
  { Schema.empty with
    tables :=
      [⟨"tag", "",
        [⟨0, "key", some .integer, false, none, true⟩, ⟨1, "id", some .text, false, none, false⟩],
        []⟩] }

theorem keyedTagSchema_identified :
    ∃ u records, Output.default.unit (fancify .default keyedTagSchema "tags") = .ok u ∧
      u.structures =
        Output.default.databaseType (fancify .default keyedTagSchema "tags") :: records ∧
      List.Forall₂ (Identified .default) (fancify .default keyedTagSchema "tags").entities
        records := by
  obtain ⟨u, hunit⟩ : ∃ u, Output.default.unit (fancify .default keyedTagSchema "tags") = .ok u :=
    exists_fancify_unit .default (by decide) (by decide)
  obtain ⟨records, hstructures, hrecords⟩ :=
    fancify_identified .default keyedTagSchema "tags" .default u hunit
  exact ⟨u, records, hunit, hstructures, hrecords⟩

end Record

end RecordLoom
