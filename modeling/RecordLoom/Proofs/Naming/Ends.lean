import RecordLoom.Proofs.Naming.Accounting

/-!
# Ends of relationships

A relationship stores the SQL names of its ends, and whoever follows it looks them up again.  Among
entities of distinct names the look-up lands on the entity that the key was resolved to.
-/

namespace RecordLoom.Naming

open RecordLoom.Catalog
open RecordLoom.Entity

variable {o : Options} {schema : Schema} {name : String} {e : Entity}

theorem fancify_withoutRelationships (hderive : o.deriveRelationships = false)
    (he : e ∈ (fancify o schema name).entities) : e.relationships = [] := by
  have hentities : (fancify o schema name).entities = attach [] (o.namedSchema schema name) := by
    change (o.relationshipPass (o.namedSchema schema name)).1 = _
    simp [Options.relationshipPass, hderive]
  rw [hentities] at he
  obtain ⟨before, position, -, rfl⟩ := mem_attach _ he
  rfl

theorem fancify_withoutReverse (hderive : o.deriveRelationships = true)
    (hreverse : o.reverseRelationships = false) (he : e ∈ (fancify o schema name).entities) :
    e.toMany = [] := by
  rw [fancify_entities hderive] at he
  obtain ⟨before, position, -, rfl⟩ := mem_attach _ he
  have hincoming := incoming_relateAll o (o.namedSchema schema name)
  rw [hreverse, if_neg Bool.false_ne_true, List.map_eq_nil_iff] at hincoming
  rw [toMany_attached, hincoming]
  rfl

theorem fancify_link (he : e ∈ (fancify o schema name).entities) {r : Relationship}
    (hr : r ∈ e.relationships) :
    ∃ source ∈ (fancify o schema name).entities, ∃ p ∈ source.properties,
      (fancify o schema name).linkOf? source p = some (Link.of e r) := by
  cases hderive : o.deriveRelationships with
  | false => simp [fancify_withoutRelationships hderive he] at hr
  | true =>
      cases hmany : r.toMany with
      | false =>
          exact ⟨e, he, (exists_toOne_iff hderive he _).mp ⟨r, mem_toOne.mpr ⟨hr, hmany⟩, rfl⟩⟩
      | true =>
          have hr : r ∈ e.toMany := mem_toMany.mpr ⟨hr, hmany⟩
          cases hreverse : o.reverseRelationships with
          | false => simp [fancify_withoutReverse hderive hreverse he] at hr
          | true =>
              have hlink := (fancify_toMany hderive hreverse).mem_iff.mp
                (List.mem_flatMap.mpr ⟨e, he, List.mem_map_of_mem hr⟩)
              obtain ⟨source, hsource, hlink⟩ := List.mem_flatMap.mp hlink
              exact ⟨source, hsource, List.mem_filterMap.mp hlink⟩

/-- Both ends of a relationship are found again, under exactly the names that it stores. -/
theorem fancify_ends (hnames : schema.objectNames.Nodup)
    (he : e ∈ (fancify o schema name).entities) {r : Relationship} (hr : r ∈ e.relationships) :
    ∃ destination ∈ (fancify o schema name).entities,
      (fancify o schema name).entity? r.destination = some destination ∧
      destination.raw = r.destination ∧
      (∃ p ∈ e.properties, p.column = r.source) ∧
      ∃ p ∈ destination.properties, p.column = r.target := by
  have hraws : ((fancify o schema name).entities.map (·.raw)).Nodup := by
    rwa [fancify_raws]
  have hfound : ∀ d ∈ (fancify o schema name).entities, d.raw = r.destination →
      (fancify o schema name).entity? r.destination = some d :=
    fun d hd hraw => hraw ▸ findNamed_self hraws hd
  obtain ⟨source, hsource, p, hp, hlink⟩ := fancify_link he hr
  obtain ⟨target, htarget, q, hq, hends⟩ := Database.linkOf?_eq_some hlink
  unfold Link.of at hends
  split at hends
  · -- backwards, the owner is the entity that the key refers to
    injection hends with hsourceRaw hcolumn howner htargetColumn
    have htarget : target = e := List.inj_on_of_nodup_map hraws htarget he howner.symm
    subst htarget
    exact ⟨source, hsource, hfound source hsource hsourceRaw.symm, hsourceRaw.symm,
      ⟨q, hq, htargetColumn.symm⟩, p, hp, hcolumn.symm⟩
  · injection hends with howner hcolumn htargetRaw htargetColumn
    have hsource : source = e := List.inj_on_of_nodup_map hraws hsource he howner.symm
    subst hsource
    exact ⟨target, htarget, hfound target htarget htargetRaw.symm, htargetRaw.symm,
      ⟨p, hp, hcolumn.symm⟩, q, hq, htargetColumn.symm⟩

end RecordLoom.Naming
