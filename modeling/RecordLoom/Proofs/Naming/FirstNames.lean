import RecordLoom.Proofs.Naming.StableNames

/-!
# Who gets a name

Properties are named from left to right, so that a name goes to the first property that wants it and
any later one is given a number.  The lone primary key may be given a name by force.
-/

namespace RecordLoom.Naming

open RecordLoom.Catalog
open RecordLoom.Entity

variable {o : Options} {taken : List String} {wanted : String}

inductive NamedFrom (o : Options) : List String → List Property → Prop where
  | nil (taken : List String) : NamedFrom o taken []
  | cons {taken : List String} {p : Property} {rest : List Property} :
      (p.primaryKey = false → p.name = freeName (o.propertyName p.column) taken) →
      NamedFrom o (claim p.name taken) rest → NamedFrom o taken (p :: rest)

/-! ## Names without a number -/

/-- No number ends the name. -/
def Unnumbered (name : String) : Prop := ∀ c ∈ name.toList.getLast?, c.isDigit = false

theorem eq_of_freeName_eq (h : Unnumbered wanted) {name : String}
    (heq : freeName name taken = wanted) : name = wanted := by
  obtain ⟨digits, hdigits, hsplit⟩ := freeName_isNumbered name taken
  rw [heq] at hsplit
  rcases List.eq_nil_or_concat digits with rfl | ⟨more, c, rfl⟩
  · simpa [String.toList_inj] using hsplit.symm
  · have hlast : c ∈ wanted.toList.getLast? := by simp [hsplit]
    have hdigit := hdigits c (by simp)
    rw [h c hlast] at hdigit
    cases hdigit

theorem freeName_eq_iff (h : Unnumbered wanted) (hfree : wanted ∉ taken) {name : String} :
    freeName name taken = wanted ↔ name = wanted :=
  ⟨eq_of_freeName_eq h, fun heq => heq ▸ freeName_of_not_mem (heq ▸ hfree)⟩

/-! ## The first one that wants a name -/

theorem NamedFrom.wants (h : Unnumbered wanted) {properties : List Property}
    (hnamed : NamedFrom o taken properties) :
    ∀ p ∈ properties, p.primaryKey = false → p.name = wanted →
      o.propertyName p.column = wanted := by
  induction hnamed with
  | nil => exact fun p hp => absurd hp List.not_mem_nil
  | cons hp _ ih =>
      refine List.forall_mem_cons.mpr ⟨fun hkey hname => ?_, ih⟩
      exact eq_of_freeName_eq h ((hp hkey).symm.trans hname)

theorem NamedFrom.exists_iff (h : Unnumbered wanted) {properties : List Property}
    (hnamed : NamedFrom o taken properties) (hfree : wanted ∉ taken)
    (hkeys : ∀ p ∈ properties, p.primaryKey = false) :
    (∃ p ∈ properties, p.name = wanted) ↔
      ∃ p ∈ properties, o.propertyName p.column = wanted := by
  induction hnamed with
  | nil => simp
  | @cons taken p rest hp _ ih =>
      obtain ⟨hkey, hkeys⟩ := List.forall_mem_cons.mp hkeys
      have hname : p.name = wanted ↔ o.propertyName p.column = wanted := by
        rw [hp hkey, freeName_eq_iff h hfree]
      simp only [List.exists_mem_cons_iff]
      by_cases hwants : o.propertyName p.column = wanted
      case pos => simp [hname, hwants]
      case neg =>
        have hother : p.name ≠ wanted := mt hname.mp hwants
        have hlater := ih (by simp [hfree, hother.symm]) hkeys
        simp [hother, hwants, hlater]

theorem NamedFrom.append {before rest : List Property} (h : NamedFrom o taken (before ++ rest)) :
    NamedFrom o taken before ∧ ∃ taken', NamedFrom o taken' rest ∧
      ∀ n, n ∈ taken' ↔ n ∈ taken ∨ n ∈ before.map (·.name) := by
  induction before generalizing taken with
  | nil => exact ⟨.nil taken, taken, h, by simp⟩
  | cons p before ih =>
      cases h with
      | cons hp hrest =>
          obtain ⟨hbefore, taken', hlater, htaken⟩ := ih hrest
          refine ⟨.cons hp hbefore, taken', hlater, fun n => ?_⟩
          simp only [htaken, mem_claim, List.map_cons, List.mem_cons]
          tauto

theorem NamedFrom.exists_other_iff (h : Unnumbered wanted) {before after : List Property}
    {key : Property} (hnamed : NamedFrom o [] (before ++ key :: after))
    (hkeys : ∀ p ∈ before ++ after, p.primaryKey = false)
    (hnodup : ((before ++ key :: after).map (·.name)).Nodup) :
    (∃ p ∈ before ++ after, p.name = wanted) ↔
      (∃ p ∈ before, o.propertyName p.column = wanted) ∨
        key.name ≠ wanted ∧ ∃ p ∈ after, o.propertyName p.column = wanted := by
  obtain ⟨hbefore, taken, hlater, htaken⟩ := hnamed.append
  obtain ⟨hkeysBefore, hkeysAfter⟩ := List.forall_mem_append.mp hkeys
  have hfirst := hbefore.exists_iff h List.not_mem_nil hkeysBefore
  cases hlater with
  | cons _ hafter =>
  simp only [List.mem_append, or_and_right, exists_or, ← hfirst]
  by_cases hfound : ∃ p ∈ before, p.name = wanted
  case pos => simp [hfound]
  case neg =>
    by_cases hkey : key.name = wanted
    case pos =>
      have hother : ¬∃ p ∈ after, p.name = wanted := by
        rintro ⟨p, hp, hname⟩
        rw [List.map_append, List.map_cons] at hnodup
        have hnot := (List.nodup_cons.mp (List.nodup_append.mp hnodup).2.1).1
        exact hnot (List.mem_map.mpr ⟨p, hp, hname.trans hkey.symm⟩)
      simp [hfound, hother, hkey]
    case neg =>
      have hfree : wanted ∉ claim key.name taken := by
        rw [mem_claim, htaken]
        rintro (hname | hmem | hmem)
        · exact hkey hname.symm
        · cases hmem
        · obtain ⟨p, hp, hname⟩ := List.mem_map.mp hmem
          exact hfound ⟨p, hp, hname⟩
      rw [hafter.exists_iff h hfree hkeysAfter]
      simp [hfound, hkey]

/-! ## The properties of a named model -/

theorem renameProperties_named (e : Entity) (rest : List Property) :
    ∀ (taken : List String) (renamed : List Property), (∀ p ∈ rest, p.name = p.column) →
      ∃ tail, renameProperties o e taken renamed rest = renamed.reverse ++ tail ∧
        NamedFrom o taken tail := by
  induction rest with
  | nil => exact fun taken renamed _ => ⟨[], by simp [renameProperties], .nil taken⟩
  | cons p rest ih =>
      intro taken renamed hcolumns
      obtain ⟨hp, hcolumns⟩ := List.forall_mem_cons.mp hcolumns
      rw [renameProperties_cons]
      generalize hname : o.chosenName e taken p (renamed ++ rest) = name
      obtain ⟨tail, htail, hnamed⟩ := ih (claim name taken) ({ p with name } :: renamed) hcolumns
      refine ⟨{ p with name } :: tail, by simp [htail], .cons (fun hkey => ?_) hnamed⟩
      rw [Options.chosenName, if_neg, hp] at hname
      · exact hname.symm
      · intro hforced
        have hforces := (takesForcedName_iff.mp hforced).1
        have hkey : p.primaryKey = false := hkey
        simp [Options.forces, hkey] at hforces

theorem keyed_refined (entities : List Entity) : Refined entities (o.keyed entities) :=
  (typePass_refined o entities).trans <| (primaryKeyPass_refined o _).trans <|
    foreignKeyPass_refined o _

theorem name_eq_column {schema : Schema} {name : String} {e : Entity}
    (he : e ∈ o.keyed (Database.ofSchema schema name).entities) :
    ∀ p ∈ e.properties, p.name = p.column := by
  let entities := (Database.ofSchema schema name).entities
  have hnames : (o.keyed entities).map (fun e => e.properties.map (·.name)) =
      entities.map fun e => e.properties.map (·.name) := by
    have hlabels := congrArg (List.map fun x => x.1.properties)
      (labels_keyed (o := o) entities)
    simpa [labels, Entity.derivedNames, Function.comp_def] using hlabels
  have hcolumns : (o.keyed entities).map (fun e => e.properties.map (·.column)) =
      entities.map fun e => e.properties.map (·.column) :=
    map_eq_of_forall₂ (fun _ _ hrefines => hrefines.columns) (keyed_refined entities)
  have hsame : entities.map (fun e => e.properties.map (·.name)) =
      entities.map fun e => e.properties.map (·.column) := by
    simp [entities, Database.ofSchema, Entity.ofObject, Property.ofColumn, Function.comp_def]
  have heq := List.map_inj_left.mp (hnames.trans (hsame.trans hcolumns.symm)) e he
  exact List.map_inj_left.mp heq

theorem properties_named {schema : Schema} {name : String} {e : Entity}
    (he : e ∈ (fancify o schema name).entities) : NamedFrom o [] e.properties := by
  rw [fancify, refine_entities] at he
  obtain ⟨before, position, hat, rfl⟩ := mem_attach _ he
  obtain ⟨keyed, hkeyed, taken, rfl⟩ := exists_renameEntity o (List.mem_of_getElem? hat)
  obtain ⟨tail, htail, hnamed⟩ :=
    renameProperties_named keyed keyed.properties [] [] (name_eq_column hkeyed)
  have hproperties : (renameEntity o taken keyed).1.properties = tail := by
    simpa [renameEntity] using htail
  exact hproperties ▸ hnamed

end RecordLoom.Naming
