import RecordLoom.Proofs.Naming.Frame
import RecordLoom.Proofs.Entity.Lookup

/-!
# Detection in a second run

The passes for types and keys look at SQL names and never at derived ones, and what they have found
once they find as declared the next time: detection is a projection.  The search for primary keys
and for destinations does not look at foreign keys either, so that what it sees after the last pass
is what it saw before.
-/

namespace RecordLoom

open RecordLoom.Catalog
open RecordLoom.Entity

namespace Entity

/-- A property but for its derived name. -/
def Property.unnamed (p : Property) : Property := { p with name := "" }

def Property.keyless (p : Property) : Property :=
  { p.unnamed with foreignKey := none, foreignKeyDetected := false }

def unnamed (e : Entity) : Entity :=
  { e with
      name := ""
      properties := e.properties.map Property.unnamed
      relationships := []
      referenceName := ""
      singularName := ""
      pluralName := "" }

def keyless (e : Entity) : Entity :=
  { e.unnamed with properties := e.properties.map Property.keyless }

@[simp] theorem keyless_unnamed (e : Entity) : e.unnamed.keyless = e.keyless := by
  simp [keyless, unnamed, Function.comp_def, Property.keyless, Property.unnamed]

theorem raw_of_keyless {e f : Entity} (h : f.keyless = e.keyless) : f.raw = e.raw :=
  have hraw : f.keyless.raw = e.keyless.raw := congrArg raw h
  hraw

theorem primaryKeys_unnamed (e : Entity) :
    e.unnamed.primaryKeys = e.primaryKeys.map Property.unnamed := by
  simp only [primaryKeys, unnamed, List.filter_map]
  rfl

theorem primaryKeys_keyless (e : Entity) :
    e.keyless.primaryKeys = e.primaryKeys.map Property.keyless := by
  simp only [primaryKeys, keyless, List.filter_map]
  rfl

theorem primaryKey?_of_map {e f : Entity} {change : Property → Property}
    (h : f.primaryKeys = e.primaryKeys.map change) : f.primaryKey? = e.primaryKey?.map change := by
  unfold primaryKey?
  rw [h]
  cases e.primaryKeys with
  | nil => rfl
  | cons key rest => cases rest <;> rfl

theorem isSoleKey_keyless (e : Entity) (p : Property) :
    e.keyless.isSoleKey p.keyless = e.isSoleKey p := by
  rw [isSoleKey, primaryKeys_keyless, List.length_map]
  rfl

theorem isSoleKey_of_primaryKey? {e : Entity} {key : Property} (h : e.primaryKey? = some key) :
    e.isSoleKey key = true := by
  unfold primaryKey? at h
  split at h
  case h_1 only hkeys =>
    cases h
    have hkey : key ∈ e.primaryKeys := by simp [hkeys]
    simp [isSoleKey, hkeys, (List.mem_filter.mp hkey).2]
  case h_2 => cases h

theorem property?_unnamed (e : Entity) (column : String) :
    e.unnamed.property? column = (e.property? column).map Property.unnamed :=
  findNamed_map Property.unnamed Property.column e.properties column

end Entity

namespace Naming

variable (o : Options)

/-! ## Types -/

def Options.IsTyped (e : Entity) : Prop := ∀ p ∈ e.properties, o.valueType p = p.valueType

variable {o}

theorem assignTypes_isTyped (e : Entity) : o.IsTyped (o.assignTypes e) := by
  intro p hp
  obtain ⟨q, -, rfl⟩ := List.mem_map.mp hp
  rfl

theorem assignTypes_of_isTyped {e : Entity} (h : o.IsTyped e) : o.assignTypes e = e := by
  have hproperties : (e.properties.map fun p => { p with valueType := o.valueType p }) =
      e.properties := by
    conv => rhs; rw [← List.map_id e.properties]
    refine List.map_congr_left fun p hp => ?_
    rw [h p hp]
    rfl
  rw [Options.assignTypes, hproperties]

theorem isTyped_of_keyless {e f : Entity} (hsame : f.keyless = e.keyless) (h : o.IsTyped e) :
    o.IsTyped f := by
  have hproperties : f.properties.map Property.keyless = e.properties.map Property.keyless :=
    congrArg Entity.properties hsame
  intro p hp
  obtain ⟨q, hq, hpq⟩ := List.mem_map.mp (hproperties ▸ List.mem_map_of_mem hp)
  have hvalue : o.valueType q.keyless = q.keyless.valueType := h q hq
  rw [hpq] at hvalue
  exact hvalue

theorem assignTypes_unnamed (e : Entity) : o.assignTypes e.unnamed = (o.assignTypes e).unnamed := by
  simp only [Options.assignTypes, Entity.unnamed, List.map_map]
  rfl

/-! ## Primary keys -/

variable (o) in
def Options.newKey? (e : Entity) : Option Nat :=
  if e.primaryKeys.isEmpty then firstCandidate? e.properties (o.keyCandidates e.raw) else none

def marked (e : Entity) (position : Nat) : Entity :=
  { e with properties := e.properties.modify position markPrimaryKey }

theorem detectPrimaryKey_of_none {e : Entity} (h : o.newKey? e = none) :
    o.detectPrimaryKey e = (e, []) := by
  unfold Options.newKey? at h
  unfold Options.detectPrimaryKey
  split
  case isTrue => rfl
  case isFalse hkeys =>
    rw [if_pos (by simpa using hkeys)] at h
    rw [h]

theorem detectPrimaryKey_of_some {e : Entity} {position : Nat} (h : o.newKey? e = some position) :
    o.detectPrimaryKey e = (marked e position,
      e.properties[position]?.toList.map fun p => .primaryKey e.raw p.column) := by
  unfold Options.newKey? at h
  split at h
  case isTrue hkeys =>
    rw [Options.detectPrimaryKey, if_neg (by simp [hkeys]), h]
    rfl
  case isFalse => cases h

section

variable {change : Property → Property} (hcolumn : ∀ p, (change p).column = p.column)
  (properties : List Property)

include hcolumn

theorem lastNamed?_map (column : String) :
    lastNamed? (properties.map change) column = lastNamed? properties column := by
  unfold lastNamed?
  rw [List.zipIdx_map, ← List.map_reverse, List.find?_map, Option.map_map]
  simp only [Function.comp_def, Prod.map, hcolumn]
  rfl

theorem firstAlike?_map (column : String) :
    firstAlike? (properties.map change) column = firstAlike? properties column := by
  unfold firstAlike?
  rw [List.findIdx?_map]
  simp only [Function.comp_def, hcolumn]

theorem firstCandidate?_map (candidates : List String) :
    firstCandidate? (properties.map change) candidates = firstCandidate? properties candidates := by
  have hlast : lastNamed? (properties.map change) = lastNamed? properties :=
    funext (lastNamed?_map hcolumn properties)
  have hfirst : firstAlike? (properties.map change) = firstAlike? properties :=
    funext (firstAlike?_map hcolumn properties)
  simp only [firstCandidate?, hlast, hfirst]

end

theorem newKey?_keyless (e : Entity) : o.newKey? e.keyless = o.newKey? e := by
  have hraw : e.keyless.raw = e.raw := rfl
  have hproperties : e.keyless.properties = e.properties.map Property.keyless := rfl
  have hcolumn : ∀ p : Property, p.keyless.column = p.column := fun _ => rfl
  unfold Options.newKey?
  rw [primaryKeys_keyless, List.isEmpty_map, hraw, hproperties, firstCandidate?_map hcolumn]

theorem newKey?_of_keyless {e f : Entity} (h : f.keyless = e.keyless) :
    o.newKey? f = o.newKey? e := by
  rw [← newKey?_keyless, h, newKey?_keyless]

theorem lastNamed?_lt {properties : List Property} {column : String} {position : Nat}
    (h : lastNamed? properties column = some position) : position < properties.length := by
  obtain ⟨⟨p, i⟩, hfind, rfl⟩ := Option.map_eq_some_iff.mp h
  have hmem := List.mem_reverse.mp (List.mem_of_find?_eq_some hfind)
  exact (List.getElem?_eq_some_iff.mp (List.mk_mem_zipIdx_iff_getElem?.mp hmem)).1

theorem firstCandidate?_lt {properties : List Property} {candidates : List String} {position : Nat}
    (h : firstCandidate? properties candidates = some position) : position < properties.length := by
  rw [firstCandidate?, Option.orElse_eq_or, Option.or_eq_some_iff] at h
  rcases h with h | ⟨-, h⟩
  · obtain ⟨column, -, hcolumn⟩ := List.exists_of_findSome?_eq_some h
    exact lastNamed?_lt hcolumn
  · obtain ⟨column, -, hcolumn⟩ := List.exists_of_findSome?_eq_some h
    exact (List.findIdx?_eq_some_iff_findIdx_eq.mp hcolumn).1

theorem newKey?_marked {e : Entity} {position : Nat} (h : o.newKey? e = some position) :
    o.newKey? (marked e position) = none := by
  unfold Options.newKey? at h
  split at h
  case isTrue =>
    have hlt := firstCandidate?_lt h
    have hmem : markPrimaryKey e.properties[position] ∈ (marked e position).primaryKeys := by
      refine List.mem_filter.mpr ⟨?_, rfl⟩
      refine List.mem_of_getElem? (i := position) ?_
      rw [marked, List.getElem?_modify_eq, List.getElem?_eq_getElem hlt]
      rfl
    rw [Options.newKey?, if_neg]
    simpa using List.ne_nil_of_mem hmem
  case isFalse => cases h

theorem newKey?_detectPrimaryKey (e : Entity) : o.newKey? (o.detectPrimaryKey e).1 = none := by
  cases h : o.newKey? e with
  | none => rwa [detectPrimaryKey_of_none h]
  | some position =>
      rw [detectPrimaryKey_of_some h]
      exact newKey?_marked h

theorem detectPrimaryKey_isTyped {e : Entity} (h : o.IsTyped e) :
    o.IsTyped (o.detectPrimaryKey e).1 := by
  cases hkey : o.newKey? e with
  | none => rwa [detectPrimaryKey_of_none hkey]
  | some position =>
      rw [detectPrimaryKey_of_some hkey]
      intro p hp
      obtain ⟨i, hi⟩ := List.mem_iff_getElem?.mp hp
      rw [marked, List.getElem?_modify] at hi
      obtain ⟨q, hq, rfl⟩ := Option.map_eq_some_iff.mp hi
      have hvalue : o.valueType q = q.valueType := h q (List.mem_of_getElem? hq)
      split <;> exact hvalue

theorem marked_unnamed (e : Entity) (position : Nat) :
    marked e.unnamed position = (marked e position).unnamed := by
  have hmodify : (e.properties.map Property.unnamed).modify position markPrimaryKey =
      (e.properties.modify position markPrimaryKey).map Property.unnamed := by
    refine List.ext_getElem? fun i => ?_
    simp only [List.getElem?_modify, List.getElem?_map, Option.map_eq_map, Option.map_map]
    congr 1
    funext p
    simp only [Function.comp_apply]
    split <;> rfl
  simp only [marked, Entity.unnamed, hmodify]

theorem detectPrimaryKey_unnamed (e : Entity) :
    o.detectPrimaryKey e.unnamed =
      ((o.detectPrimaryKey e).1.unnamed, (o.detectPrimaryKey e).2) := by
  have hsame : o.newKey? e.unnamed = o.newKey? e := newKey?_of_keyless (keyless_unnamed e)
  cases h : o.newKey? e with
  | none => rw [detectPrimaryKey_of_none h, detectPrimaryKey_of_none (hsame.trans h)]
  | some position =>
      rw [detectPrimaryKey_of_some h, detectPrimaryKey_of_some (hsame.trans h), marked_unnamed]
      congr 1
      simp only [Entity.unnamed, List.getElem?_map]
      cases e.properties[position]? <;> rfl

/-! ## Foreign keys -/

theorem detectForeignKey_keyless (destinations : List (String × Destination)) (e : Entity)
    (p : Property) : (detectForeignKey destinations e p).1.keyless = p.keyless := by
  rcases detectForeignKey_cases destinations e p with hsame | ⟨-, d, hadded⟩
  · rw [hsame]
  · rw [hadded]
    rfl

theorem detectForeignKeys?_keyless (destinations : List (String × Destination)) (e : Entity) :
    (o.detectForeignKeys? destinations e).1.keyless = e.keyless := by
  unfold Options.detectForeignKeys?
  split
  · simp [Entity.keyless, Entity.unnamed, Function.comp_def, detectForeignKey_keyless]
  · rfl

theorem destinations_keyless (entities : List Entity) :
    o.destinations (entities.map Entity.keyless) = o.destinations entities := by
  unfold Options.destinations
  rw [List.flatMap_map]
  refine List.flatMap_congr fun e _ => ?_
  have heligible : o.isEligible e.keyless = o.isEligible e := rfl
  rw [primaryKey?_of_map (primaryKeys_keyless e), heligible]
  cases o.isEligible e <;> cases e.primaryKey? <;> rfl

theorem destinations_of_keyless {entities others : List Entity}
    (h : others.map Entity.keyless = entities.map Entity.keyless) :
    o.destinations others = o.destinations entities := by
  rw [← destinations_keyless, h, destinations_keyless]

def reports (findings : List Finding) : List Diagnostic := findings.filterMap Finding.diagnostic?

theorem refer_again {e f : Entity} (hraw : f.raw = e.raw) (p : Property) (d : Destination) :
    (refer f (refer e p d).1 d).1 = (refer e p d).1 ∧
      reports (refer f (refer e p d).1 d).2 = reports (refer e p d).2 := by
  cases hkey : p.foreignKey with
  | some key =>
      have hself : (refer e p d).1 = p := by
        simp only [refer, hkey]
        split <;> rfl
      rw [hself]
      refine ⟨?_, ?_⟩
      · simp only [refer, hkey]
        split <;> rfl
      · simp only [refer, hkey, ambiguousKey, hraw]
  | none =>
      by_cases htype : d.valueType = p.valueType
      · simp [refer, hkey, htype, detectedKey, reports, Finding.diagnostic?]
      · simp [refer, hkey, htype]

theorem detectForeignKey_of_isSoleKey {destinations : List (String × Destination)} {e : Entity}
    {p : Property} (h : e.isSoleKey p = true) : detectForeignKey destinations e p = (p, []) := by
  rw [detectForeignKey, if_pos h]

theorem detectForeignKey_of_not {destinations : List (String × Destination)} {e : Entity}
    {p : Property} (h : e.isSoleKey p = false) :
    detectForeignKey destinations e p =
      (destinations.lookup (Text.lower p.column)).elim (p, []) (refer e p) := by
  rw [detectForeignKey, if_neg (by simp [h])]
  cases destinations.lookup (Text.lower p.column) <;> rfl

theorem detectForeignKey_again (destinations : List (String × Destination)) {e f : Entity}
    (hsame : f.keyless = e.keyless) (p : Property) :
    (detectForeignKey destinations f (detectForeignKey destinations e p).1).1 =
        (detectForeignKey destinations e p).1 ∧
      reports (detectForeignKey destinations f (detectForeignKey destinations e p).1).2 =
        reports (detectForeignKey destinations e p).2 := by
  have hsole : f.isSoleKey (detectForeignKey destinations e p).1 = e.isSoleKey p := by
    rw [← isSoleKey_keyless, hsame, detectForeignKey_keyless, isSoleKey_keyless]
  cases hskip : e.isSoleKey p with
  | true =>
      rw [hskip, detectForeignKey_of_isSoleKey hskip] at hsole
      rw [detectForeignKey_of_isSoleKey hskip, detectForeignKey_of_isSoleKey hsole]
      exact ⟨rfl, rfl⟩
  | false =>
      rw [hskip] at hsole
      rw [detectForeignKey_of_not hsole, (detectForeignKey_refines destinations e p).column,
        detectForeignKey_of_not hskip]
      cases destinations.lookup (Text.lower p.column) with
      | none => simp only [Option.elim_none, and_self]
      | some d =>
          simp only [Option.elim_some]
          exact refer_again (raw_of_keyless hsame) p d

theorem detectForeignKeys?_of_isEligible {destinations : List (String × Destination)} {e : Entity}
    (h : o.isEligible e = true) :
    o.detectForeignKeys? destinations e =
      ({ e with properties := e.properties.map fun p => (detectForeignKey destinations e p).1 },
        e.properties.flatMap fun p => (detectForeignKey destinations e p).2) := by
  simp [Options.detectForeignKeys?, h, List.flatMap_map, Function.comp_def]

theorem reports_flatMap {α : Type} (items : List α) (findings : α → List Finding) :
    reports (items.flatMap findings) = items.flatMap fun item => reports (findings item) := by
  simp [reports, List.filterMap_flatMap]

theorem detectForeignKeys?_again (destinations : List (String × Destination)) (e : Entity) :
    (o.detectForeignKeys? destinations (o.detectForeignKeys? destinations e).1).1 =
        (o.detectForeignKeys? destinations e).1 ∧
      reports (o.detectForeignKeys? destinations (o.detectForeignKeys? destinations e).1).2 =
        reports (o.detectForeignKeys? destinations e).2 := by
  have hsame := detectForeignKeys?_keyless (o := o) destinations e
  cases heligible : o.isEligible e with
  | false => simp [Options.detectForeignKeys?, heligible]
  | true =>
      have hafter : o.isEligible (o.detectForeignKeys? destinations e).1 = true := by
        rw [detectForeignKeys?_of_isEligible heligible]
        exact heligible
      rw [detectForeignKeys?_of_isEligible hafter]
      rw [detectForeignKeys?_of_isEligible heligible] at hsame ⊢
      have hagain := detectForeignKey_again destinations hsame
      simp only [List.map_map, List.flatMap_map, reports_flatMap, Function.comp_def, hagain,
        and_self]

theorem refer_unnamed (e : Entity) (p : Property) (d : Destination) :
    refer e.unnamed p.unnamed d = ((refer e p d).1.unnamed, (refer e p d).2) := by
  have hkey : p.unnamed.foreignKey = p.foreignKey := rfl
  have hvalue : p.unnamed.valueType = p.valueType := rfl
  unfold refer
  rw [hkey, hvalue]
  cases p.foreignKey <;> (dsimp only; split <;> rfl)

theorem detectForeignKey_unnamed (destinations : List (String × Destination)) (e : Entity)
    (p : Property) :
    detectForeignKey destinations e.unnamed p.unnamed =
      ((detectForeignKey destinations e p).1.unnamed, (detectForeignKey destinations e p).2) := by
  have hsole : e.unnamed.isSoleKey p.unnamed = e.isSoleKey p := by
    rw [Entity.isSoleKey, primaryKeys_unnamed, List.length_map]
    rfl
  have hcolumn : p.unnamed.column = p.column := rfl
  cases hskip : e.isSoleKey p with
  | true =>
      rw [detectForeignKey_of_isSoleKey hskip, detectForeignKey_of_isSoleKey (hsole.trans hskip)]
  | false =>
      rw [detectForeignKey_of_not hskip, detectForeignKey_of_not (hsole.trans hskip), hcolumn]
      cases destinations.lookup (Text.lower p.column) with
      | none => rfl
      | some d => exact refer_unnamed e p d

theorem detectForeignKeys?_unnamed (destinations : List (String × Destination)) (e : Entity) :
    o.detectForeignKeys? destinations e.unnamed =
      ((o.detectForeignKeys? destinations e).1.unnamed,
        (o.detectForeignKeys? destinations e).2) := by
  have hsame : o.isEligible e.unnamed = o.isEligible e := rfl
  have hproperties : e.unnamed.properties = e.properties.map Property.unnamed := rfl
  cases heligible : o.isEligible e with
  | false => simp [Options.detectForeignKeys?, hsame, heligible]
  | true =>
      rw [detectForeignKeys?_of_isEligible heligible,
        detectForeignKeys?_of_isEligible (hsame.trans heligible)]
      simp only [hproperties, List.map_map, List.flatMap_map, Function.comp_def,
        detectForeignKey_unnamed]
      simp only [Entity.unnamed, List.map_map, Function.comp_def]

/-! ## The three passes -/

variable (o) in
def Options.keyReports (entities : List Entity) : List Diagnostic :=
  reports (o.foreignKeyPass (o.primaryKeyPass (o.typePass entities).1).1).2

theorem primaryKeyPass_reports (entities : List Entity) :
    reports (o.primaryKeyPass entities).2 = [] := by
  unfold Options.primaryKeyPass
  split
  · rw [Pass.each, List.flatMap_map, reports_flatMap, List.flatMap_eq_nil_iff]
    intro e _
    cases h : o.newKey? e with
    | none =>
        rw [detectPrimaryKey_of_none h]
        rfl
    | some position =>
        rw [detectPrimaryKey_of_some h]
        cases e.properties[position]? <;> rfl
  · rfl

theorem each_of_fixed {step : Entity → Entity × List Finding} {entities : List Entity}
    (h : ∀ e ∈ entities, (step e).1 = e) : (Pass.each step entities).1 = entities := by
  simp only [Pass.each, List.map_map]
  conv => rhs; rw [← List.map_id entities]
  exact List.map_congr_left h

variable (o) in
def Options.typed (entities : List Entity) : List Entity :=
  (o.primaryKeyPass (o.typePass entities).1).1

theorem keyed_eq (entities : List Entity) :
    o.keyed entities = (o.foreignKeyPass (o.typed entities)).1 := rfl

theorem keyed_keyless (entities : List Entity) :
    (o.keyed entities).map Entity.keyless = (o.typed entities).map Entity.keyless := by
  rw [keyed_eq]
  unfold Options.foreignKeyPass
  split
  · simp [Pass.each, Function.comp_def, detectForeignKeys?_keyless]
  · rfl

theorem mem_typed {entities : List Entity} {e : Entity} (h : e ∈ o.typed entities) :
    o.IsTyped e ∧ (o.detectPrimaryKeys = true → o.newKey? e = none) := by
  unfold Options.typed Options.primaryKeyPass Options.typePass at h
  split at h
  case isTrue hdetect =>
    simp only [Pass.each, List.map_map, List.mem_map] at h
    obtain ⟨e₀, -, rfl⟩ := h
    exact ⟨detectPrimaryKey_isTyped (assignTypes_isTyped e₀),
      fun _ => newKey?_detectPrimaryKey _⟩
  case isFalse hdetect =>
    obtain ⟨e₀, -, rfl⟩ := List.mem_map.mp h
    exact ⟨assignTypes_isTyped e₀, fun hon => absurd hon hdetect⟩

theorem typed_keyed (entities : List Entity) : o.typed (o.keyed entities) = o.keyed entities := by
  have hsettled : ∀ e ∈ o.keyed entities,
      o.IsTyped e ∧ (o.detectPrimaryKeys = true → o.newKey? e = none) := by
    intro e he
    have hmem := List.mem_map_of_mem (f := Entity.keyless) he
    rw [keyed_keyless] at hmem
    obtain ⟨e₀, he₀, hsame⟩ := List.mem_map.mp hmem
    obtain ⟨htyped, hkey⟩ := mem_typed he₀
    exact ⟨isTyped_of_keyless hsame.symm htyped,
      fun hon => (newKey?_of_keyless hsame.symm).trans (hkey hon)⟩
  have htypes : (o.keyed entities).map o.assignTypes = o.keyed entities := by
    conv => rhs; rw [← List.map_id (o.keyed entities)]
    exact List.map_congr_left fun e he => assignTypes_of_isTyped (hsettled e he).1
  unfold Options.typed Options.typePass
  rw [htypes]
  unfold Options.primaryKeyPass
  split
  case isTrue hon =>
    refine each_of_fixed fun e he => ?_
    rw [detectPrimaryKey_of_none ((hsettled e he).2 hon)]
  case isFalse => rfl

theorem foreignKeyPass_keyed (entities : List Entity) :
    (o.foreignKeyPass (o.keyed entities)).1 = o.keyed entities ∧
      reports (o.foreignKeyPass (o.keyed entities)).2 = o.keyReports entities := by
  have hsame := destinations_of_keyless (o := o) (keyed_keyless (o := o) entities)
  have hagain := detectForeignKeys?_again (o := o) (o.destinations (o.typed entities))
  rw [Options.keyReports, ← Options.typed]
  rw [keyed_eq] at hsame ⊢
  cases hdetect : o.detectForeignKeys with
  | false => simp [Options.foreignKeyPass, hdetect]
  | true =>
      have hpass : ∀ entities, o.foreignKeyPass entities =
          Pass.each (o.detectForeignKeys? (o.destinations entities)) entities := by
        intro entities
        rw [Options.foreignKeyPass, if_pos hdetect]
      rw [hpass (o.foreignKeyPass _).1, hsame, hpass]
      simp only [Pass.each, List.map_map, List.flatMap_map, reports_flatMap, Function.comp_def,
        hagain, and_self]

theorem keyed_keyed (entities : List Entity) : o.keyed (o.keyed entities) = o.keyed entities := by
  rw [keyed_eq, typed_keyed]
  exact (foreignKeyPass_keyed entities).1

theorem keyReports_keyed (entities : List Entity) :
    o.keyReports (o.keyed entities) = o.keyReports entities := by
  rw [Options.keyReports, ← Options.typed, typed_keyed]
  exact (foreignKeyPass_keyed entities).2

theorem typed_unnamed (entities : List Entity) :
    o.typed (entities.map Entity.unnamed) = (o.typed entities).map Entity.unnamed := by
  unfold Options.typed Options.primaryKeyPass Options.typePass
  split <;> simp [Pass.each, Function.comp_def, assignTypes_unnamed, detectPrimaryKey_unnamed]

theorem foreignKeyPass_unnamed (entities : List Entity) :
    o.foreignKeyPass (entities.map Entity.unnamed) =
      ((o.foreignKeyPass entities).1.map Entity.unnamed, (o.foreignKeyPass entities).2) := by
  have hsame : o.destinations (entities.map Entity.unnamed) = o.destinations entities :=
    destinations_of_keyless (by simp [Function.comp_def])
  unfold Options.foreignKeyPass
  rw [hsame]
  split
  · simp [Pass.each, Function.comp_def, List.flatMap_map, detectForeignKeys?_unnamed]
  · rfl

theorem keyed_unnamed (entities : List Entity) :
    o.keyed (entities.map Entity.unnamed) = (o.keyed entities).map Entity.unnamed := by
  rw [keyed_eq, typed_unnamed, foreignKeyPass_unnamed, keyed_eq]

theorem keyReports_unnamed (entities : List Entity) :
    o.keyReports (entities.map Entity.unnamed) = o.keyReports entities := by
  unfold Options.keyReports
  rw [← Options.typed, ← Options.typed, typed_unnamed, foreignKeyPass_unnamed]

end Naming

end RecordLoom
