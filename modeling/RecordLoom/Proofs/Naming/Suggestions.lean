import RecordLoom.Proofs.Naming.Additions

/-!
# What column names suggest

A column name may suggest a reference to the primary key of an entity, and among several entities
the first one counts.  `Options.Suggests` and `Options.FirstSuggested` say this of the entities
themselves; the table of destinations that a run of naming builds and consults answers the same.
From it follows which keys are detected and which declared keys are reported, and both are read off
the named model, since naming settles types and primary keys before it looks for foreign keys.
-/

namespace RecordLoom

open RecordLoom.Catalog
open RecordLoom.Entity

namespace Naming

/-! ## Names that suggest an entity -/

/-- A column has one of the names for references to an entity: the name of the entity or its
singular with a suffix, with or without an underscore, or perhaps the name of the key itself. -/
def Options.Names (o : Options) (e : Entity) (key : Property) (column : String) : Prop :=
  (∃ base, (base = e.raw ∨ base = Inflection.singularize e.raw) ∧
    ∃ suffix ∈ o.foreignKeySuffixes,
      Text.lower column = Text.lower (base ++ suffix) ∨
        Text.lower column = Text.lower (base ++ "_" ++ suffix)) ∨
  o.foreignKeyNeedsTableName = false ∧ Text.lower column = Text.lower key.column

/-- A column name suggests an entity: this takes part, and has a single primary key. -/
structure Options.Suggests (o : Options) (column : String) (e : Entity) (key : Property) :
    Prop where
  eligible : o.isEligible e = true
  primaryKey : e.primaryKey? = some key
  names : o.Names e key column

/-- An entity is the first one that a column name suggests. -/
def Options.FirstSuggested (o : Options) (entities : List Entity) (column : String) (e : Entity)
    (key : Property) : Prop :=
  ∃ before after, entities = before ++ e :: after ∧ o.Suggests column e key ∧
    ∀ other ∈ before, ∀ otherKey, ¬ o.Suggests column other otherKey

/-- The name of a property leads to an entity: keys are looked for, the entity of the property takes
part, and the property is not its single primary key. -/
structure Options.Leads (o : Options) (entities : List Entity) (owner : Entity) (p : Property)
    (e : Entity) (key : Property) : Prop where
  detects : o.detectForeignKeys = true
  eligible : o.isEligible owner = true
  notKey : owner.isSoleKey p = false
  first : o.FirstSuggested entities p.column e key

/-- The single primary key of an entity, as what a column name suggests. -/
def destinationOf (e : Entity) (key : Property) : Destination :=
  ⟨e.raw, key.column, key.valueType⟩

variable {o : Options}

theorem mem_nameVariants {raw base : String} :
    base ∈ nameVariants raw ↔ base = raw ∨ base = Inflection.singularize raw := by
  unfold nameVariants
  dsimp only
  split
  case isTrue h => simp [eq_of_beq h]
  case isFalse => simp

theorem lower_mem_referenceNames {e : Entity} {key : Property} {column : String} :
    Text.lower column ∈ o.referenceNames e key ↔ o.Names e key column := by
  have hnamed : (∃ name ∈ (nameVariants e.raw).flatMap fun base =>
        o.foreignKeySuffixes.flatMap fun suffix => [base ++ suffix, base ++ "_" ++ suffix],
        Text.lower name = Text.lower column) ↔
      ∃ base, (base = e.raw ∨ base = Inflection.singularize e.raw) ∧
        ∃ suffix ∈ o.foreignKeySuffixes, Text.lower column = Text.lower (base ++ suffix) ∨
          Text.lower column = Text.lower (base ++ "_" ++ suffix) := by
    simp only [List.mem_flatMap, List.mem_cons, List.not_mem_nil, or_false, mem_nameVariants]
    constructor
    · rintro ⟨name, ⟨base, hbase, suffix, hsuffix, rfl | rfl⟩, hname⟩
      · exact ⟨base, hbase, suffix, hsuffix, .inl hname.symm⟩
      · exact ⟨base, hbase, suffix, hsuffix, .inr hname.symm⟩
    · rintro ⟨base, hbase, suffix, hsuffix, hname | hname⟩
      · exact ⟨_, ⟨base, hbase, suffix, hsuffix, .inl rfl⟩, hname.symm⟩
      · exact ⟨_, ⟨base, hbase, suffix, hsuffix, .inr rfl⟩, hname.symm⟩
  unfold Options.referenceNames Options.Names
  rw [List.mem_map, ← hnamed]
  cases o.foreignKeyNeedsTableName with
  | true => simp
  | false =>
      simp only [Bool.false_eq_true, if_false, List.mem_append, List.mem_singleton, or_and_right,
        exists_or, exists_eq_left, true_and]
      rw [eq_comm (a := Text.lower key.column)]

theorem lookup_map_const {names : List String} {name : String} {d found : Destination} :
    (names.map (·, d)).lookup name = some found ↔ name ∈ names ∧ found = d := by
  induction names with
  | nil => simp
  | cons head rest ih =>
      rw [List.map_cons, List.lookup_cons]
      by_cases h : name = head
      · simp [h, eq_comm]
      · rw [beq_false_of_ne h]
        simpa [h] using ih

/-! ## The table of destinations -/

theorem destinations_cons (e : Entity) (rest : List Entity) :
    o.destinations (e :: rest) = o.destinations [e] ++ o.destinations rest := by
  simp [Options.destinations]

theorem lookup_destinations_singleton {e : Entity} {column : String} {d : Destination} :
    (o.destinations [e]).lookup (Text.lower column) = some d ↔
      ∃ key, o.Suggests column e key ∧ d = destinationOf e key := by
  rw [Options.destinations, List.flatMap_singleton]
  constructor
  · intro h
    split at h
    case h_1 key heligible hkey =>
      obtain ⟨hname, rfl⟩ := lookup_map_const.mp h
      exact ⟨key, ⟨heligible, hkey, lower_mem_referenceNames.mp hname⟩, rfl⟩
    case h_2 => cases h
  · rintro ⟨key, ⟨heligible, hkey, hnames⟩, rfl⟩
    rw [heligible, hkey]
    exact lookup_map_const.mpr ⟨lower_mem_referenceNames.mpr hnames, rfl⟩

theorem lookup_destinations_singleton_none {e : Entity} {column : String} :
    (o.destinations [e]).lookup (Text.lower column) = none ↔
      ∀ key, ¬ o.Suggests column e key := by
  constructor
  · intro hnone key hkey
    rw [lookup_destinations_singleton.mpr ⟨key, hkey, rfl⟩] at hnone
    cases hnone
  · intro h
    refine Option.eq_none_iff_forall_ne_some.mpr fun d hd => ?_
    obtain ⟨key, hkey, -⟩ := lookup_destinations_singleton.mp hd
    exact h key hkey

theorem firstSuggested_cons {e d : Entity} {rest : List Entity} {column : String}
    {key : Property} :
    o.FirstSuggested (e :: rest) column d key ↔
      d = e ∧ o.Suggests column e key ∨
        (∀ other, ¬ o.Suggests column e other) ∧ o.FirstSuggested rest column d key := by
  constructor
  · rintro ⟨before, after, hsplit, hsuggests, hnone⟩
    cases before with
    | nil =>
        obtain ⟨rfl, rfl⟩ := List.cons.inj hsplit
        exact .inl ⟨rfl, hsuggests⟩
    | cons head before =>
        obtain ⟨rfl, rfl⟩ := List.cons.inj hsplit
        exact .inr ⟨hnone e List.mem_cons_self, before, after, rfl, hsuggests,
          fun other hother => hnone other (List.mem_cons_of_mem e hother)⟩
  · rintro (⟨rfl, hsuggests⟩ | ⟨hhead, before, after, rfl, hsuggests, hnone⟩)
    · exact ⟨[], rest, rfl, hsuggests, by simp⟩
    · refine ⟨e :: before, after, rfl, hsuggests, fun other hother => ?_⟩
      rcases List.mem_cons.mp hother with rfl | hother
      · exact hhead
      · exact hnone other hother

/-- The table of destinations holds the first entity that a column name suggests. -/
theorem lookup_destinations {entities : List Entity} {column : String} {d : Destination} :
    (o.destinations entities).lookup (Text.lower column) = some d ↔
      ∃ e key, o.FirstSuggested entities column e key ∧ d = destinationOf e key := by
  induction entities with
  | nil =>
      have hempty : ∀ e key, ¬ o.FirstSuggested [] column e key := by
        rintro e key ⟨before, after, hsplit, -⟩
        simp at hsplit
      simp [Options.destinations, hempty]
  | cons e rest ih =>
      rw [destinations_cons, List.lookup_append, Option.or_eq_some_iff,
        lookup_destinations_singleton, lookup_destinations_singleton_none, ih]
      simp only [firstSuggested_cons]
      constructor
      · rintro (⟨key, hkey, rfl⟩ | ⟨hnone, d, key, hfirst, rfl⟩)
        · exact ⟨e, key, .inl ⟨rfl, hkey⟩, rfl⟩
        · exact ⟨d, key, .inr ⟨hnone, hfirst⟩, rfl⟩
      · rintro ⟨d, key, ⟨rfl, hkey⟩ | ⟨hnone, hfirst⟩, rfl⟩
        · exact .inl ⟨key, hkey, rfl⟩
        · exact .inr ⟨hnone, d, key, hfirst, rfl⟩

/-! ## What detection does with one property -/

variable (o) in
def Options.suggested? (destinations : List (String × Destination)) (owner : Entity)
    (p : Property) : Option Destination :=
  if o.detectForeignKeys && o.isEligible owner && !owner.isSoleKey p then
    destinations.lookup (Text.lower p.column)
  else none

theorem suggested?_eq_some {entities : List Entity} {owner : Entity} {p : Property}
    {d : Destination} :
    o.suggested? (o.destinations entities) owner p = some d ↔
      ∃ e key, o.Leads entities owner p e key ∧ d = destinationOf e key := by
  unfold Options.suggested?
  constructor
  · intro h
    split at h
    case isTrue hasks =>
      simp only [Bool.and_eq_true, Bool.not_eq_true'] at hasks
      obtain ⟨⟨hdetect, heligible⟩, hkey⟩ := hasks
      obtain ⟨e, key, hfirst, hd⟩ := lookup_destinations.mp h
      exact ⟨e, key, ⟨hdetect, heligible, hkey, hfirst⟩, hd⟩
    case isFalse => cases h
  · rintro ⟨e, key, ⟨hdetect, heligible, hkey, hfirst⟩, hd⟩
    rw [hdetect, heligible, hkey]
    exact lookup_destinations.mpr ⟨e, key, hfirst, hd⟩

theorem suggested?_of_keyless {destinations : List (String × Destination)} {e f : Entity}
    {p q : Property} (hentity : f.keyless = e.keyless) (hproperty : q.keyless = p.keyless) :
    o.suggested? destinations f q = o.suggested? destinations e p := by
  have heligible : o.isEligible f = o.isEligible e := by
    have hkind : f.keyless.kind = e.keyless.kind := by rw [hentity]
    rw [Options.isEligible, Options.isEligible, show f.kind = e.kind from hkind]
  have hkey : f.isSoleKey q = e.isSoleKey p := by
    rw [← isSoleKey_keyless, hentity, hproperty, isSoleKey_keyless]
  have hcolumn : q.keyless.column = p.keyless.column := by rw [hproperty]
  rw [Options.suggested?, heligible, hkey, show q.column = p.column from hcolumn,
    Options.suggested?]

variable (o) in
def Options.detection (destinations : List (String × Destination)) (owner : Entity)
    (p : Property) : Property × List Finding :=
  (o.suggested? destinations owner p).elim (p, []) (refer owner p)

theorem detectForeignKey_eq_detection {destinations : List (String × Destination)}
    {owner : Entity} (hdetect : o.detectForeignKeys = true) (heligible : o.isEligible owner = true)
    (p : Property) : detectForeignKey destinations owner p = o.detection destinations owner p := by
  unfold Options.detection Options.suggested?
  rw [hdetect, heligible]
  cases hkey : owner.isSoleKey p with
  | true => exact detectForeignKey_of_isSoleKey hkey
  | false => exact detectForeignKey_of_not hkey

theorem detection_of_off {destinations : List (String × Destination)} {owner : Entity}
    (hoff : (o.detectForeignKeys && o.isEligible owner) = false) (p : Property) :
    o.detection destinations owner p = (p, []) := by
  simp [Options.detection, Options.suggested?, hoff]

theorem keyEntity_eq_detection (destinations : List (String × Destination)) (e : Entity) :
    (o.keyEntity destinations e).properties =
      e.properties.map fun p => (o.detection destinations e p).1 := by
  unfold Options.keyEntity
  cases hdetect : o.detectForeignKeys with
  | false => simp [detection_of_off, hdetect]
  | true =>
      cases heligible : o.isEligible e with
      | false => simp [Options.detectForeignKeys?, detection_of_off, heligible]
      | true =>
          simp only [if_true, detectForeignKeys?_of_isEligible heligible,
            detectForeignKey_eq_detection hdetect heligible]

theorem detection_keyless (destinations : List (String × Destination)) (owner : Entity)
    (p : Property) : (o.detection destinations owner p).1.keyless = p.keyless := by
  unfold Options.detection
  cases o.suggested? destinations owner p with
  | none => rfl
  | some d =>
      simp only [Option.elim_some, refer]
      split <;> split <;> rfl

def conflict? (owner : Entity) (p : Property) (d : Destination) : Option Diagnostic :=
  p.foreignKey.bind fun key =>
    if Text.lower key.table = Text.lower d.table then none
    else some (ambiguousKey owner p key.table d)

theorem reports_refer (owner : Entity) (p : Property) (d : Destination) :
    reports (refer owner p d).2 = (conflict? owner p d).toList := by
  unfold refer conflict?
  cases p.foreignKey with
  | none =>
      dsimp only
      split <;> rfl
  | some key =>
      by_cases hsame : Text.lower key.table = Text.lower d.table
      · simp [hsame, reports]
      · simp [hsame, reports, Finding.diagnostic?]

theorem code_of_conflict? {owner : Entity} {p : Property} {d : Destination} {report : Diagnostic}
    (h : conflict? owner p d = some report) : report.code = .ambiguousForeignKey := by
  obtain ⟨key, -, h⟩ := Option.bind_eq_some_iff.mp h
  split at h
  · cases h
  · cases h
    rfl

/-! ## The pass for foreign keys -/

theorem isUnresolved_of_mem_endReports {entities : List Entity} {d : Diagnostic}
    (h : d ∈ o.endReports entities) : d.code.isUnresolved = true := by
  unfold Options.endReports at h
  split at h
  · obtain ⟨e, -, h⟩ := List.mem_flatMap.mp h
    exact (mem_entityFaults h).1
  · cases h

theorem reports_foreignKeyPass (entities : List Entity) :
    reports (o.foreignKeyPass entities).2 =
      entities.flatMap fun e => e.properties.filterMap fun p =>
        (o.suggested? (o.destinations entities) e p).bind (conflict? e p) := by
  have hreports : ∀ (e : Entity) (p : Property),
      reports (o.detection (o.destinations entities) e p).2 =
        ((o.suggested? (o.destinations entities) e p).bind (conflict? e p)).toList := by
    intro e p
    unfold Options.detection
    cases o.suggested? (o.destinations entities) e p with
    | none => rfl
    | some d => exact reports_refer e p d
  simp only [List.filterMap_eq_flatMap_toList, ← hreports]
  unfold Options.foreignKeyPass
  cases hdetect : o.detectForeignKeys with
  | false => simp [detection_of_off, hdetect, reports]
  | true =>
      simp only [if_true, Pass.each, List.flatMap_map, reports_flatMap]
      refine List.flatMap_congr fun e _ => ?_
      cases heligible : o.isEligible e with
      | false => simp [Options.detectForeignKeys?, detection_of_off, heligible, reports]
      | true =>
          simp only [detectForeignKeys?_of_isEligible heligible, reports_flatMap,
            detectForeignKey_eq_detection hdetect heligible]

theorem refine_conflicts (db : Database) :
    (refine o db).diagnostics.filter (·.code == .ambiguousForeignKey) =
      (refine o db).entities.flatMap fun e => e.properties.filterMap fun p =>
        (o.suggested? (o.destinations (refine o db).entities) e p).bind (conflict? e p) := by
  have hkeys : o.keyReports (db.entities.map Entity.unnamed) =
      (refine o db).entities.flatMap fun e => e.properties.filterMap fun p =>
        (o.suggested? (o.destinations (refine o db).entities) e p).bind (conflict? e p) := by
    rw [← (foreignKeyPass_keyed _).2, ← refine_unnamed, foreignKeyPass_unnamed,
      reports_foreignKeyPass]
  have hambiguous : ∀ d ∈ o.keyReports (db.entities.map Entity.unnamed),
      d.code = .ambiguousForeignKey := by
    intro d hd
    rw [hkeys] at hd
    obtain ⟨e, -, hd⟩ := List.mem_flatMap.mp hd
    obtain ⟨p, -, hd⟩ := List.mem_filterMap.mp hd
    obtain ⟨found, -, hd⟩ := Option.bind_eq_some_iff.mp hd
    exact code_of_conflict? hd
  have hends : (o.endReports (o.keyed (db.entities.map Entity.unnamed))).filter
      (·.code == .ambiguousForeignKey) = [] := by
    refine List.filter_eq_nil_iff.mpr fun d hd hambiguous => ?_
    have hcode := isUnresolved_of_mem_endReports hd
    rw [eq_of_beq hambiguous] at hcode
    cases hcode
  have hfilter : ∀ ds : List Diagnostic, (ds.filter (·.code != .genericSingular)).filter
      (·.code == .ambiguousForeignKey) = ds.filter (·.code == .ambiguousForeignKey) := by
    intro ds
    rw [List.filter_filter]
    refine List.filter_congr fun d _ => ?_
    cases d.code <;> rfl
  rw [← hfilter, refine_reports, hfilter, List.filter_append, hends, List.append_nil, ← hkeys,
    List.filter_eq_self]
  exact fun d hd => beq_iff_eq.mpr (hambiguous d hd)

/-! ## Which keys are detected, and which are reported -/

/-- A property has a detected key exactly if it had none and its name leads to an entity whose key
has its type; the detected key refers to this one.  Otherwise it is left with what it had. -/
structure Options.Detects (o : Options) (entities : List Entity) (owner : Entity)
    (before after : Property) : Prop where
  detected : ∀ key, after.reference = (some key, true) ↔
    before.foreignKey = none ∧ ∃ e target, o.Leads entities owner after e target ∧
      target.valueType = after.valueType ∧ key = detectedKey after (destinationOf e target)
  kept : (∀ key, after.reference ≠ (some key, true)) →
    after.reference = (before.foreignKey, false)

/-- The report of a declared key that names another table than the one its property leads to. -/
def Options.Contradicts (o : Options) (entities : List Entity) (owner : Entity) (p : Property)
    (report : Diagnostic) : Prop :=
  ∃ key e target, p.reference = (some key, false) ∧ o.Leads entities owner p e target ∧
    Text.lower e.raw ≠ Text.lower key.table ∧
    report = ambiguousKey owner p key.table (destinationOf e target)

/-- The detected keys are those that the names of properties suggest, and one report comes of each
property whose declared key they contradict, in the order of the model. -/
structure Options.DetectsKeys (o : Options) (before after : Database) : Prop where
  keys : List.Forall₂ (fun e owner =>
    List.Forall₂ (o.Detects after.entities owner) e.properties owner.properties)
    before.entities after.entities
  reports : ∃ report : Entity → Property → Option Diagnostic,
    after.diagnostics.filter (·.code == .ambiguousForeignKey) =
      after.entities.flatMap (fun owner => owner.properties.filterMap (report owner)) ∧
    ∀ owner ∈ after.entities, ∀ p ∈ owner.properties, ∀ d,
      report owner p = some d ↔ o.Contradicts after.entities owner p d

variable (o) in
def Options.gainedKey? (destinations : List (String × Destination)) (owner : Entity)
    (declared : Option ForeignKey) (p : Property) : Option ForeignKey :=
  if declared.isNone then
    ((o.suggested? destinations owner p).filter (·.valueType = p.valueType)).map (detectedKey p)
  else none

theorem reference_unnamed (p : Property) : p.unnamed.reference = p.reference := rfl

theorem gainedKey?_eq_some {entities : List Entity} {owner : Entity}
    {declared : Option ForeignKey} {p : Property} {key : ForeignKey} :
    o.gainedKey? (o.destinations entities) owner declared p = some key ↔
      declared = none ∧ ∃ e target, o.Leads entities owner p e target ∧
        target.valueType = p.valueType ∧ key = detectedKey p (destinationOf e target) := by
  unfold Options.gainedKey?
  cases declared with
  | some declared => simp
  | none =>
      simp only [Option.isNone_none, if_true, Option.map_eq_some_iff, Option.filter_eq_some_iff,
        decide_eq_true_eq, suggested?_eq_some, true_and]
      constructor
      · rintro ⟨d, ⟨⟨e, target, hleads, rfl⟩, htype⟩, rfl⟩
        exact ⟨e, target, hleads, htype, rfl⟩
      · rintro ⟨e, target, hleads, htype, rfl⟩
        exact ⟨_, ⟨⟨e, target, hleads, rfl⟩, htype⟩, rfl⟩

theorem gainedKey?_of_keyless {destinations : List (String × Destination)} {e f : Entity}
    {p q : Property} (hentity : f.keyless = e.keyless) (hproperty : q.keyless = p.keyless)
    (declared : Option ForeignKey) :
    o.gainedKey? destinations f declared q = o.gainedKey? destinations e declared p := by
  have hcolumn : q.column = p.column :=
    show q.keyless.column = p.keyless.column by rw [hproperty]
  have htype : q.valueType = p.valueType :=
    show q.keyless.valueType = p.keyless.valueType by rw [hproperty]
  have hkey : detectedKey q = detectedKey p := by
    funext d
    rw [detectedKey, detectedKey, hcolumn]
  rw [Options.gainedKey?, suggested?_of_keyless hentity hproperty, htype, hkey, Options.gainedKey?]

theorem detection_reference (destinations : List (String × Destination)) (owner : Entity)
    (p : Property) :
    (o.detection destinations owner p).1.reference =
      (o.gainedKey? destinations owner p.foreignKey p).elim p.reference fun key =>
        (some key, true) := by
  unfold Options.detection Options.gainedKey?
  cases o.suggested? destinations owner p with
  | none => simp
  | some d =>
      cases hkey : p.foreignKey with
      | some declared =>
          simp only [Option.elim_some, refer, hkey]
          split <;> rfl
      | none =>
          by_cases htype : d.valueType = p.valueType
          · simp [refer, hkey, htype, Property.reference, Option.filter_some]
          · simp [refer, hkey, htype, Option.filter_some]

section

variable {entities : List Entity} {e owner : Entity} (hentity : owner.keyless = e.keyless)

include hentity

theorem detects_of_unnamed {p before after : Property}
    (hbefore : before.reference = (p.foreignKey, false))
    (hafter : after.unnamed =
      (o.detection (o.destinations entities) e before).1.unnamed) :
    o.Detects entities owner p after := by
  have hdeclared : before.foreignKey = p.foreignKey := congrArg Prod.fst hbefore
  have hkeyless : after.keyless = before.keyless := by
    rw [← detection_keyless (o := o) (o.destinations entities) e before, Property.keyless, hafter,
      Property.keyless]
  have hreference : after.reference =
      (o.gainedKey? (o.destinations entities) owner p.foreignKey after).elim (p.foreignKey, false)
        fun key => (some key, true) :=
    calc after.reference
      _ = (o.detection (o.destinations entities) e before).1.reference :=
          by rw [← reference_unnamed, hafter, reference_unnamed]
      _ = (o.gainedKey? (o.destinations entities) e before.foreignKey before).elim
            before.reference fun key => (some key, true) := detection_reference _ e before
      _ = _ := by rw [gainedKey?_of_keyless hentity hkeyless, hdeclared, hbefore]
  constructor
  · intro key
    rw [hreference, ← gainedKey?_eq_some]
    cases o.gainedKey? (o.destinations entities) owner p.foreignKey after <;> simp
  · rw [hreference]
    cases o.gainedKey? (o.destinations entities) owner p.foreignKey after <;> simp

end

theorem conflict?_eq_some {entities : List Entity} {owner : Entity} {p before : Property}
    (h : o.Detects entities owner before p) {report : Diagnostic} :
    (o.suggested? (o.destinations entities) owner p).bind (conflict? owner p) = some report ↔
      o.Contradicts entities owner p report := by
  rw [Option.bind_eq_some_iff]
  constructor
  · rintro ⟨d, hd, hconflict⟩
    obtain ⟨e, target, hleads, rfl⟩ := suggested?_eq_some.mp hd
    obtain ⟨key, hkey, hreport⟩ := Option.bind_eq_some_iff.mp hconflict
    split at hreport
    case isTrue => cases hreport
    case isFalse hdiffers =>
      cases hreport
      refine ⟨key, e, target, ?_, hleads, fun hsame => hdiffers hsame.symm, rfl⟩
      cases hdetected : p.foreignKeyDetected with
      | false => rw [Property.reference, hkey, hdetected]
      | true =>
          have hreference : p.reference = (some key, true) := by
            rw [Property.reference, hkey, hdetected]
          obtain ⟨-, f, found, hleads', -, rfl⟩ := (h.detected key).mp hreference
          have hsame := suggested?_eq_some.mpr ⟨f, found, hleads', rfl⟩
          rw [hd] at hsame
          obtain hsame := Option.some.inj hsame
          exact absurd (by rw [hsame]; rfl) hdiffers
  · rintro ⟨key, e, target, hreference, hleads, hdiffers, rfl⟩
    refine ⟨destinationOf e target, suggested?_eq_some.mpr ⟨e, target, hleads, rfl⟩, ?_⟩
    have hkey : p.foreignKey = some key := congrArg Prod.fst hreference
    rw [conflict?, hkey, Option.bind_some, if_neg (fun hsame => hdiffers hsame.symm)]

/-! ## The named model of a schema -/

theorem refine_detects (o : Options) {db : Database}
    (hdeclared : ∀ e ∈ db.entities, ∀ p ∈ e.properties, p.foreignKeyDetected = false) :
    List.Forall₂ (fun e owner => List.Forall₂ (o.Detects (refine o db).entities owner)
      e.properties owner.properties) db.entities (refine o db).entities := by
  refine ((List.forall₂_and_left _ _).mpr
    ⟨hdeclared, forall₂_of_map_eq (refine_eq_map o db)⟩).imp fun e owner ⟨hown, hunnamed⟩ => ?_
  have hentity : owner.keyless = (o.typeEntity e).keyless := by
    rw [← keyless_unnamed, hunnamed, keyless_unnamed, keyEntity_keyless]
  have htyped : List.Forall₂ (fun p q => q.reference = (p.foreignKey, false)) e.properties
      (o.typeEntity e).properties :=
    ((List.forall₂_and_left _ _).mpr
      ⟨hown, forall₂_of_map_eq (typeEntity_references o e)⟩).imp fun p q ⟨hp, hq⟩ => by
        rw [hq, Property.reference, hp]
  have hkeyed : owner.properties.map Property.unnamed =
      (o.keyEntity (o.destinations (refine o db).entities)
        (o.typeEntity e)).properties.map Property.unnamed :=
    congrArg Entity.properties hunnamed
  rw [keyEntity_eq_detection, List.map_map] at hkeyed
  exact forall₂_trans htyped (forall₂_of_map_eq hkeyed) fun _ _ _ => detects_of_unnamed hentity

theorem ofSchema_declared (schema : Schema) (name : String) :
    ∀ e ∈ (Database.ofSchema schema name).entities, ∀ p ∈ e.properties,
      p.foreignKeyDetected = false := by
  intro e he p hp
  rcases List.mem_append.mp he with he | he <;>
  · obtain ⟨object, -, rfl⟩ := List.mem_map.mp he
    obtain ⟨column, -, rfl⟩ := List.mem_map.mp hp
    rfl

theorem fancify_keys (o : Options) (schema : Schema) (name : String) :
    List.Forall₂ (fun e owner =>
      List.Forall₂ (o.Detects (fancify o schema name).entities owner) e.properties
        owner.properties)
      (Database.ofSchema schema name).entities (fancify o schema name).entities :=
  refine_detects o (ofSchema_declared schema name)

/-- Detection of foreign keys is exact: the table of destinations that a run builds and consults
amounts to the first entity that a column name suggests. -/
theorem fancify_detectsKeys (o : Options) (schema : Schema) (name : String) :
    o.DetectsKeys (.ofSchema schema name) (fancify o schema name) where
  keys := fancify_keys o schema name
  reports := by
    refine ⟨_, refine_conflicts (.ofSchema schema name), fun owner howner p hp d => ?_⟩
    obtain ⟨e, -, hdetects⟩ := exists_of_forall₂ (fancify_keys o schema name) howner
    obtain ⟨before, -, hbefore⟩ := exists_of_forall₂ hdetects hp
    exact conflict?_eq_some hbefore

/-! ## Keys to the own table -/

/-- A property has a detected key to the table of its own entity. -/
def RefersToOwner (owner : Entity) (p : Property) : Prop :=
  ∃ key, p.reference = (some key, true) ∧ key.table = owner.raw

theorem Options.Leads.ne_target {entities : List Entity} {owner : Entity} {p target : Property}
    (h : o.Leads entities owner p owner target) : target ≠ p := by
  rintro rfl
  obtain ⟨-, -, -, hsuggests, -⟩ := h.first
  have hnot := h.notKey
  rw [isSoleKey_of_primaryKey? hsuggests.primaryKey] at hnot
  cases hnot

/-- Keys to the own table are detected like any other.  A property gets one exactly if it had no
key and its name leads to an entity of that name whose key has its type; only the key itself is
never taken for a reference to itself. -/
theorem fancify_selfReferences (o : Options) (schema : Schema) (name : String) :
    List.Forall₂ (fun e owner => List.Forall₂ (fun p q =>
        (RefersToOwner owner q ↔ p.foreignKey = none ∧
          ∃ e target, o.Leads (fancify o schema name).entities owner q e target ∧
            target.valueType = q.valueType ∧ e.raw = owner.raw) ∧
        ∀ target, o.Leads (fancify o schema name).entities owner q owner target → target ≠ q)
        e.properties owner.properties)
      (Database.ofSchema schema name).entities (fancify o schema name).entities := by
  refine (fancify_keys o schema name).imp fun e owner h => h.imp fun p q hdetects => ?_
  refine ⟨⟨?_, ?_⟩, fun target => Options.Leads.ne_target⟩
  · rintro ⟨key, hkey, htable⟩
    obtain ⟨hnone, e, target, hleads, htype, rfl⟩ := (hdetects.detected key).mp hkey
    exact ⟨hnone, e, target, hleads, htype, htable⟩
  · rintro ⟨hnone, e, target, hleads, htype, hraw⟩
    exact ⟨_, (hdetects.detected _).mpr ⟨hnone, e, target, hleads, htype, rfl⟩, hraw⟩

def personSchema : Schema :=
  { Schema.empty with
    tables := [⟨"person", "", [⟨0, "id", none, false, none, true⟩,
      ⟨1, "person_id", none, false, none, false⟩], []⟩] }

example : ((fancify .default personSchema "people").entities.map fun e =>
    e.properties.map fun p => (p.foreignKey.map (·.table), p.foreignKeyDetected)) =
      [[(none, false), (some "person", true)]] := by
  decide +kernel

end Naming

end RecordLoom
