import RecordLoom.Proofs.Record.SoundTypes

/-!
# What building a unit can do

Building fails for one reason only, a default that has no double, as long as every relationship
finds its ends.  What it builds is well-formed and declares no variable without a type or a value,
so that it is printed unless one of its integers has too many digits.
-/

namespace RecordLoom

open RecordLoom.Catalog
open RecordLoom.Code
open RecordLoom.Entity

namespace Record

variable (o : Output)

/-! ## Accessors -/

/-- Every relationship of a model finds its ends. -/
def EndsFound (db : Database) : Prop :=
  ∀ e ∈ db.entities, ∀ r ∈ e.relationships, ∃ ends, requireEnds db e r = .ok ends

theorem requireEnds_ok {db : Database} {owner destination : Entity} {r : Relationship}
    (hdestination : db.entity? r.destination = some destination)
    (hsource : ∃ p ∈ owner.properties, p.column = r.source)
    (htarget : ∃ p ∈ destination.properties, p.column = r.target) :
    ∃ ends, requireEnds db owner r = .ok ends := by
  obtain ⟨p, hp, hpcolumn⟩ := hsource
  obtain ⟨q, hq, hqcolumn⟩ := htarget
  obtain ⟨source, hsource, -⟩ : ∃ found,
      findNamed Property.column owner.properties p.column = some found ∧ _ := exists_findNamed hp
  obtain ⟨target, htarget, -⟩ : ∃ found,
      findNamed Property.column destination.properties q.column = some found ∧ _ :=
    exists_findNamed hq
  rw [hpcolumn] at hsource
  rw [hqcolumn] at htarget
  have hends : ends? db owner r = some ⟨source, destination, target⟩ := by
    simp [ends?, hdestination, Entity.property?, hsource, htarget]
  exact ⟨_, by rw [requireEnds, hends]⟩

theorem requireEnds_reported {db : Database} {owner : Entity} {r : Relationship} {f : Failure}
    (h : faultOf (requireEnds db owner r) = some f) : f.isReported = true := by
  unfold requireEnds at h
  split at h
  · cases h
  · cases h
    rfl

theorem lookupCall_fault? {g : Gaps} (name : String) (ends : Ends) (extra : List Argument)
    (h : argumentsFault? g extra = none) :
    (lookupCall name ends extra).expressionFault? g = none := by
  simp [lookupCall, bare, labelled, Node.expressionFault?, Invocation.fault?, baseFault?,
    argumentsFault?, trailingFault?, optionalTypeFault?, h]

theorem findFunction_fault? {g : Gaps} {db : Database} {owner : Entity} {r : Relationship}
    {f : Function} (h : o.findFunction db owner r = .ok f) : f.fault? g = none := by
  obtain ⟨ends, -, h⟩ := bind_eq_ok h
  cases h
  simp [Function.fault?, Signature.fault?, Param.fault?, Output.recordParam, optionalValueFault?,
    Node.typeFault?, statementsFault?, Node.statementFault?,
    lookupCall_fault? "find" ends [] rfl]

theorem fetchFunction_fault? {g : Gaps} {db : Database} {owner : Entity} {r : Relationship}
    {f : Function} (h : o.fetchFunction db owner r = .ok f) : f.fault? g = none := by
  obtain ⟨ends, -, h⟩ := bind_eq_ok h
  cases h
  have hlookup := lookupCall_fault? (g := g) "fetch" ends
    [labelled "limit" (.variableRef "limit")] rfl
  simp [Function.fault?, Signature.fault?, Param.fault?, Output.recordParam, optionalValueFault?,
    intNode, Node.named, typesFault?, Node.typeFault?, statementsFault?, Node.statementFault?,
    Node.expressionFault?, hlookup]

theorem accessor_cases {db : Database} {accessors : List Function}
    (h : o.accessorFunctions db = .ok accessors) {f : Function} (hf : f ∈ accessors) :
    (∃ e ∈ db.entities, ∃ r ∈ e.toOne, o.findFunction db e r = .ok f) ∨
      ∃ e ∈ db.entities, ∃ r ∈ e.toMany, o.fetchFunction db e r = .ok f := by
  obtain ⟨finds, hfinds, h⟩ := bind_eq_ok h
  obtain ⟨fetches, hfetches, h⟩ := bind_eq_ok h
  cases h
  simp only [List.mem_append, List.mem_flatten] at hf
  rcases hf with ⟨functions, hmem, hf⟩ | ⟨functions, hmem, hf⟩
  · obtain ⟨e, he, hfunctions⟩ := mem_of_mapM hfinds hmem
    exact .inl ⟨e, he, mem_of_mapM hfunctions hf⟩
  · obtain ⟨e, he, hfunctions⟩ := mem_of_mapM hfetches hmem
    exact .inr ⟨e, he, mem_of_mapM hfunctions hf⟩

theorem accessorFunctions_fault? {g : Gaps} {db : Database} {accessors : List Function}
    (h : o.accessorFunctions db = .ok accessors) : ∀ f ∈ accessors, f.fault? g = none := by
  intro f hf
  rcases accessor_cases o h hf with ⟨e, -, r, -, hfind⟩ | ⟨e, -, r, -, hfetch⟩
  · exact findFunction_fault? o hfind
  · exact fetchFunction_fault? o hfetch

theorem faultOf_accessorFunctions (db : Database) :
    faultOf (o.accessorFunctions db) =
      (db.entities.findSome? fun e => e.toOne.findSome? fun r => faultOf (requireEnds db e r)).or
        (db.entities.findSome? fun e =>
          e.toMany.findSome? fun r => faultOf (requireEnds db e r)) := by
  have hfind : ∀ e : Entity, faultOf (e.toOne.mapM (o.findFunction db e)) =
      e.toOne.findSome? fun r => faultOf (requireEnds db e r) := fun e =>
    (faultOf_mapM ..).trans (by simp only [Output.findFunction, faultOf_bind_pure])
  have hfetch : ∀ e : Entity, faultOf (e.toMany.mapM (o.fetchFunction db e)) =
      e.toMany.findSome? fun r => faultOf (requireEnds db e r) := fun e =>
    (faultOf_mapM ..).trans (by simp only [Output.fetchFunction, faultOf_bind_pure])
  rw [Output.accessorFunctions, faultOf_bind fun finds => faultOf_bind_pure .., faultOf_mapM,
    faultOf_mapM]
  simp only [hfind, hfetch]

theorem accessorFunctions_ok_iff {db : Database} :
    faultOf (o.accessorFunctions db) = none ↔ EndsFound db := by
  rw [faultOf_accessorFunctions, Option.or_eq_none_iff]
  simp only [List.findSome?_eq_none_iff, faultOf_eq_none_iff, Entity.toOne, Entity.toMany,
    List.mem_filter]
  constructor
  · rintro ⟨hfinds, hfetches⟩ e he r hr
    cases hmany : r.toMany with
    | true => exact hfetches e he r ⟨hr, hmany⟩
    | false => exact hfinds e he r ⟨hr, by rw [hmany]; rfl⟩
  · intro hends
    exact ⟨fun e he r hr => hends e he r hr.1, fun e he r hr => hends e he r hr.1⟩

theorem accessorFunctions_reported {db : Database} {f : Failure}
    (h : faultOf (o.accessorFunctions db) = some f) : f.isReported = true := by
  rw [faultOf_accessorFunctions, Option.or_eq_some_iff] at h
  rcases h with h | ⟨-, h⟩
  all_goals
    obtain ⟨e, -, he⟩ := List.exists_of_findSome?_eq_some h
    obtain ⟨r, -, hr⟩ := List.exists_of_findSome?_eq_some he
    exact requireEnds_reported hr

/-! ## Units -/

def assemble (db : Database) (accessors : List Function) (records : List TypeDef) :
    CompilationUnit where
  name := db.name
  header := o.header
  imports := o.imports
  reexports := o.reexports
  structures := o.databaseType db :: records
  extensions := o.extensions db accessors

theorem unit_eq (db : Database) :
    o.unit db = (if o.accessors then o.accessorFunctions db else pure []) >>= fun accessors =>
      db.entities.mapM (o.recordType db) >>= fun records =>
        pure (assemble o db accessors records) := by
  unfold Output.unit
  split <;> rfl

theorem exists_assemble {db : Database} {u : CompilationUnit} (h : o.unit db = .ok u) :
    ∃ accessors records, (if o.accessors then o.accessorFunctions db else pure []) = .ok accessors ∧
      db.entities.mapM (o.recordType db) = .ok records ∧ assemble o db accessors records = u := by
  rw [unit_eq] at h
  obtain ⟨accessors, haccessors, h⟩ := bind_eq_ok h
  obtain ⟨records, hrecords, h⟩ := bind_eq_ok h
  exact ⟨accessors, records, haccessors, hrecords, Except.ok.inj h⟩

theorem forall_mem_wanted {P : Function → Prop} {db : Database} {accessors : List Function}
    (h : (if o.accessors then o.accessorFunctions db else pure []) = .ok accessors)
    (hall : o.accessorFunctions db = .ok accessors → ∀ f ∈ accessors, P f) :
    ∀ f ∈ accessors, P f := by
  split at h
  case isTrue => exact hall h
  case isFalse =>
    cases h
    exact List.forall_mem_nil P

theorem mem_extensions {db : Database} {accessors : List Function} {extension : Extension}
    (h : extension ∈ o.extensions db accessors) :
    extension = { extendedType := .named db.name, visibility := o.visibility,
                  functions := accessors } := by
  unfold Output.extensions at h
  split at h
  case isTrue => cases h
  case isFalse => exact List.mem_singleton.mp h

theorem faultOf_unit (db : Database) :
    faultOf (o.unit db) =
      (if o.accessors then faultOf (o.accessorFunctions db) else none).or
        (if db.overflows then some (.conversion .beyondDouble) else none) := by
  have hrecords : faultOf (db.entities.mapM (o.recordType db)) =
      if db.overflows then some (.conversion .beyondDouble) else none := by
    rw [faultOf_mapM]
    simp only [faultOf_recordType]
    rw [findSome?_if fun e : Entity => e.properties.any (·.overflows), Database.overflows]
  rw [unit_eq, faultOf_bind fun accessors => (faultOf_bind_pure ..).trans hrecords]
  split <;> rfl

theorem faultOf_unit_of_endsFound {db : Database} (hends : EndsFound db) :
    faultOf (o.unit db) = if db.overflows then some (.conversion .beyondDouble) else none := by
  rw [faultOf_unit, (accessorFunctions_ok_iff o).mpr hends, ite_self, Option.none_or]

/-- Building a unit fails without a code exactly if a default has no double and no relationship is
found to lack its ends before that. -/
theorem unit_unreported_iff {db : Database} :
    (∃ f, o.unit db = .error f ∧ f.isReported = false) ↔
      db.overflows = true ∧ (o.accessors = true → EndsFound db) := by
  simp only [← faultOf_eq_some_iff, faultOf_unit, ← accessorFunctions_ok_iff o,
    Option.or_eq_some_iff]
  constructor
  · rintro ⟨f, haccessors | ⟨hnone, hrecords⟩, hunreported⟩
    · split at haccessors
      · rw [accessorFunctions_reported o haccessors] at hunreported
        cases hunreported
      · cases haccessors
    · split at hrecords
      case isTrue hoverflows =>
        exact ⟨hoverflows, fun haccessors => by rwa [if_pos haccessors] at hnone⟩
      case isFalse => cases hrecords
  · rintro ⟨hoverflows, haccessors⟩
    refine ⟨.conversion .beyondDouble, .inr ⟨?_, if_pos hoverflows⟩, rfl⟩
    split
    · exact haccessors ‹_›
    · rfl

section

variable {g : Gaps} {db : Database} (hdb : g.SparesAll db)

include hdb

theorem assemble_isSound {accessors : List Function} {records : List TypeDef}
    (hprintable : ∀ f ∈ accessors, f.fault? g = none) (hrecords : ∀ d ∈ records, d.IsSound g) :
    (assemble o db accessors records).fault? g = none ∧
      ∀ v ∈ (assemble o db accessors records).stored, v.isTyped = true := by
  have hstructures : ∀ d ∈ (assemble o db accessors records).structures, d.IsSound g := by
    intro d hd
    rcases List.mem_cons.mp hd with rfl | hd
    · exact databaseType_isSound o hdb
    · exact hrecords d hd
  have hextensions : ∀ e ∈ (assemble o db accessors records).extensions,
      e.structures = [] ∧ e.fault? g = none := by
    intro e he
    obtain rfl := mem_extensions o he
    refine ⟨rfl, ?_⟩
    rw [Extension.fault?, List.findSome?_eq_none_iff.mpr hprintable]
    rfl
  constructor
  · rw [CompilationUnit.fault?,
      List.findSome?_eq_none_iff.mpr fun d hd => (hstructures d hd).printable,
      List.findSome?_eq_none_iff.mpr fun e he => (hextensions e he).2]
    rfl
  · intro v hv
    rcases List.mem_append.mp hv with hv | hv
    · obtain ⟨d, hd, hv⟩ := mem_nestedStored.mp hv
      exact (hstructures d hd).typed v hv
    · obtain ⟨e, he, hv⟩ := List.mem_flatMap.mp hv
      rw [(hextensions e he).1] at hv
      cases hv

/-- What is built is printed but for the gaps of the spelling, and each of its variables declares
something. -/
theorem unit_isSound {u : CompilationUnit} (h : o.unit db = .ok u) :
    u.fault? g = none ∧ ∀ v ∈ u.stored, v.isTyped = true := by
  obtain ⟨accessors, records, haccessors, hrecords, rfl⟩ := exists_assemble o h
  apply assemble_isSound o hdb
  case hprintable => exact forall_mem_wanted o haccessors (accessorFunctions_fault? o)
  case hrecords =>
    intro d hd
    obtain ⟨e, hmem, he⟩ := mem_of_mapM hrecords hd
    exact recordType_isSound o (hdb.entities e hmem) he

end

theorem unit_isTyped {db : Database} {u : CompilationUnit} (h : o.unit db = .ok u) :
    ∀ v ∈ u.stored, v.isTyped = true :=
  (unit_isSound o (Gaps.empty_sparesAll db) h).2

theorem unit_wellFormed {db : Database} {u : CompilationUnit} (h : o.unit db = .ok u) :
    u.WellFormed :=
  CompilationUnit.wellFormed_iff.mpr (unit_isSound o (Gaps.empty_sparesAll db) h).1

theorem exists_render {db : Database} (hshort : db.HasShortNumbers) {u : CompilationUnit}
    (h : o.unit db = .ok u) (style : Style) : ∃ text, u.render style .swift = .ok text := by
  rw [← faultOf_eq_none_iff, CompilationUnit.faultOf_render,
    (unit_isSound o (hshort.sparesAll Spelling.swift_narrow) h).1]

end Record

end RecordLoom
