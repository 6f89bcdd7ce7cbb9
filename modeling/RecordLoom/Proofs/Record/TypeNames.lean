import RecordLoom.Proofs.Naming.Distinct
import RecordLoom.Proofs.Naming.StableNames
import RecordLoom.Proofs.Record.Soundness

/-!
# Names of types

The types of a unit are one for the database and one for the records of each entity.  The records
have names of their own, but the name of the database is derived apart from theirs, and no name is
kept free for a type that the unit only refers to.
-/

namespace RecordLoom

open RecordLoom.Catalog
open RecordLoom.Code
open RecordLoom.Entity
open RecordLoom.Naming

/-! ## Names of records -/

namespace Naming

variable (o : Options)

/-- What each record would be called if no other record were there. -/
def Options.derivedRecordNames (schema : Schema) : List String :=
  schema.objectNames.map fun name => (o.recordName name).1

theorem renameEntities_numbered (entities : List Entity) (taken : Taken) :
    List.Forall₂ IsNumbered (entities.map fun e => (o.recordName e.name).1)
      ((renameEntities o taken entities).map (·.1.name)) := by
  induction entities generalizing taken with
  | nil => exact .nil
  | cons e rest ih => exact .cons (freeName_isNumbered _ _) (ih (renameEntity o taken e).2.2)

theorem mem_renameEntities {entities : List Entity} {taken : Taken} {wanted : String}
    (hwanted : wanted ∈ entities.map fun e => (o.recordName e.name).1) :
    wanted ∈ taken.records ∨ wanted ∈ (renameEntities o taken entities).map (·.1.name) := by
  induction entities generalizing taken with
  | nil => cases hwanted
  | cons e rest ih =>
      rw [renameEntities, List.map_cons, List.mem_cons]
      by_cases htaken : wanted ∈ taken.records
      · exact .inl htaken
      · rcases List.mem_cons.mp hwanted with hfirst | hrest
        · have hname : (renameEntity o taken e).1.name = wanted := by
            rw [hfirst] at htaken ⊢
            exact freeName_of_not_mem htaken
          exact .inr (.inl hname.symm)
        · rcases @ih (renameEntity o taken e).2.2 hrest with hclaimed | hlater
          · have hclaimed : wanted ∈ claim (renameEntity o taken e).1.name taken.records := hclaimed
            rcases mem_claim.mp hclaimed with hname | htaken
            · exact .inr (.inl hname)
            · exact .inl htaken
          · exact .inr (.inr hlater)

theorem fancify_names (schema : Schema) (name : String) :
    (fancify o schema name).entities.map (·.name) =
      (renameEntities o .none (o.keyed (Database.ofSchema schema name).entities)).map
        (·.1.name) := by
  rw [fancify, refine_entities, map_attach _ _ fun _ _ => rfl, named_eq, List.map_map]
  rfl

theorem keyed_derivedRecordNames (schema : Schema) (name : String) :
    ((o.keyed (Database.ofSchema schema name).entities).map fun e => (o.recordName e.name).1) =
      o.derivedRecordNames schema := by
  have hlabels := congrArg (List.map fun x => (o.recordName x.1.name).1)
    (labels_keyed (o := o) (Database.ofSchema schema name).entities)
  rw [List.map_map, List.map_map] at hlabels
  refine hlabels.trans ?_
  simp [Options.derivedRecordNames, Schema.objectNames, Database.ofSchema, Entity.ofObject, labels,
    Entity.derivedNames, Function.comp_def]

structure RecordNames (derived records : List String) : Prop where
  nodup : records.Nodup
  numbered : List.Forall₂ IsNumbered derived records
  mem_of_derived : ∀ name ∈ derived, name ∈ records

theorem exists_wanted {derived records : List String}
    (h : List.Forall₂ IsNumbered derived records) {name : String} (hname : name ∈ records) :
    ∃ wanted ∈ derived, IsNumbered wanted name := by
  obtain ⟨i, hi, rfl⟩ := List.mem_iff_getElem.mp hname
  have hlength := h.length_eq
  exact ⟨derived[i], List.getElem_mem _, h.get (by omega) hi⟩

theorem fancify_recordNames {schema : Schema} (name : String)
    (hfew : schema.tables.length + schema.views.length ≤ 500) :
    RecordNames (o.derivedRecordNames schema)
      ((fancify o schema name).entities.map (·.name)) where
  nodup := by
    rw [fancify_names]
    refine (records_chosen o _ .none).nodup_of_length_le ?_
    rw [← fancify_names, List.length_map]
    have hlength := congrArg List.length (fancify_raws (o := o) schema name)
    simp only [List.length_map, Schema.objectNames, List.length_append] at hlength
    rw [dedupeLimit]
    omega
  numbered := by
    rw [fancify_names, ← keyed_derivedRecordNames o schema name]
    exact renameEntities_numbered o _ .none
  mem_of_derived := by
    intro wanted hwanted
    rw [← keyed_derivedRecordNames o schema name] at hwanted
    rw [fancify_names]
    exact (mem_renameEntities o hwanted).resolve_left (List.not_mem_nil)

theorem IsNumbered.eq_or_push {wanted name : String} (h : IsNumbered wanted name) :
    name = wanted ∨
      ∃ shorter c, name = shorter.push c ∧ c.isDigit = true ∧ IsNumbered wanted shorter := by
  obtain ⟨digits, hdigits, hsplit⟩ := h
  rcases List.eq_nil_or_concat digits with rfl | ⟨init, c, rfl⟩
  · exact .inl (String.toList_injective (by simpa using hsplit))
  · refine .inr ⟨.ofList (wanted.toList ++ init), c, String.toList_injective ?_, ?_, init, ?_, ?_⟩
    · simp [hsplit]
    · exact hdigits c (by simp)
    · exact fun d hd => hdigits d (by simp [hd])
    · simp

end Naming

namespace Record

/-! ## Names of the types of a unit -/

def typeNames : Node → List String
  | .named name => [name]
  | .arrayType element => typeNames element
  | _ => []

/-- The names by which a unit refers to types other than its own: those of values, and that of the
type nested in every record. -/
def referredNames : List String :=
  (ValueType.builtIn.flatMap fun type => typeNames (valueNode type)) ++ [Runtime.schemaName]

theorem referredNames_eq : referredNames =
    ["Int", "Double", "String", "UInt8", "Bool", "Date", "Data", "URL", "Decimal", "UUID",
      "Schema"] := rfl

theorem referredNames_digit : ∀ name ∈ referredNames, ∀ c ∈ name.toList.getLast?,
    c.isDigit = true → name = "UInt8" := by
  simp [referredNames_eq]

/-- A name that a unit refers to is itself wanted, or comes from numbering `UInt`. -/
theorem wanted_of_referred {wanted name : String} (hname : name ∈ referredNames)
    (h : IsNumbered wanted name) : wanted = name ∨ name = "UInt8" ∧ wanted = "UInt" := by
  rcases h.eq_or_push with hsame | ⟨shorter, c, hpush, hc, hshorter⟩
  · exact .inl hsame.symm
  · have height : name = "UInt8" :=
      referredNames_digit name hname c (by simp [hpush]) hc
    have hsplit : "UInt".toList ++ ['8'] = shorter.toList ++ [c] := by
      simpa using congrArg String.toList (height.symm.trans hpush)
    obtain rfl : "UInt" = shorter := String.toList_injective (List.append_inj_left' hsplit rfl)
    rcases hshorter.eq_or_push with hsame | ⟨_, d, hpush, hd, -⟩
    · exact .inr ⟨height, hsame.symm⟩
    · have ht : 't' = d := by
        simpa using congrArg (fun s => s.toList.getLast?) hpush
      exact absurd (ht ▸ hd) (by decide)

theorem recordType_name {output : Output} {db : Database} {e : Entity} {d : TypeDef}
    (h : output.recordType db e = .ok d) : d.name = e.name := by
  obtain ⟨initializer, -, h⟩ := bind_eq_ok h
  cases h
  rfl

theorem structures_names {output : Output} {db : Database} {u : CompilationUnit}
    (h : output.unit db = .ok u) :
    u.structures.map (·.name) = db.name :: db.entities.map (·.name) := by
  obtain ⟨accessors, records, -, hrecords, rfl⟩ := exists_assemble output h
  have hnames := map_of_mapM hrecords fun e d he => recordType_name he
  rw [← hnames]
  rfl

/-- The types of a unit are that of the database and one for each table and view, in this order.
Records have names of their own, numbered where two tables or views want the same one; so all types
have if no record has the name that the database gets.  No name is kept free: a name that the unit
refers to otherwise goes to a record whenever a table or view wants it, and to no other record but
by numbering. -/
theorem fancify_typeNames (schema : Schema) (options : Options) (raw : String) (output : Output)
    {u : CompilationUnit} (hfew : schema.tables.length + schema.views.length ≤ 500)
    (hunit : output.unit (fancify options schema raw) = .ok u) :
    ∃ records : List String,
      u.structures.map (·.name) = options.databaseName raw :: records ∧
      records.Nodup ∧
      List.Forall₂ IsNumbered (options.derivedRecordNames schema) records ∧
      ((u.structures.map (·.name)).Nodup ↔ options.databaseName raw ∉ records) ∧
      ∀ name ∈ referredNames,
        (name ∈ options.derivedRecordNames schema → name ∈ records) ∧
        (name ∈ records → name ∈ options.derivedRecordNames schema ∨
          name = "UInt8" ∧ "UInt" ∈ options.derivedRecordNames schema) := by
  have hrecords := fancify_recordNames options raw hfew
  have hnames : u.structures.map (·.name) = options.databaseName raw ::
      (fancify options schema raw).entities.map (·.name) :=
    structures_names hunit
  refine ⟨_, hnames, hrecords.nodup, hrecords.numbered, ?_, fun name hname => ⟨?_, ?_⟩⟩
  · rw [hnames, List.nodup_cons]
    exact and_iff_left hrecords.nodup
  · exact hrecords.mem_of_derived name
  · intro hmem
    obtain ⟨wanted, hwanted, hnumbered⟩ := exists_wanted hrecords.numbered hmem
    rcases wanted_of_referred hname hnumbered with rfl | ⟨height, rfl⟩
    · exact .inl hwanted
    · exact .inr ⟨height, hwanted⟩

/-! ## A database and a record of one name -/

def contactsSchema : Schema :=
  { Schema.empty with
    tables := [{ name := "contacts", sql := "", columns := [], foreignKeys := [] },
      { name := "dates", sql := "", columns := [], foreignKeys := [] }] }

theorem exists_contactsUnit :
    ∃ u, Output.default.unit (fancify .default contactsSchema "contact.db") = .ok u :=
  exists_fancify_unit .default (by decide) (by decide)

theorem contactsSchema_names :
    (fancify .default contactsSchema "contact.db").entities.map (·.name) = ["Contact", "Date"] ∧
      Options.default.databaseName "contact.db" = "Contact" := by
  decide +kernel

theorem contactsSchema_typeNames :
    ∃ u, contactsSchema.tables.length + contactsSchema.views.length ≤ 500 ∧
      Output.default.unit (fancify .default contactsSchema "contact.db") = .ok u ∧
      ∃ records : List String,
        u.structures.map (·.name) = Options.default.databaseName "contact.db" :: records ∧
        records.Nodup ∧
        ((u.structures.map (·.name)).Nodup ↔
          Options.default.databaseName "contact.db" ∉ records) := by
  obtain ⟨u, hunit⟩ := exists_contactsUnit
  have hfew : contactsSchema.tables.length + contactsSchema.views.length ≤ 500 := by decide
  obtain ⟨records, hnames, hnodup, -, hapart, -⟩ :=
    fancify_typeNames contactsSchema .default "contact.db" .default hfew hunit
  exact ⟨u, hfew, hunit, records, hnames, hnodup, hapart⟩

/-- The file `contact.db` with a table of contacts and one of dates gives two types the name
`Contact` and a third the name of the type of dates. -/
theorem contactsSchema_sharesNames :
    ∃ u, Output.default.unit (fancify .default contactsSchema "contact.db") = .ok u ∧
      ¬(u.structures.map (·.name)).Nodup ∧
      "Date" ∈ referredNames ∧ "Date" ∈ u.structures.map (·.name) := by
  obtain ⟨u, hunit⟩ := exists_contactsUnit
  obtain ⟨hrecords, hdatabase⟩ := contactsSchema_names
  have hnames : u.structures.map (·.name) = ["Contact", "Contact", "Date"] := by
    rw [structures_names hunit, hrecords]
    exact congrArg (· :: _) hdatabase
  refine ⟨u, hunit, ?_, by decide, ?_⟩
  · rw [hnames]
    decide
  · rw [hnames]
    decide

end Record

end RecordLoom
