import RecordLoom.Proofs.Record.Soundness

/-!
# What the schema of a view conforms to

A view takes the row changes that its `INSTEAD OF` triggers stand for, and its schema says so by
what it conforms to.  The statements of a change are declared beside it.  Those of an update need
more than a trigger, since they set some properties where others, the keys, have their values.
-/

namespace RecordLoom

open RecordLoom.Catalog
open RecordLoom.Code
open RecordLoom.Entity
open RecordLoom.Naming

namespace Record

/-! ## Static members -/

/-- The static members of a schema that belong to a row change. -/
def changeMembers : Sql.Operation → List String
  | .insert => ["insert", "insertReturning", "insertParameterIndices"]
  | .update => ["update", "updateParameterIndices"]
  | .delete => ["delete", "deleteParameterIndices"]

def commonMembers : List String :=
  ["externalName", "columnCount", "create", "select", "selectColumns", "selectColumnIndices"]

theorem not_mem_changeMembers {name : String} (h : name ∈ commonMembers)
    (operation : Sql.Operation) : name ∉ changeMembers operation := by
  revert name
  cases operation <;> decide

theorem eq_of_mem_changeMembers {name : String} {operation other : Sql.Operation}
    (h : name ∈ changeMembers operation) (hother : name ∈ changeMembers other) :
    operation = other := by
  revert name
  cases operation <;> cases other <;> decide

def hasStatement (e : Entity) : Sql.Operation → Bool
  | .insert => e.supports .insert
  | .update => Statements.canUpdate e
  | .delete => e.supports .delete

def membersOf (e : Entity) (operation : Sql.Operation) : List String :=
  if hasStatement e operation then changeMembers operation else []

section

variable (o : Output) (e : Entity)

theorem names_updateVariables :
    (o.updateVariables e (.ofEntity e)).map (·.name) = membersOf e .update := by
  unfold Output.updateVariables membersOf hasStatement
  simp only [Statements.ofEntity]
  cases Statements.canUpdate e <;> rfl

theorem names_insertVariables :
    (o.insertVariables e (.ofEntity e)).map (·.name) = membersOf e .insert := by
  unfold Output.insertVariables membersOf hasStatement
  simp only [Statements.ofEntity]
  cases e.supports .insert <;> rfl

theorem names_deleteVariables :
    (o.deleteVariables e (.ofEntity e)).map (·.name) = membersOf e .delete := by
  unfold Output.deleteVariables membersOf hasStatement
  simp only [Statements.ofEntity]
  cases e.supports .delete <;> rfl

theorem names_schemaTypeVariables :
    ∃ common ⊆ commonMembers, (o.schemaType e).typeVariables.map (·.name) =
      common ++ membersOf e .update ++ membersOf e .insert ++ membersOf e .delete := by
  have hcreation : (o.creationVariables e).map (·.name) ⊆ ["create"] := by
    unfold Output.creationVariables
    cases Output.creationText e.sql with
    | none => exact List.nil_subset _
    | some sql => exact List.Subset.refl _
  refine ⟨["externalName", "columnCount"] ++ (o.creationVariables e).map (·.name) ++
    ["select", "selectColumns", "selectColumnIndices"], ?_, ?_⟩
  · intro name hname
    rcases List.mem_append.mp hname with hname | hname
    · rcases List.mem_append.mp hname with hname | hname
      · exact List.mem_append_left _ hname
      · rw [List.mem_singleton.mp (hcreation hname)]
        decide
    · exact List.mem_append_right ["externalName", "columnCount", "create"] hname
  · simp only [Output.schemaType, Output.schemaTypeVariables, Output.statementVariables,
      List.map_append, names_updateVariables, names_insertVariables, names_deleteVariables,
      List.append_assoc]
    rfl

/-- The members of a row change are declared together, if there is a statement for it. -/
theorem mem_names_schemaType {name : String} {operation : Sql.Operation}
    (h : name ∈ changeMembers operation) :
    name ∈ (o.schemaType e).typeVariables.map (·.name) ↔ hasStatement e operation = true := by
  obtain ⟨common, hcommon, hnames⟩ := names_schemaTypeVariables o e
  have hother : name ∉ common := fun hname => not_mem_changeMembers (hcommon hname) operation h
  have hmembers : ∀ change, name ∈ membersOf e change ↔
      hasStatement e change = true ∧ name ∈ changeMembers change := by
    intro change
    unfold membersOf
    split <;> simp [*]
  simp only [hnames, List.mem_append, hother, false_or, hmembers]
  constructor
  · rintro ((⟨hstatement, hname⟩ | ⟨hstatement, hname⟩) | ⟨hstatement, hname⟩)
    all_goals exact eq_of_mem_changeMembers hname h ▸ hstatement
  · intro hstatement
    cases operation with
    | update => exact .inl (.inl ⟨hstatement, h⟩)
    | insert => exact .inl (.inr ⟨hstatement, h⟩)
    | delete => exact .inr ⟨hstatement, h⟩

end

/-! ## Views -/

/-- Whether the text of a trigger of a view is found to stand for a row change. -/
def HasTrigger (e : Entity) (operation : Sql.Operation) : Prop :=
  ∃ sql ∈ e.triggerSql, Sql.insteadOf? sql = some operation

/-- Whether the properties of an entity are keys and values, with some of each. -/
def HasKeysAndValues (e : Entity) : Prop :=
  (∃ p ∈ e.properties, p.primaryKey = true) ∧ ∃ p ∈ e.properties, p.primaryKey = false

/-- The schema of a view declares the members of the changes that it conforms to, apart from those
of an update if the view has no keys, or nothing else. -/
structure ViewSchema (e : Entity) (schema : TypeDef) : Prop where
  name : schema.name = Runtime.schemaName
  insert : ∀ name ∈ changeMembers .insert, name ∈ schema.typeVariables.map (·.name) ↔
    Runtime.capability .insert ∈ schema.conformances
  delete : ∀ name ∈ changeMembers .delete, name ∈ schema.typeVariables.map (·.name) ↔
    Runtime.capability .delete ∈ schema.conformances
  update : ∀ name ∈ changeMembers .update, name ∈ schema.typeVariables.map (·.name) ↔
    Runtime.capability .update ∈ schema.conformances ∧ HasKeysAndValues e
  conforms : ∀ operation, Runtime.capability operation ∈ schema.conformances ↔
    HasTrigger e operation

section

variable {e : Entity}

theorem supports_iff (hkind : e.kind = .view) (operation : Sql.Operation) :
    e.supports operation = true ↔ HasTrigger e operation := by
  simp [Entity.supports, hkind, HasTrigger]

theorem slots_filter_isEmpty_iff (e : Entity) (p : Property → Bool) :
    ((slots e).filter fun slot => p slot.1).isEmpty = false ↔ ∃ q ∈ e.properties, p q = true := by
  have hproperties : ((slots e).filter fun slot => p slot.1).map (·.1) = e.properties.filter p := by
    conv => rhs; rw [← List.zipIdx_map_fst 0 e.properties, List.filter_map]
    rfl
  rw [← Bool.not_eq_true, List.isEmpty_iff, ← List.map_eq_nil_iff, hproperties,
    List.filter_eq_nil_iff]
  simp

theorem canUpdate_iff (e : Entity) :
    Statements.canUpdate e = true ↔ e.supports .update = true ∧ HasKeysAndValues e := by
  have hkeys := slots_filter_isEmpty_iff e (·.primaryKey)
  have hvalues := slots_filter_isEmpty_iff e fun p => !p.primaryKey
  simp only [Bool.not_eq_true'] at hvalues
  rw [Statements.canUpdate, HasKeysAndValues, ← hkeys, ← hvalues]
  simp only [Bool.and_eq_true, Bool.not_eq_true', and_assoc]
  rfl

theorem capability_mem_schemaConformances (hkind : e.kind = .view) (operation : Sql.Operation) :
    Runtime.capability operation ∈ Output.schemaConformances e ↔ e.supports operation = true := by
  have hinj : ∀ other, Runtime.capability other = Runtime.capability operation ↔
      other = operation := by
    intro other
    cases operation <;> cases other <;> simp [Runtime.capability, Node.named]
  have hview : Runtime.capability operation ≠ Runtime.viewSchema := by
    cases operation <;> simp [Runtime.capability, Runtime.viewSchema, Node.named]
  simp [Output.schemaConformances, hkind, hview, hinj, Sql.Operation.mem_all]

theorem schemaType_viewSchema (o : Output) (hkind : e.kind = .view) :
    ViewSchema e (o.schemaType e) where
  name := rfl
  insert _ hname :=
    (mem_names_schemaType o e hname).trans (capability_mem_schemaConformances hkind .insert).symm
  delete _ hname :=
    (mem_names_schemaType o e hname).trans (capability_mem_schemaConformances hkind .delete).symm
  update _ hname := by
    have hconforms := capability_mem_schemaConformances hkind .update
    exact ((mem_names_schemaType o e hname).trans (canUpdate_iff e)).trans
      (and_congr_left fun _ => hconforms.symm)
  conforms operation :=
    (capability_mem_schemaConformances hkind operation).trans (supports_iff hkind operation)

theorem recordType_viewSchema (o : Output) {db : Database} {d : TypeDef}
    (h : o.recordType db e = .ok d) (hkind : e.kind = .view) :
    ∃ schema, d.nestedTypes = [schema] ∧ ViewSchema e schema := by
  obtain ⟨initializer, -, hd⟩ := bind_eq_ok h
  cases hd
  exact ⟨o.schemaType e, rfl, schemaType_viewSchema o hkind⟩

end

/-- What the record types of views hold, in the unit of a named model. -/
theorem unit_viewSchemas (options : Options) (db : Database) (o : Output) (u : CompilationUnit)
    (hunit : o.unit (refine options db) = .ok u) :
    ∃ records, u.structures = o.databaseType (refine options db) :: records ∧
      List.Forall₂ (fun e d => e.kind = .view →
        ∃ schema, d.nestedTypes = [schema] ∧ ViewSchema e schema)
        (refine options db).entities records := by
  obtain ⟨accessors, records, -, hrecords, rfl⟩ := exists_assemble o hunit
  exact ⟨records, rfl, (forall₂_of_mapM hrecords).imp fun _ _ => recordType_viewSchema o⟩

def namesSchema : Schema :=
  { Schema.empty with
    views :=
      [⟨"names", "",
        [⟨0, "first", some .text, false, none, false⟩,
         ⟨1, "last", some .text, false, none, false⟩]⟩]
    triggers :=
      [("names", [⟨"rename", "names",
        "CREATE TRIGGER rename INSTEAD OF UPDATE ON names BEGIN SELECT 1; END"⟩])] }

theorem exists_namesUnit :
    ∃ u, Output.default.unit (fancify .default namesSchema "names") = .ok u :=
  exists_fancify_unit .default (by decide) (by decide)

theorem namesSchema_viewSchemas :
    ∃ u records, Output.default.unit (fancify .default namesSchema "names") = .ok u ∧
      u.structures =
        Output.default.databaseType (fancify .default namesSchema "names") :: records ∧
      List.Forall₂ (fun e d => e.kind = .view →
        ∃ schema, d.nestedTypes = [schema] ∧ ViewSchema e schema)
        (fancify .default namesSchema "names").entities records := by
  obtain ⟨u, hunit⟩ := exists_namesUnit
  obtain ⟨records, hstructures, hrecords⟩ :=
    unit_viewSchemas .default (.ofSchema namesSchema "names") .default u hunit
  exact ⟨u, records, hunit, hstructures, hrecords⟩

/-- The schema of the names says that its rows can be updated, and declares no update. -/
theorem namesSchema_declares_no_update :
    ∃ u, Output.default.unit (fancify .default namesSchema "names") = .ok u ∧
      ∃ d ∈ u.structures, ∃ schema, d.nestedTypes = [schema] ∧
        schema.name = Runtime.schemaName ∧
        Runtime.capability .update ∈ schema.conformances ∧
        ∀ name ∈ changeMembers .update, name ∉ schema.typeVariables.map (·.name) := by
  obtain ⟨u, hunit⟩ := exists_namesUnit
  obtain ⟨accessors, records, -, hrecords, rfl⟩ := exists_assemble .default hunit
  have hview : ∃ e ∈ (fancify .default namesSchema "names").entities, e.kind = .view ∧
      e.supports .update = true ∧ Statements.canUpdate e = false := by
    decide +kernel
  obtain ⟨e, he, hkind, hsupports, hupdate⟩ := hview
  obtain ⟨d, hd, hrecord⟩ := exists_of_forall₂ (forall₂_of_mapM hrecords).flip he
  obtain ⟨schema, hnested, hschema⟩ := recordType_viewSchema .default hrecord hkind
  have hconforms : Runtime.capability .update ∈ schema.conformances :=
    (hschema.conforms .update).mpr ((supports_iff hkind .update).mp hsupports)
  refine ⟨_, hunit, d, List.mem_cons_of_mem _ hd, schema, hnested, hschema.name, hconforms, ?_⟩
  intro name hname hdeclared
  have hvalues := ((hschema.update name hname).mp hdeclared).2
  rw [(canUpdate_iff e).mpr ⟨hsupports, hvalues⟩] at hupdate
  cases hupdate

end Record

end RecordLoom
