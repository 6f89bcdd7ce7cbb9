import RecordLoom.Proofs.Code.WellFormed
import RecordLoom.Proofs.Naming.Qualifiers
import RecordLoom.Proofs.Record.Soundness

/-!
# Positions in generated code

Generated code refers to a property by its position: in the columns of a record, in the lists of
parameter positions of its statements, and in the calls that read and bind a record.  These lists
are built apart from each other, in the type of a record, in its schema and in its functions.  Each
of them has one entry for every property, in the order of the properties.
-/

namespace RecordLoom

open RecordLoom.Code
open RecordLoom.Entity
open RecordLoom.Naming

namespace Code

/-! ## Reading generated code -/

def Argument.label? : Argument → Option String
  | .mk label _ => label

def argument? (arguments : List Argument) (label : Option String) : Option Node :=
  (arguments.find? fun a => a.label? == label).map Argument.value

def Param.callLabel (param : Param) : Option String :=
  if param.unlabeled then none else some (param.label.getD param.name)

def TypeDef.constant? (d : TypeDef) (name : String) : Option Node :=
  (d.typeVariables.find? fun v => v.name == name).bind (·.value)

def Variable.positions? (v : Variable) : Option (String × List Int) :=
  match v.value with
  | some (.intArrayLiteral positions) => some (v.name, positions)
  | _ => none

end Code

namespace Record

/-! ## What goes by position -/

/-- A parameter takes a value of a property under the property's name. -/
structure Takes (p : Property) (param : Param) : Prop where
  name : param.name = p.name
  type : param.type = propertyNode p
  callLabel : param.callLabel = some p.name
  default : defaultExpression p = .ok param.default

/-- An initializer with a parameter for each property, which it stores. -/
structure Memberwise (e : Entity) (f : Function) : Prop where
  initializer : f.signature.isInitializer = true
  parameters : List.Forall₂ Takes e.properties f.signature.parameters
  stores : List.Forall₂
    (fun p s => s = .assignment (.member .selfRef p.name) (.variableRef p.name)) e.properties f.body

/-- An argument gives the value that a row has for a property. -/
structure Gives (e : Entity) (p : Property) (a : Argument) : Prop where
  label : a.label? = some p.name
  value : ∃ arguments,
    a.value = .call (.mk "value" arguments (some (.variableRef "row")) false false none) ∧
    argument? arguments "of" = some (schemaColumn e p) ∧
    argument? arguments "at" = some (.variableRef "indices")

/-- An initializer that calls another one with what a row has for each property. -/
structure ReadsRow (e : Entity) (memberwise f : Function) : Prop where
  initializer : f.signature.isInitializer = true
  call : ∃ arguments,
    f.body = [.callStatement (.mk "init" arguments (some .selfRef) true false none)] ∧
    List.Forall₂ (Gives e) e.properties arguments ∧
    arguments.map Argument.label? = memberwise.signature.parameters.map Param.callLabel

/-- A statement binds a property at the positions that its column has. -/
def BindsProperty (e : Entity) (p : Property) (s : Node) : Prop :=
  ∃ arguments,
    s = .callStatement (.mk "bind" arguments (some (.variableRef "statement")) true false none) ∧
    argument? arguments none = some (.member .selfRef p.name) ∧
    argument? arguments "to" = some (schemaColumn e p) ∧
    argument? arguments "at" = some (.variableRef "indices")

/-- A variable describes the column of a property. -/
structure Describes (e : Entity) (slot : Slot) (v : Variable) : Prop where
  name : v.name = slot.1.name
  type : v.type = some (.namedType Runtime.columnName [recordNode e, propertyNode slot.1])
  value : ∃ arguments, v.value = some (callNode Runtime.columnName arguments) ∧
    argument? arguments "externalName" = some (.stringLiteral slot.1.column) ∧
    argument? arguments "position" = some (.intLiteral slot.2) ∧
    argument? arguments "isPrimaryKey" = some (.boolLiteral slot.1.primaryKey) ∧
    argument? arguments "keyPath" = some (.keyPath slot.1.name (some (recordNode e)))

/-- The lists of positions that a schema declares: one for the columns that are selected, and one
for each statement that the entity can run. -/
def declaredPositions (s : Statements) : List (String × List Int) :=
  ("selectColumnIndices", s.selectIndices) ::
    ((s.update.toList.map fun _ => ("updateParameterIndices", s.updateIndices)) ++
      (s.insert.toList.map fun _ => ("insertParameterIndices", s.insertIndices)) ++
      (s.delete.toList.map fun _ => ("deleteParameterIndices", s.deleteIndices)))

/-- A schema has a column for each property, and every list in it has an entry for each. -/
structure Columns (e : Entity) (schema : TypeDef) : Prop where
  columns : List.Forall₂ (Describes e) e.properties.zipIdx schema.instanceVariables
  count : schema.constant? "columnCount" = some (.intLiteral e.properties.length)
  positions : schema.typeVariables.filterMap Variable.positions? =
    declaredPositions (.ofEntity e)
  lengths : ∀ declared ∈ schema.typeVariables.filterMap Variable.positions?,
    declared.2.length = e.properties.length

/-- A record type whose lists agree, each entry with the property at its position. -/
structure Positional (e : Entity) (d : TypeDef) : Prop where
  stored : List.Forall₂
    (fun p v => v.name = p.name ∧ v.type = some (propertyNode p) ∧ v.value = none)
    e.properties d.instanceVariables
  columnNames : ∃ names, d.constant? "columnNames" = some (.arrayExpression names) ∧
    List.Forall₂ (fun p name => name = .stringLiteral p.column) e.properties names
  schema : ∃ schema, d.nestedTypes = [schema] ∧ Columns e schema
  functions : ∃ memberwise reader, Memberwise e memberwise ∧ ReadsRow e memberwise reader ∧
    ((∃ operation, e.supports operation = true) ∧ (∃ binder : Function,
        d.functions = [memberwise, reader, binder] ∧ binder.signature.name = "bind" ∧
        List.Forall₂ (BindsProperty e) e.properties binder.body) ∨
      (∀ operation, e.supports operation = false) ∧ d.functions = [memberwise, reader])

/-! ## Building a record type -/

theorem propertyParam_takes {p : Property} {param : Param} (h : propertyParam p = .ok param) :
    Takes p param := by
  obtain ⟨default, hdefault, hparam⟩ := bind_eq_ok h
  cases hparam
  cases hvalue : defaultExpression p with
  | error fault => simp [hvalue, Except.mapError] at hdefault
  | ok value =>
      rw [hvalue] at hdefault
      cases hdefault
      exact ⟨rfl, rfl, rfl, hvalue⟩

variable (o : Output)

theorem initializer_memberwise {e : Entity} {f : Function} (h : o.initializer e = .ok f) :
    Memberwise e f := by
  obtain ⟨parameters, hparameters, hf⟩ := bind_eq_ok h
  cases hf
  have htakes := (forall₂_of_mapM hparameters).imp fun _ _ => propertyParam_takes
  exact ⟨rfl, htakes, forall₂_map _ fun _ => rfl⟩

theorem rowInitializer_reads {e : Entity} {memberwise : Function} (h : Memberwise e memberwise) :
    ReadsRow e memberwise (o.rowInitializer e) where
  initializer := rfl
  call := by
    refine ⟨e.properties.map (Output.rowValue e), rfl, forall₂_map _ fun p => ?_, ?_⟩
    · exact ⟨rfl, _, rfl, rfl, rfl⟩
    · have hlabels : memberwise.signature.parameters.map Param.callLabel =
          e.properties.map fun p => some p.name :=
        map_eq_of_forall₂ (fun _ _ htakes => htakes.callLabel) h.parameters
      rw [hlabels, List.map_map]
      rfl

theorem bindProperty_binds (e : Entity) (p : Property) :
    BindsProperty e p (Output.bindProperty e p) :=
  ⟨_, rfl, rfl, rfl, rfl⟩

theorem column_describes (e : Entity) (slot : Slot) : Describes e slot (o.column e slot) where
  name := rfl
  type := rfl
  value := ⟨_, rfl, rfl, rfl, rfl, rfl⟩

/-! ## Lists of positions -/

theorem length_indicesWhen (possible : Bool) (e : Entity) (bound : List Slot) :
    (Statements.indicesWhen possible e bound).length = e.properties.length := by
  cases possible <;> simp [Statements.indicesWhen, placeholders, allUnbound]

theorem length_of_declared (e : Entity) :
    ∀ declared ∈ declaredPositions (.ofEntity e), declared.2.length = e.properties.length := by
  simp only [declaredPositions, List.mem_cons, List.mem_append, List.mem_map]
  rintro declared (rfl | (⟨_, -, rfl⟩ | ⟨_, -, rfl⟩) | ⟨_, -, rfl⟩)
  · simp [Statements.ofEntity]
  all_goals exact length_indicesWhen _ _ _

theorem creationVariables_positions (e : Entity) :
    (o.creationVariables e).filterMap Variable.positions? = [] := by
  unfold Output.creationVariables
  cases Output.creationText e.sql <;> rfl

theorem statementVariables_positions (e : Entity) :
    (o.statementVariables e (.ofEntity e)).filterMap Variable.positions? =
      declaredPositions (.ofEntity e) := by
  have hselect : (o.selectVariables e (.ofEntity e)).filterMap Variable.positions? =
      [("selectColumnIndices", (Statements.ofEntity e).selectIndices)] := rfl
  have hupdate : (o.updateVariables e (.ofEntity e)).filterMap Variable.positions? =
      (Statements.ofEntity e).update.toList.map fun _ =>
        ("updateParameterIndices", (Statements.ofEntity e).updateIndices) := by
    unfold Output.updateVariables
    cases (Statements.ofEntity e).update <;> rfl
  have hinsert : (o.insertVariables e (.ofEntity e)).filterMap Variable.positions? =
      (Statements.ofEntity e).insert.toList.map fun _ =>
        ("insertParameterIndices", (Statements.ofEntity e).insertIndices) := by
    unfold Output.insertVariables
    simp only [Statements.ofEntity]
    cases e.supports .insert <;> rfl
  have hdelete : (o.deleteVariables e (.ofEntity e)).filterMap Variable.positions? =
      (Statements.ofEntity e).delete.toList.map fun _ =>
        ("deleteParameterIndices", (Statements.ofEntity e).deleteIndices) := by
    unfold Output.deleteVariables
    cases (Statements.ofEntity e).delete <;> rfl
  simp only [Output.statementVariables, List.filterMap_append, hselect, hupdate, hinsert, hdelete,
    declaredPositions, List.cons_append, List.nil_append, List.append_assoc]

theorem schemaType_positions (e : Entity) :
    (o.schemaType e).typeVariables.filterMap Variable.positions? =
      declaredPositions (.ofEntity e) := by
  have hfirst : ([o.constant "externalName" (.stringLiteral e.raw) none
        (some ("The SQL " ++ e.kind.name ++ " of " ++ symbol e.name ++ " records.")),
      o.constant "columnCount" (.intLiteral e.properties.length) (some intNode) none].filterMap
        Variable.positions?) = [] := rfl
  simp only [Output.schemaType, Output.schemaTypeVariables, List.filterMap_append, hfirst,
    creationVariables_positions, statementVariables_positions, List.nil_append]

theorem schemaType_columns (e : Entity) : Columns e (o.schemaType e) where
  columns := forall₂_map _ (column_describes o e)
  count := rfl
  positions := schemaType_positions o e
  lengths := by
    rw [schemaType_positions]
    exact length_of_declared e

/-! ## Records and units -/

theorem isReadOnly_iff {e : Entity} :
    e.isReadOnly = true ↔ ∀ operation, e.supports operation = false := by
  simp [Entity.isReadOnly, Catalog.Sql.Operation.mem_all]

theorem recordType_positional {db : Database} {e : Entity} {d : TypeDef}
    (h : o.recordType db e = .ok d) : Positional e d := by
  obtain ⟨memberwise, hinitializer, hd⟩ := bind_eq_ok h
  cases hd
  have hmemberwise := initializer_memberwise o hinitializer
  refine ⟨forall₂_map _ fun _ => ⟨rfl, rfl, rfl⟩, ⟨_, rfl, forall₂_map _ fun _ => rfl⟩,
    ⟨o.schemaType e, rfl, schemaType_columns o e⟩,
    ⟨memberwise, o.rowInitializer e, hmemberwise, rowInitializer_reads o hmemberwise, ?_⟩⟩
  by_cases hread : e.isReadOnly = true
  · exact .inr ⟨isReadOnly_iff.mp hread, by simp [hread]⟩
  · have hwrites : ∃ operation, e.supports operation = true := by
      simpa [isReadOnly_iff] using hread
    exact .inl ⟨hwrites, o.bindFunction e, by simp [hread], rfl,
      forall₂_map _ (bindProperty_binds e)⟩

theorem exists_recordType (db : Database) {e : Entity}
    (hfits : ∀ p ∈ e.properties, p.overflows = false) : ∃ d, o.recordType db e = .ok d := by
  have hfault : Code.faultOf (o.recordType db e) = none := by
    rw [faultOf_recordType, if_neg]
    simpa using hfits
  cases hd : o.recordType db e with
  | ok d => exact ⟨d, rfl⟩
  | error f => simp [hd] at hfault

/-- The record types of a named model: each is built unless a default has no double, and all lists
in it that go by position agree.  No property is without a name, so that all labels are written. -/
theorem unit_positional (options : Options) (db : Database) :
    (∀ e ∈ (refine options db).entities,
      (∀ p ∈ e.properties, p.name ≠ "") ∧
      ((∀ p ∈ e.properties, p.overflows = false) →
        ∃ d, o.recordType (refine options db) e = .ok d ∧ Positional e d)) ∧
    ∀ u, o.unit (refine options db) = .ok u → ∃ records,
      u.structures = o.databaseType (refine options db) :: records ∧
        List.Forall₂ Positional (refine options db).entities records := by
  constructor
  · intro e he
    refine ⟨refine_property_ne_empty he, fun hfits => ?_⟩
    obtain ⟨d, hd⟩ := exists_recordType o (refine options db) hfits
    exact ⟨d, hd, recordType_positional o hd⟩
  · intro u hu
    obtain ⟨accessors, records, -, hrecords, rfl⟩ := exists_assemble o hu
    exact ⟨records, rfl, (forall₂_of_mapM hrecords).imp fun _ _ => recordType_positional o⟩

theorem albumSchema_positional :
    ∃ u records, Output.default.unit (fancify .default albumSchema "albums") = .ok u ∧
      u.structures =
        Output.default.databaseType (fancify .default albumSchema "albums") :: records ∧
      List.Forall₂ Positional (fancify .default albumSchema "albums").entities records := by
  have hends : EndsFound (fancify .default albumSchema "albums") :=
    fancify_endsFound (by decide)
  have hfits : (fancify .default albumSchema "albums").overflows = false :=
    fancify_fits (by decide)
  have hfault := faultOf_unit_of_endsFound .default hends
  rw [hfits, if_neg Bool.false_ne_true, Code.faultOf_eq_none_iff] at hfault
  obtain ⟨u, hu⟩ := hfault
  obtain ⟨records, hstructures, hrecords⟩ :=
    (unit_positional .default .default (.ofSchema albumSchema "albums")).2 u hu
  exact ⟨u, records, hu, hstructures, hrecords⟩

end Record

end RecordLoom
