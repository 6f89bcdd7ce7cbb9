import RecordLoom.Proofs.Code.WellFormed
import RecordLoom.Proofs.Entity.Lookup
import RecordLoom.Proofs.Number.Integers
import RecordLoom.Record.Unit
import Mathlib.Data.List.Forall2

/-!
# Types that can be printed

The types that are built for entities declare no variable without a type or a value, and nothing in
them stands in a wrong place.  What a spelling may lack does not matter as long as it is none of the
numbers of the model: the places of columns, the numbers of columns, integer defaults and the user
version.
-/

namespace RecordLoom

open RecordLoom.Catalog
open RecordLoom.Code
open RecordLoom.Entity

/-- Whether the default of a property is an integer that its type, a double, cannot hold. -/
def Entity.Property.overflows (p : Property) : Bool :=
  match p.default with
  | some (.integer n) => p.valueType == .double && (Number.Double.ofInt? n).isNone
  | _ => false

def Database.overflows (db : Database) : Bool :=
  db.entities.any fun e => e.properties.any (·.overflows)

namespace Code

mutual

def TypeDef.stored : TypeDef → List Variable
  | ⟨_, _, _, _, nested, typeVariables, instanceVariables, _, _, _⟩ =>
      nestedStored nested ++ typeVariables ++ instanceVariables

def nestedStored : List TypeDef → List Variable
  | [] => []
  | d :: rest => d.stored ++ nestedStored rest

end

theorem mem_nestedStored {types : List TypeDef} {v : Variable} :
    v ∈ nestedStored types ↔ ∃ d ∈ types, v ∈ d.stored := by
  induction types with
  | nil => simp [nestedStored]
  | cons d rest ih => simp [nestedStored, ih]

def CompilationUnit.stored (u : CompilationUnit) : List Variable :=
  nestedStored u.structures ++ u.extensions.flatMap fun e => nestedStored e.structures

structure Variable.IsSound (g : Gaps) (v : Variable) : Prop where
  typed : v.isTyped = true
  printable : v.fault? g = none

structure TypeDef.IsSound (g : Gaps) (d : TypeDef) : Prop where
  typed : ∀ v ∈ d.stored, v.isTyped = true
  printable : d.fault? g = none

theorem TypeDef.isSound {g : Gaps} {d : TypeDef} (hkind : g.kind d.kind = none)
    (hconformances : ∀ c ∈ d.conformances, c.typeFault? = none)
    (hnested : ∀ inner ∈ d.nestedTypes, inner.IsSound g)
    (htypeVariables : ∀ v ∈ d.typeVariables, v.IsSound g)
    (hinstanceVariables : ∀ v ∈ d.instanceVariables, v.IsSound g)
    (hcomputed : ∀ c ∈ d.computed, c.fault? g = none)
    (hfunctions : ∀ f ∈ d.functions, f.fault? g = none) : d.IsSound g := by
  obtain ⟨_, kind, _, conformances, nested, typeVariables, instanceVariables, computed, functions,
    _⟩ := d
  constructor
  case typed =>
    intro v hv
    simp only [stored, List.mem_append, mem_nestedStored] at hv
    rcases hv with (⟨inner, hinner, hv⟩ | hv) | hv
    · exact (hnested inner hinner).typed v hv
    · exact (htypeVariables v hv).typed
    · exact (hinstanceVariables v hv).typed
  case printable =>
    rw [fault?, show g.kind kind = none from hkind, List.findSome?_eq_none_iff.mpr hconformances,
      nestedFault?_eq_none_iff.mpr fun inner hinner => (hnested inner hinner).printable,
      List.findSome?_eq_none_iff.mpr fun v hv => (htypeVariables v hv).printable,
      List.findSome?_eq_none_iff.mpr fun v hv => (hinstanceVariables v hv).printable,
      List.findSome?_eq_none_iff.mpr hcomputed, List.findSome?_eq_none_iff.mpr hfunctions]
    rfl

/-! ## Gaps that do not matter -/

structure Gaps.Narrow (g : Gaps) : Prop where
  kind : ∀ kind, g.kind kind = none
  integer : ∀ n, Number.isLong n = false → g.integer n = none

structure Gaps.Spares (g : Gaps) (e : Entity) : Prop where
  narrow : g.Narrow
  columns : ∀ position : Nat, position ≤ e.properties.length → g.integer position = none
  defaults : ∀ p ∈ e.properties, ∀ n, p.default = some (.integer n) → g.integer n = none

structure Gaps.SparesAll (g : Gaps) (db : Database) : Prop where
  narrow : g.Narrow
  userVersion : g.integer db.userVersion = none
  entities : ∀ e ∈ db.entities, g.Spares e

theorem Gaps.empty_sparesAll (db : Database) : Gaps.empty.SparesAll db :=
  have hnarrow : Gaps.empty.Narrow := ⟨fun _ => rfl, fun _ _ => rfl⟩
  ⟨hnarrow, rfl, fun _ _ => ⟨hnarrow, fun _ _ => rfl, fun _ _ _ _ => rfl⟩⟩

end Code

/-- No integer of a model has more digits than an integer may have. -/
structure Database.HasShortNumbers (db : Database) : Prop where
  userVersion : Number.isLong db.userVersion = false
  columns : ∀ e ∈ db.entities, Number.isLong e.properties.length = false
  defaults : ∀ e ∈ db.entities, ∀ p ∈ e.properties, ∀ n, p.default = some (.integer n) →
    Number.isLong n = false

theorem Database.HasShortNumbers.sparesAll {db : Database} {g : Gaps} (hg : g.Narrow)
    (h : db.HasShortNumbers) : g.SparesAll db where
  narrow := hg
  userVersion := hg.integer _ h.userVersion
  entities e he :=
    { narrow := hg
      columns := fun position hle =>
        hg.integer _ (Number.isLong_of_le (by simpa using hle) (h.columns e he))
      defaults := fun p hp n hdefault => hg.integer n (h.defaults e he p hp n hdefault) }

theorem Code.Spelling.swift_narrow : Spelling.swift.gaps.Narrow where
  kind kind := by cases kind <;> rfl
  integer n hshort := if_neg (Bool.eq_false_iff.mp hshort)

namespace Record

/-! ## Types and defaults -/

theorem valueNode_typeFault? (type : ValueType) : (valueNode type).typeFault? = none := by
  cases type <;> rfl

@[simp] theorem propertyNode_typeFault? (p : Property) : (propertyNode p).typeFault? = none := by
  unfold propertyNode
  split
  · exact valueNode_typeFault? _
  · exact valueNode_typeFault? _

@[simp] theorem recordNode_typeFault? (e : Entity) : (recordNode e).typeFault? = none := rfl

section

variable {g : Gaps} (hg : g.Narrow)

include hg

theorem express_number_fault? {number : DefaultNumber} {type : ValueType} {value : Option Node}
    (hwhole : ∀ n, number = .whole n → g.integer n = none)
    (h : number.express type = .ok value) : optionalValueFault? g value = none := by
  have hliteral : number.literal.expressionFault? g = none := by
    cases number with
    | whole n => exact hwhole n rfl
    | fractional => rfl
  cases type with
  | integer =>
      cases h
      cases number with
      | whole n => exact hwhole n rfl
      | fractional x =>
          rw [DefaultNumber.toInt?]
          cases hvalue : x.toInt? with
          | none => rfl
          | some n => exact hg.integer n (Number.Double.isLong_of_toInt? hvalue)
  | double =>
      simp only [DefaultNumber.express] at h
      cases hdouble : number.toDouble with
      | error fault => simp [hdouble, Except.map] at h
      | ok x =>
          rw [hdouble] at h
          cases h
          rfl
  | string | bool =>
      cases h
      rfl
  | decimal =>
      cases h
      simp [optionalValueFault?, callNode, bare, Node.expressionFault?, Invocation.fault?,
        baseFault?, argumentsFault?, trailingFault?, hliteral]
  | date =>
      cases h
      simp [optionalValueFault?, callNode, labelled, Node.expressionFault?, Invocation.fault?,
        baseFault?, argumentsFault?, trailingFault?, hliteral]
  | byteArray | data | url | uuid | custom =>
      cases h
      rfl

theorem expressText_fault? (s : String) (type : ValueType) :
    optionalValueFault? g (expressText s type) = none := by
  cases type with
  | integer =>
      simp only [expressText]
      cases hread : Number.readInt? s with
      | none => rfl
      | some n => exact hg.integer n (Number.isLong_of_readInt? hread)
  | double =>
      simp only [expressText]
      cases (Number.readDouble? s).filter (·.isFinite) <;> rfl
  | bool => simp only [expressText]; cases truthWords.lookup (Text.lower s) <;> rfl
  | _ => rfl

theorem expressBoolean_fault? (b : Bool) (type : ValueType) :
    optionalValueFault? g (expressBoolean b type) = none := by
  cases type with
  | integer =>
      refine hg.integer _ (Number.isLong_of_lt_ten_pow 1 (by decide) ?_)
      cases b <;> decide
  | _ => rfl

theorem expressBytes_fault? (bytes : List UInt8) (type : ValueType) :
    optionalValueFault? g (expressBytes bytes type) = none := by
  cases type with
  | byteArray =>
      refine List.findSome?_eq_none_iff.mpr fun n hn => ?_
      obtain ⟨byte, -, rfl⟩ := List.mem_map.mp hn
      refine hg.integer _ (Number.isLong_of_lt_ten_pow 3 (by decide) ?_)
      have hbyte := byte.toNat_lt
      omega
  | _ => rfl

theorem express_fault? {type : ValueType} {literal : Literal} {value : Option Node}
    (hinteger : ∀ n, literal = .integer n → g.integer n = none)
    (h : express type literal = .ok value) : optionalValueFault? g value = none := by
  cases literal with
  | integer n =>
      exact express_number_fault? hg (fun _ hn => hinteger _ (by cases hn; rfl)) h
  | real x => exact express_number_fault? hg (by rintro _ ⟨⟩) h
  | text s =>
      cases h
      exact expressText_fault? hg s type
  | boolean b =>
      cases h
      exact expressBoolean_fault? hg b type
  | blob bytes =>
      cases h
      exact expressBytes_fault? hg bytes type
  | null | expression =>
      cases h
      rfl

omit hg in
theorem absentValue_fault? (p : Property) : optionalValueFault? g (absentValue p) = none := by
  unfold absentValue
  split <;> rfl

theorem defaultExpression_fault? {p : Property} {value : Option Node}
    (hdefaults : ∀ n, p.default = some (.integer n) → g.integer n = none)
    (h : defaultExpression p = .ok value) : optionalValueFault? g value = none := by
  unfold defaultExpression at h
  cases hdefault : p.default with
  | none =>
      simp only [hdefault] at h
      cases h
      split
      · rfl
      · exact absentValue_fault? p
  | some literal =>
      simp only [hdefault] at h
      cases hexpress : express p.valueType literal with
      | error fault => simp [hexpress, Except.map] at h
      | ok node =>
          rw [hexpress] at h
          cases h
          have hnode := express_fault? hg (fun n hn => hdefaults n (hn ▸ hdefault)) hexpress
          cases node with
          | none => exact absentValue_fault? p
          | some node => exact hnode

theorem propertyParam_fault? {p : Property} {param : Param}
    (hdefaults : ∀ n, p.default = some (.integer n) → g.integer n = none)
    (h : propertyParam p = .ok param) : param.fault? g = none := by
  unfold propertyParam at h
  cases hdefault : defaultExpression p with
  | error fault => simp [hdefault, Except.mapError, bind, Except.bind] at h
  | ok value =>
      rw [hdefault] at h
      cases h
      simp [Param.fault?, defaultExpression_fault? hg hdefaults hdefault]

end

theorem toDouble_whole (n : Int) :
    (DefaultNumber.whole n).toDouble =
      (Number.Double.ofInt? n).elim (.error .beyondDouble) .ok := rfl

theorem express_overflow {n : Int} (h : Number.Double.ofInt? n = none) :
    express .double (.integer n) = .error .beyondDouble := by
  rw [express, DefaultNumber.express, toDouble_whole, h]
  rfl

theorem express_ok {type : ValueType} {literal : Literal}
    (h : ∀ n, literal = .integer n → type = .double → Number.Double.ofInt? n ≠ none) :
    ∃ value, express type literal = .ok value := by
  cases literal with
  | integer n =>
      cases type with
      | double =>
          obtain ⟨x, hx⟩ := Option.ne_none_iff_exists'.mp (h n rfl rfl)
          rw [express, DefaultNumber.express, toDouble_whole, hx]
          exact ⟨_, rfl⟩
      | _ => simp [express, DefaultNumber.express]
  | real x =>
      cases type <;> simp [express, DefaultNumber.express, DefaultNumber.toDouble, Except.map]
  | _ => simp [express]

theorem overflows_iff {p : Property} :
    p.overflows = true ↔
      ∃ n, p.default = some (.integer n) ∧ p.valueType = .double ∧
        Number.Double.ofInt? n = none := by
  unfold Property.overflows
  split
  case h_1 n hinteger => simp [hinteger]
  case h_2 hother =>
      simp only [Bool.false_eq_true, false_iff]
      rintro ⟨n, hinteger, -⟩
      exact hother n hinteger

theorem faultOf_defaultExpression (p : Property) :
    faultOf ((defaultExpression p).mapError .conversion) =
      if p.overflows then some (.conversion .beyondDouble) else none := by
  unfold defaultExpression
  split
  case h_1 hnone =>
      have hfits : ¬p.overflows = true := by simp [overflows_iff, hnone]
      rw [if_neg hfits]
      rfl
  case h_2 literal hdefault =>
      by_cases hoverflows : p.overflows = true
      · obtain ⟨n, hinteger, htype, hnone⟩ := overflows_iff.mp hoverflows
        obtain rfl : literal = .integer n := Option.some.inj (hdefault.symm.trans hinteger)
        rw [if_pos hoverflows, htype, express_overflow hnone]
        rfl
      · obtain ⟨value, hvalue⟩ : ∃ value, express p.valueType literal = .ok value := by
          refine express_ok fun n hinteger htype hnone => hoverflows ?_
          exact overflows_iff.mpr ⟨n, hinteger ▸ hdefault, htype, hnone⟩
        rw [if_neg hoverflows, hvalue]
        rfl

theorem faultOf_propertyParam (p : Property) :
    faultOf (propertyParam p) =
      if p.overflows then some (.conversion .beyondDouble) else none :=
  (faultOf_bind_pure ..).trans (faultOf_defaultExpression p)

/-! ## Record types -/

theorem findSome?_if {α β : Type} (b : α → Bool) (x : β) (items : List α) :
    (items.findSome? fun a => if b a then some x else none) =
      if items.any b then some x else none := by
  induction items with
  | nil => rfl
  | cons a rest ih => cases ha : b a <;> simp [ha, ih]

theorem faultOf_initializer (o : Output) (e : Entity) :
    faultOf (o.initializer e) =
      if e.properties.any (·.overflows) then some (.conversion .beyondDouble) else none := by
  refine (faultOf_bind_pure ..).trans ?_
  rw [faultOf_mapM]
  simp only [faultOf_propertyParam]
  rw [findSome?_if fun p : Property => p.overflows]

theorem faultOf_recordType (o : Output) (db : Database) (e : Entity) :
    faultOf (o.recordType db e) =
      if e.properties.any (·.overflows) then some (.conversion .beyondDouble) else none :=
  (faultOf_bind_pure ..).trans (faultOf_initializer o e)

variable (o : Output)

section

variable {g : Gaps}

theorem constant_isSound {name : String} {value : Node} {type : Option Node}
    {comment : Option String} (htype : optionalTypeFault? type = none)
    (hvalue : value.expressionFault? g = none) :
    (o.constant name value type comment).IsSound g where
  typed := by simp [Output.constant, Variable.isTyped]
  printable := by simp [Output.constant, Variable.fault?, optionalValueFault?, htype, hvalue]

theorem callNode_fault? (name : String) (arguments : List Argument) :
    (callNode name arguments).expressionFault? g = argumentsFault? g arguments := by
  simp [callNode, Node.expressionFault?, Invocation.fault?, baseFault?, trailingFault?]

theorem rowStatement_isSound (name verb : String) (e : Entity) (sql : String) :
    (o.rowStatement name verb e sql).IsSound g :=
  constant_isSound o rfl rfl

theorem indexConstant_isSound {name : String} {indices : List Int} {comment : String}
    (h : ∀ n ∈ indices, g.integer n = none) : (o.indexConstant name indices comment).IsSound g :=
  constant_isSound o rfl (List.findSome?_eq_none_iff.mpr h)

/-! ### Indices -/

section

variable {e : Entity} (he : g.Spares e)

include he

theorem integer_unbound : g.integer unbound = none :=
  he.narrow.integer _ (Number.isLong_of_lt_ten_pow 1 (by decide) (by decide))

theorem integer_allUnbound : ∀ n ∈ allUnbound e, g.integer n = none := by
  intro n hn
  rw [List.eq_of_mem_replicate hn]
  exact integer_unbound he

theorem integer_placeholders {bound : List Slot} (hbound : bound.length ≤ e.properties.length) :
    ∀ n ∈ placeholders e bound, g.integer n = none := by
  intro n hn
  obtain ⟨position, -, rfl⟩ := List.mem_map.mp hn
  unfold placeholderOf
  split
  case h_1 index hindex =>
    have hlt := (List.findIdx?_eq_some_iff_getElem.mp hindex).1
    exact he.columns (index + 1) (by omega)
  case h_2 => exact integer_unbound he

theorem integer_indicesWhen (possible : Bool) {bound : List Slot}
    (hbound : bound.length ≤ e.properties.length) :
    ∀ n ∈ Statements.indicesWhen possible e bound, g.integer n = none := by
  unfold Statements.indicesWhen
  split
  · exact integer_placeholders he hbound
  · exact integer_allUnbound he

theorem integer_selectIndices :
    ∀ n ∈ (Statements.ofEntity e).selectIndices, g.integer n = none := by
  intro n hn
  obtain ⟨position, hposition, rfl⟩ := List.mem_map.mp hn
  exact he.columns position (List.mem_range.mp hposition).le

theorem integer_insertIndices : ∀ n ∈ (Statements.ofEntity e).insertIndices, g.integer n = none :=
  integer_indicesWhen he _ ((List.length_filter_le ..).trans_eq List.length_zipIdx)

theorem integer_updateIndices :
    ∀ n ∈ (Statements.ofEntity e).updateIndices, g.integer n = none := by
  refine integer_indicesWhen he _ ?_
  have hparts : (valueSlots e).length + (keySlots e).length = (slots e).length := by
    rw [valueSlots, keySlots, ← List.countP_eq_length_filter, ← List.countP_eq_length_filter,
      Nat.add_comm, List.length_eq_countP_add_countP fun slot : Slot => slot.1.primaryKey]
    simp
  rw [List.length_append, hparts, slots, List.length_zipIdx]

theorem integer_deleteIndices :
    ∀ n ∈ (Statements.ofEntity e).deleteIndices, g.integer n = none := by
  refine integer_indicesWhen he _ ?_
  unfold matchSlots
  dsimp only
  split
  · exact List.length_zipIdx.le
  · exact (List.length_filter_le ..).trans_eq List.length_zipIdx

end

theorem forall_mem_withStatement {P : Variable → Prop} {statement : Option String}
    {constants : String → List Variable} (h : ∀ sql, ∀ v ∈ constants sql, P v) :
    ∀ v ∈ Output.withStatement statement constants, P v := by
  cases statement with
  | none => nofun
  | some sql => exact h sql

theorem forall_mem_statementVariables {P : Variable → Prop} {e : Entity} {s : Statements}
    (hselect : ∀ v ∈ o.selectVariables e s, P v) (hupdate : ∀ v ∈ o.updateVariables e s, P v)
    (hinsert : ∀ v ∈ o.insertVariables e s, P v) (hdelete : ∀ v ∈ o.deleteVariables e s, P v) :
    ∀ v ∈ o.statementVariables e s, P v := by
  intro v hv
  simp only [Output.statementVariables, List.mem_append] at hv
  rcases hv with ((hv | hv) | hv) | hv
  · exact hselect v hv
  · exact hupdate v hv
  · exact hinsert v hv
  · exact hdelete v hv

section

variable {e : Entity} (he : g.Spares e)

include he

theorem statementVariables_isSound :
    ∀ v ∈ o.statementVariables e (.ofEntity e), v.IsSound g := by
  have hselect : ∀ v ∈ o.selectVariables e (.ofEntity e), v.IsSound g := by
    simp only [Output.selectVariables, List.forall_mem_cons]
    exact ⟨constant_isSound o rfl rfl, constant_isSound o rfl rfl,
      indexConstant_isSound o (integer_selectIndices he), nofun⟩
  have hupdate : ∀ v ∈ o.updateVariables e (.ofEntity e), v.IsSound g :=
    forall_mem_withStatement fun sql => by
      simp only [List.forall_mem_cons]
      exact ⟨rowStatement_isSound o _ _ e sql,
        indexConstant_isSound o (integer_updateIndices he), nofun⟩
  have hinsert : ∀ v ∈ o.insertVariables e (.ofEntity e), v.IsSound g :=
    forall_mem_withStatement fun sql => forall_mem_withStatement fun returning => by
      simp only [List.forall_mem_cons]
      exact ⟨rowStatement_isSound o _ _ e sql, constant_isSound o rfl rfl,
        indexConstant_isSound o (integer_insertIndices he), nofun⟩
  have hdelete : ∀ v ∈ o.deleteVariables e (.ofEntity e), v.IsSound g :=
    forall_mem_withStatement fun sql => by
      simp only [List.forall_mem_cons]
      exact ⟨rowStatement_isSound o _ _ e sql,
        indexConstant_isSound o (integer_deleteIndices he), nofun⟩
  exact forall_mem_statementVariables o hselect hupdate hinsert hdelete

theorem schemaTypeVariables_isSound : ∀ v ∈ o.schemaTypeVariables e, v.IsSound g := by
  have hcreation : ∀ v ∈ o.creationVariables e, v.IsSound g :=
    forall_mem_withStatement fun sql => by
      simp only [List.forall_mem_singleton]
      exact constant_isSound o rfl rfl
  intro v hv
  simp only [Output.schemaTypeVariables, List.mem_append, List.mem_cons, List.not_mem_nil,
    or_false] at hv
  rcases hv with ((rfl | rfl) | hv) | hv
  · exact constant_isSound o rfl rfl
  · exact constant_isSound o rfl (he.columns _ le_rfl)
  · exact hcreation v hv
  · exact statementVariables_isSound o he v hv

theorem column_isSound {slot : Slot} (hslot : slot ∈ slots e) : (o.column e slot).IsSound g := by
  refine constant_isSound o ?_ ?_
  · simp [optionalTypeFault?, Node.typeFault?, typesFault?]
  · have hposition := he.columns slot.2 (List.snd_lt_of_mem_zipIdx hslot).le
    simp [callNode_fault?, labelled, argumentsFault?, Node.expressionFault?, optionalTypeFault?,
      hposition]

theorem schemaType_isSound : (o.schemaType e).IsSound g := by
  apply TypeDef.isSound
  case hkind => exact he.narrow.kind _
  case hconformances =>
    intro c hc
    simp only [Output.schemaType, Output.schemaConformances] at hc
    split at hc
    · rw [List.mem_singleton.mp hc]
      rfl
    · rcases List.mem_cons.mp hc with rfl | hc
      · rfl
      · obtain ⟨operation, -, rfl⟩ := List.mem_map.mp hc
        cases operation <;> rfl
  case hnested => nofun
  case htypeVariables => exact schemaTypeVariables_isSound o he
  case hinstanceVariables =>
    intro v hv
    obtain ⟨slot, hslot, rfl⟩ := List.mem_map.mp hv
    exact column_isSound o he hslot
  case hcomputed => nofun
  case hfunctions =>
    intro f hf
    rw [List.mem_singleton.mp hf]
    rfl

theorem initializer_fault? {f : Function} (h : o.initializer e = .ok f) : f.fault? g = none := by
  obtain ⟨parameters, hparameters, h⟩ := bind_eq_ok h
  cases h
  have hparams : parameters.findSome? (Param.fault? g) = none := by
    rw [List.findSome?_eq_none_iff]
    intro param hparam
    obtain ⟨p, hmem, hp⟩ := mem_of_mapM hparameters hparam
    exact propertyParam_fault? he.narrow (he.defaults p hmem) hp
  have hbody : statementsFault? g (e.properties.map fun p => storeParameter p.name) = none := by
    rw [statementsFault?_eq_none_iff]
    intro s hs
    obtain ⟨p, -, rfl⟩ := List.mem_map.mp hs
    rfl
  simp [Function.fault?, Signature.fault?, Node.typeFault?, hparams, hbody]

omit he

theorem rowInitializer_fault? (e : Entity) : (o.rowInitializer e).fault? g = none := by
  have hvalues : argumentsFault? g (e.properties.map (Output.rowValue e)) = none := by
    rw [argumentsFault?_eq_none_iff]
    intro label value hmem
    obtain ⟨p, -, hp⟩ := List.mem_map.mp hmem
    cases hp
    rfl
  have hcall : statementsFault? g (o.rowInitializer e).body = none := by
    simp [Output.rowInitializer, statementsFault?, Node.statementFault?, Invocation.fault?,
      baseFault?, Node.expressionFault?, hvalues, trailingFault?]
  rw [Function.fault?, hcall]
  rfl

theorem bindFunction_fault? (e : Entity) : (o.bindFunction e).fault? g = none := by
  have hbody : statementsFault? g (e.properties.map (Output.bindProperty e)) = none := by
    rw [statementsFault?_eq_none_iff]
    intro s hs
    obtain ⟨p, -, rfl⟩ := List.mem_map.mp hs
    rfl
  rw [Function.fault?]
  exact (congrArg (Option.or _) hbody).trans rfl

theorem idProperty_fault? (e : Entity) : ∀ c ∈ o.idProperty e, c.fault? g = none := by
  unfold Output.idProperty
  split
  · split
    · nofun
    · intro c hc
      rw [List.mem_singleton.mp hc]
      simp [ComputedProperty.fault?, statementsFault?, Node.statementFault?, ownMember,
        Node.expressionFault?]
  · nofun

include he

theorem recordType_isSound {db : Database} {d : TypeDef} (h : o.recordType db e = .ok d) :
    d.IsSound g := by
  obtain ⟨initializer, hinitializer, h⟩ := bind_eq_ok h
  cases h
  apply TypeDef.isSound
  case hkind => exact he.narrow.kind _
  case hconformances =>
    intro c hc
    simp only [Output.recordConformances, List.mem_cons] at hc
    rcases hc with rfl | hc
    · split <;> rfl
    · split at hc
      · rw [List.mem_singleton.mp hc]
        rfl
      · cases hc
  case hnested =>
    intro inner hinner
    rw [List.mem_singleton.mp hinner]
    exact schemaType_isSound o he
  case htypeVariables =>
    simp only [Output.recordTypeVariables, List.forall_mem_cons]
    refine ⟨constant_isSound o rfl rfl, constant_isSound o rfl rfl, constant_isSound o rfl ?_,
      nofun⟩
    rw [Node.expressionFault?, expressionsFault?_eq_none_iff]
    intro node hnode
    obtain ⟨p, -, rfl⟩ := List.mem_map.mp hnode
    rfl
  case hinstanceVariables =>
    intro v hv
    obtain ⟨p, -, rfl⟩ := List.mem_map.mp hv
    constructor
    · rfl
    · simp [Output.recordVariable, Variable.fault?, optionalTypeFault?, optionalValueFault?]
  case hcomputed => exact idProperty_fault? o e
  case hfunctions =>
    intro f hf
    simp only [List.mem_append, List.mem_cons, List.not_mem_nil, or_false] at hf
    rcases hf with (rfl | rfl) | hf
    · exact initializer_fault? o he hinitializer
    · exact rowInitializer_fault? o e
    · split at hf
      · cases hf
      · rw [List.mem_singleton.mp hf]
        exact bindFunction_fault? o e

end

theorem databaseType_isSound {db : Database} (h : g.SparesAll db) :
    (o.databaseType db).IsSound g := by
  apply TypeDef.isSound
  case hkind => exact h.narrow.kind _
  case hconformances =>
    intro c hc
    rw [List.mem_singleton.mp hc]
    rfl
  case hnested => nofun
  case htypeVariables =>
    simp only [Output.databaseType, List.forall_mem_cons]
    refine ⟨constant_isSound o rfl h.userVersion, constant_isSound o rfl ?_, nofun⟩
    rw [Node.expressionFault?, expressionsFault?_eq_none_iff]
    intro node hnode
    obtain ⟨e, -, rfl⟩ := List.mem_map.mp hnode
    rfl
  case hinstanceVariables =>
    intro v hv
    rw [List.mem_singleton.mp hv]
    exact ⟨rfl, rfl⟩
  case hcomputed => nofun
  case hfunctions =>
    intro f hf
    rw [List.mem_singleton.mp hf]
    rfl

end

end Record

end RecordLoom
