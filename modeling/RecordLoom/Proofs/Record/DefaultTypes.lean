import RecordLoom.Proofs.Record.Build

/-!
# The types of defaults

The default of a parameter has the type of the property's values.  An optional property has a
missing value for a default that its type cannot take, and any other property then has none, so that
its parameter has to be given.
-/

namespace RecordLoom.Record

open RecordLoom.Catalog
open RecordLoom.Code
open RecordLoom.Entity

/-! ## Typing -/

/-- A literal for a number. -/
inductive IsNumber : Node → Prop
  | whole (n : Int) : IsNumber (.intLiteral n)
  | fractional (x : Number.Double) : IsNumber (.doubleLiteral x)

/-- The types of literals and of the calls that make a value. -/
inductive HasType : Node → Node → Prop
  | int (n : Int) : HasType (.intLiteral n) (.named "Int")
  | double (x : Number.Double) : HasType (.doubleLiteral x) (.named "Double")
  | string (s : String) : HasType (.stringLiteral s) (.named "String")
  | bool (b : Bool) : HasType (.boolLiteral b) (.named "Bool")
  | bytes {values : List Int} (h : ∀ n ∈ values, 0 ≤ n ∧ n < 256) :
      HasType (.intArrayLiteral values) (.arrayType (.named "UInt8"))
  | data (bytes : List UInt8) : HasType (.dataLiteral bytes) (.named "Data")
  | identifier : HasType (callNode "UUID" []) (.named "UUID")
  | decimal {number : Node} (h : IsNumber number) :
      HasType (callNode "Decimal" [bare number]) (.named "Decimal")
  | date {number : Node} (h : IsNumber number) :
      HasType (callNode "Date" [labelled "timeIntervalSince1970" number]) (.named "Date")

def isForeign : ValueType → Bool
  | .url | .custom _ => true
  | _ => false

/-- What a default may be, if the property has one. -/
inductive Initializes (p : Property) : Option Node → Prop
  | required (h : p.isOptional = false) : Initializes p none
  | absent (h : p.isOptional = true) : Initializes p (some .nilLiteral)
  | value {node : Node} (htype : HasType node (valueNode p.valueType))
      (hown : isForeign p.valueType = false) : Initializes p (some node)

/-! ## Conversions -/

structure Expresses (type : ValueType) (node : Node) : Prop where
  typed : HasType node (valueNode type)
  own : isForeign type = false

theorem DefaultNumber.literal_isNumber (number : DefaultNumber) : IsNumber number.literal := by
  cases number with
  | whole n => exact .whole n
  | fractional x => exact .fractional x

theorem express_number_typed {number : DefaultNumber} {type : ValueType} {node : Node}
    (h : number.express type = .ok (some node)) : Expresses type node := by
  cases type with
  | integer =>
      obtain ⟨n, -, rfl⟩ := Option.map_eq_some_iff.mp (Except.ok.inj h)
      exact ⟨.int n, rfl⟩
  | double =>
      obtain ⟨x, -, hx⟩ := map_eq_ok h
      cases hx
      exact ⟨.double x, rfl⟩
  | string =>
      cases h
      exact ⟨.string _, rfl⟩
  | bool =>
      cases h
      exact ⟨.bool _, rfl⟩
  | decimal =>
      cases h
      exact ⟨.decimal number.literal_isNumber, rfl⟩
  | date =>
      cases h
      exact ⟨.date number.literal_isNumber, rfl⟩
  | byteArray | data | url | uuid | custom => cases h

theorem expressText_typed {s : String} {type : ValueType} {node : Node}
    (h : expressText s type = some node) : Expresses type node := by
  cases type with
  | string =>
      cases h
      exact ⟨.string s, rfl⟩
  | integer =>
      obtain ⟨n, -, rfl⟩ := Option.map_eq_some_iff.mp h
      exact ⟨.int n, rfl⟩
  | double =>
      obtain ⟨x, -, rfl⟩ := Option.map_eq_some_iff.mp h
      exact ⟨.double x, rfl⟩
  | bool =>
      obtain ⟨b, -, rfl⟩ := Option.map_eq_some_iff.mp h
      exact ⟨.bool b, rfl⟩
  | byteArray | date | data | url | decimal | uuid | custom => cases h

theorem expressBoolean_typed {value : Bool} {type : ValueType} {node : Node}
    (h : expressBoolean value type = some node) : Expresses type node := by
  cases type with
  | bool =>
      cases h
      exact ⟨.bool value, rfl⟩
  | integer =>
      cases h
      exact ⟨.int _, rfl⟩
  | double | string | byteArray | date | data | url | decimal | uuid | custom => cases h

theorem expressBytes_typed {bytes : List UInt8} {type : ValueType} {node : Node}
    (h : expressBytes bytes type = some node) : Expresses type node := by
  cases type with
  | byteArray =>
      cases h
      refine ⟨.bytes ?_, rfl⟩
      rw [List.forall_mem_map]
      intro byte _
      have hbyte := byte.toNat_lt
      omega
  | data =>
      cases h
      exact ⟨.data bytes, rfl⟩
  | integer | double | string | bool | date | url | decimal | uuid | custom => cases h

theorem express_typed {type : ValueType} {literal : Literal} {node : Node}
    (h : express type literal = .ok (some node)) : Expresses type node := by
  cases literal with
  | integer n => exact express_number_typed h
  | real x => exact express_number_typed h
  | boolean value => exact expressBoolean_typed (Except.ok.inj h)
  | text s => exact expressText_typed (Except.ok.inj h)
  | blob bytes => exact expressBytes_typed (Except.ok.inj h)
  | null | expression => cases h

/-! ## Defaults of parameters -/

theorem absentValue_initializes (p : Property) : Initializes p (absentValue p) := by
  unfold absentValue
  split
  case isTrue hoptional => exact .absent hoptional
  case isFalse hrequired => exact .required (by simpa using hrequired)

theorem initializes_of_noDefault {p : Property} (hdefault : p.default = none) :
    ∃ value, defaultExpression p = .ok value ∧ Initializes p value := by
  simp only [defaultExpression, hdefault]
  refine ⟨_, rfl, ?_⟩
  split
  case isTrue hkey =>
      simp only [Bool.and_eq_true, beq_iff_eq] at hkey
      refine .value ?_ ?_
      · rw [hkey.2]
        exact .identifier
      · rw [hkey.2]
        rfl
  case isFalse => exact absentValue_initializes p

theorem initializes_of_express {p : Property} {literal : Literal}
    (hdefault : p.default = some literal) {value : Option Node}
    (hvalue : express p.valueType literal = .ok value) :
    ∃ value, defaultExpression p = .ok value ∧ Initializes p value := by
  simp only [defaultExpression, hdefault, hvalue]
  refine ⟨_, rfl, ?_⟩
  cases value with
  | none => exact absentValue_initializes p
  | some node =>
      obtain ⟨htype, hown⟩ := express_typed hvalue
      exact .value htype hown

/-- A default is well typed, and only an integer that no double is near fails to become one.  A
property of a foreign type never has more than a missing value. -/
theorem defaultExpression_typed (p : Property) :
    p.overflows = true ∧ defaultExpression p = .error .beyondDouble ∨
      p.overflows = false ∧ ∃ value, defaultExpression p = .ok value ∧ Initializes p value ∧
        (isForeign p.valueType = true → value = none ∨ value = some .nilLiteral) := by
  have hforeign : ∀ value, Initializes p value → isForeign p.valueType = true →
      value = none ∨ value = some .nilLiteral := by
    rintro _ (- | - | ⟨-, hown⟩) htype
    · exact .inl rfl
    · exact .inr rfl
    · exact absurd (hown.symm.trans htype) Bool.false_ne_true
  cases hoverflows : p.overflows with
  | true =>
      obtain ⟨n, hdefault, htype, hnone⟩ := overflows_iff.mp hoverflows
      refine .inl ⟨rfl, ?_⟩
      simp only [defaultExpression, hdefault, htype, express_overflow hnone]
      rfl
  | false =>
      obtain ⟨value, hvalue, hinitializes⟩ :
          ∃ value, defaultExpression p = .ok value ∧ Initializes p value := by
        cases hdefault : p.default with
        | none => exact initializes_of_noDefault hdefault
        | some literal =>
            obtain ⟨value, hvalue⟩ : ∃ value, express p.valueType literal = .ok value := by
              refine express_ok fun n hinteger htype hnone => ?_
              refine Bool.false_ne_true (hoverflows.symm.trans (overflows_iff.mpr ?_))
              exact ⟨n, hinteger ▸ hdefault, htype, hnone⟩
            exact initializes_of_express hdefault hvalue
      exact .inr ⟨rfl, value, hvalue, hinitializes, hforeign value hinitializes⟩

end RecordLoom.Record
