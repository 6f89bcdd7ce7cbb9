import RecordLoom.Proofs.Catalog.Reading
import RecordLoom.Proofs.Code.Fault
import RecordLoom.Proofs.Number.Integers
import RecordLoom.Proofs.Text.CaseImages
import RecordLoom.Record.Defaults

/-!
# Integer defaults

An integer property is initialized with the integer that its default denotes, whichever that is: the
integers below `10 ^ 4300` occur, and not only those that the generated type holds.
-/

namespace RecordLoom

open RecordLoom.Number
open RecordLoom.Text

namespace Catalog.Literal

/-- The integer that a literal stands for: a number as far as it is one, a truth value, or a text
that reads as one. -/
inductive Denotes : Literal → Int → Prop
  | integer (n : Int) : Denotes (.integer n) n
  | real {x : Double} {n : Int} (hfinite : x.isFinite = true) (hvalue : x.value = n) :
      Denotes (.real x) n
  | boolean (value : Bool) : Denotes (.boolean value) (if value then 1 else 0)
  | text {s : String} {n : Int} (h : readInt? s = some n) : Denotes (.text s) n

/-! ## Integers that defaults are read as -/

theorem readInteger_lt {s : String} {n : Int} (h : readInteger s = .ok (.integer n)) :
    n.natAbs < 10 ^ digitLimit := by
  refine readInt?_lt (s := s) ?_
  unfold readInteger at h
  unfold readInt?
  split at h <;> simp_all

theorem parse_integer_lt {text : String} {n : Int} (h : parse text = .ok (.integer n)) :
    n.natAbs < 10 ^ digitLimit := by
  have hparses := parse_parses text
  generalize parse text = result at h hparses
  cases hparses with
  | integer => exact readInteger_lt h
  | blob =>
      obtain ⟨bytes, -, hblob⟩ := Code.map_eq_ok h
      cases hblob
  | _ => cases h

theorem trim_signed {sign digits : List Char} (hsign : sign ∈ [[], ['-'], ['+']])
    (hdigits : ∀ c ∈ digits, isDecimalDigit c = true) :
    trim (.ofList (sign ++ digits)) = .ofList (sign ++ digits) := by
  have hblank := isBlank_of_mem_signed hsign hdigits
  rw [trim, String.toList_ofList,
    dropEnds_eq_self (fun c hc => hblank c (List.mem_of_head? hc))
      fun c hc => hblank c (List.mem_of_getLast? hc)]

theorem parse_signed {text : String} {sign digits : List Char}
    (htext : trim text = .ofList (sign ++ digits)) (hsign : sign ∈ [[], ['-'], ['+']])
    (hdigits : ∀ c ∈ digits, isDecimalDigit c = true) (hne : digits ≠ [])
    (hshort : digits.length ≤ digitLimit) :
    parse text =
      .ok (.integer (signed (sign == ['-']) (natOfDigits (digits.filterMap digitValue?)))) := by
  have hbody : (trim text).toList = sign ++ digits := by rw [htext, String.toList_ofList]
  have hwords : ∀ word ∈ words, upper (trim text) ≠ word := by
    have hletters : ∀ word ∈ words, (word.toList.all fun c => !isDecimalDigit c) = true := by
      decide
    intro word hword
    obtain ⟨d, rest, rfl⟩ := List.exists_cons_of_ne_nil hne
    have hd := hdigits d List.mem_cons_self
    refine upper_ne_of_mem (upperOf_of_caseless (.inr hd)) (by simp [hbody]) fun hmem => ?_
    have hletter := List.all_eq_true.mp (hletters word hword) d hmem
    rw [hd] at hletter
    cases hletter
  have hform : isIntegerText (trim text).toList = true :=
    isIntegerText_iff.mpr ⟨sign, digits, hbody, hsign, hdigits, hne⟩
  have hread := readInteger_eq hsign hdigits hne
  rw [← htext, if_neg (Nat.not_lt.mpr hshort)] at hread
  simp [parse, hwords "NULL" (by decide), hwords "TRUE" (by decide), hwords "FALSE" (by decide),
    hform, hread]

theorem exists_parse_integer {n : Int} (h : n.natAbs < 10 ^ digitLimit) :
    ∃ text, parse text = .ok (.integer n) := by
  let sign := if n < 0 then ['-'] else []
  let digits := Nat.toDigits 10 n.natAbs
  have hsign : sign ∈ [[], ['-'], ['+']] := by
    simp only [sign]
    split <;> simp
  have hdigits : ∀ c ∈ digits, isDecimalDigit c = true := by
    intro c hc
    rw [isDecimalDigit, digitValue?_of_isDigit
      (Nat.isDigit_of_mem_toDigits (by decide) (by decide) hc)]
    rfl
  have hshort : digits.length ≤ digitLimit :=
    (Nat.length_toDigits_le_iff (by decide) (by decide)).mpr h
  have hnegative : (sign == ['-']) = decide (n < 0) := by
    simp only [sign]
    split <;> simp_all
  refine ⟨.ofList (sign ++ digits), ?_⟩
  rw [parse_signed (trim_signed hsign hdigits) hsign hdigits Nat.toDigits_ne_nil hshort,
    natOfDigits_toDigits, hnegative, signed_natAbs]

theorem Denotes.natAbs_lt {text : String} {literal : Literal} {n : Int}
    (hparse : parse text = .ok literal) (h : literal.Denotes n) :
    n.natAbs < 10 ^ digitLimit := by
  cases h with
  | integer n => exact parse_integer_lt hparse
  | real hfinite hvalue =>
      have hrange := Double.toInt?_lt (Double.toInt?_eq_some_iff.mpr ⟨hfinite, hvalue⟩)
      exact hrange.trans_le (twoTo_le_ten_pow (by decide))
  | boolean value =>
      have hone : 1 < 10 ^ digitLimit := Nat.one_lt_pow (by decide) (by decide)
      cases value with
      | false => exact Nat.zero_lt_of_lt hone
      | true => exact hone
  | text h => exact readInt?_lt h

end Catalog.Literal

namespace Record

open RecordLoom.Catalog
open RecordLoom.Code
open RecordLoom.Entity

/-! ## Integer properties -/

theorem exists_express_integer (literal : Literal) :
    ∃ value : Option Int, express .integer literal = .ok (value.map .intLiteral) := by
  cases literal with
  | integer n => exact ⟨some n, rfl⟩
  | real x => exact ⟨x.toInt?, rfl⟩
  | boolean value => exact ⟨some (if value then 1 else 0), rfl⟩
  | text s => exact ⟨readInt? s, rfl⟩
  | null | blob | expression => exact ⟨none, rfl⟩

theorem express_integer_iff {literal : Literal} {n : Int} :
    express .integer literal = .ok (some (.intLiteral n)) ↔ literal.Denotes n := by
  cases literal with
  | integer m =>
      constructor
      · rintro ⟨⟩
        exact .integer n
      · rintro ⟨⟩
        rfl
  | real x =>
      have hexpress : express .integer (.real x) = .ok (x.toInt?.map .intLiteral) := rfl
      have hliteral : express .integer (.real x) = .ok (some (.intLiteral n)) ↔
          x.toInt? = some n := by
        rw [hexpress]
        cases x.toInt? <;> simp
      rw [hliteral, Double.toInt?_eq_some_iff]
      constructor
      · rintro ⟨hfinite, hvalue⟩
        exact .real hfinite hvalue
      · rintro (_ | ⟨hfinite, hvalue⟩)
        exact ⟨hfinite, hvalue⟩
  | boolean value =>
      constructor
      · rintro ⟨⟩
        exact .boolean value
      · rintro ⟨⟩
        rfl
  | text s =>
      have hexpress : express .integer (.text s) = .ok ((readInt? s).map .intLiteral) := rfl
      have hliteral : express .integer (.text s) = .ok (some (.intLiteral n)) ↔
          readInt? s = some n := by
        rw [hexpress]
        cases readInt? s <;> simp
      rw [hliteral]
      constructor
      · exact .text
      · rintro (_ | _ | _ | h)
        exact h
  | null | blob | expression =>
      constructor
      · rintro ⟨⟩
      · rintro ⟨⟩

theorem absentValue_ne_intLiteral (p : Property) (n : Int) :
    absentValue p ≠ some (.intLiteral n) := by
  unfold absentValue
  split <;> simp

section

variable {p : Property} {literal : Literal}

theorem defaultExpression_integer_iff (htype : p.valueType = .integer)
    (hdefault : p.default = some literal) {n : Int} :
    defaultExpression p = .ok (some (.intLiteral n)) ↔ literal.Denotes n := by
  obtain ⟨value, hvalue⟩ := exists_express_integer literal
  rw [← express_integer_iff, hvalue]
  simp only [defaultExpression, hdefault, htype, hvalue]
  cases value with
  | none => simp [Except.map, absentValue_ne_intLiteral]
  | some m => simp [Except.map]

theorem defaultExpression_of_not_denotes (htype : p.valueType = .integer)
    (hdefault : p.default = some literal) (h : ∀ n, ¬literal.Denotes n) :
    defaultExpression p = .ok (absentValue p) := by
  obtain ⟨value, hvalue⟩ := exists_express_integer literal
  simp only [defaultExpression, hdefault, htype, hvalue]
  cases value with
  | none => rfl
  | some m => exact absurd (express_integer_iff.mp hvalue) (h m)

end

/-- The integers that the generated type holds. -/
def FitsInt (n : Int) : Prop := -2 ^ 63 ≤ n ∧ n < 2 ^ 63

/-- An integer property is initialized with the integer that its default denotes, so that the
generated type holds it exactly if it holds that integer.  Defaults that can be read denote the
integers with at most 4300 digits, and each of them is denoted by one. -/
theorem integerDefault_denoted {p : Property} (htype : p.valueType = .integer) :
    (∀ text literal, Literal.parse text = .ok literal → p.default = some literal →
      (∀ n, defaultExpression p = .ok (some (.intLiteral n)) ↔ literal.Denotes n) ∧
        ((∀ n, ¬literal.Denotes n) → defaultExpression p = .ok (absentValue p)) ∧
        ((∀ n, defaultExpression p = .ok (some (.intLiteral n)) → FitsInt n) ↔
          ∀ n, literal.Denotes n → FitsInt n) ∧
        ∀ n, literal.Denotes n → n.natAbs < 10 ^ digitLimit) ∧
      ∀ n : Int, n.natAbs < 10 ^ digitLimit → ∃ text literal,
        Literal.parse text = .ok literal ∧
          defaultExpression { p with default := some literal } = .ok (some (.intLiteral n)) := by
  constructor
  · intro text literal hparse hdefault
    have hdenotes := fun n => defaultExpression_integer_iff htype hdefault (n := n)
    exact ⟨hdenotes, defaultExpression_of_not_denotes htype hdefault,
      forall_congr' fun n => imp_congr_left (hdenotes n), fun n => Literal.Denotes.natAbs_lt hparse⟩
  · intro n hn
    obtain ⟨text, hparse⟩ := Literal.exists_parse_integer hn
    refine ⟨text, .integer n, hparse, ?_⟩
    let q : Property := { p with default := some (.integer n) }
    exact (defaultExpression_integer_iff (p := q) htype rfl).mpr (.integer n)

def counterProperty : Property where
  column := "counter"
  name := "counter"
  columnType := some .integer
  valueType := .integer
  notNull := false
  primaryKey := false
  default := some (.integer 9223372036854775808)
  foreignKey := none
  primaryKeyDetected := false
  foreignKeyDetected := false

theorem counterProperty_denoted :
    Literal.parse "9223372036854775808" = .ok (.integer 9223372036854775808) ∧
      defaultExpression counterProperty = .ok (some (.intLiteral 9223372036854775808)) ∧
      ¬FitsInt 9223372036854775808 := by
  have hparse : Literal.parse "9223372036854775808" = .ok (.integer 9223372036854775808) := by
    decide +kernel
  have hdenoted := (integerDefault_denoted (p := counterProperty) rfl).1
    "9223372036854775808" _ hparse rfl
  exact ⟨hparse, (hdenoted.1 _).mpr (.integer _), by simp [FitsInt]⟩

end Record

end RecordLoom
