import RecordLoom.Number.Reading
import Mathlib.Algebra.Order.Field.Rat
import Mathlib.Data.List.Induction
import Mathlib.Tactic.NormNum
import RecordLoom.Proofs.Text.Characters

/-!
# Integers of numbers and texts

A double is an integer exactly if it is finite and the integer is its value.  The integers that are
read from texts have as many decimal digits as may be read, and the integers among the doubles are
far fewer.
-/

namespace RecordLoom.Number

open RecordLoom.Text

theorem twoTo_add (a b : Nat) : twoTo (a + b) = twoTo a * twoTo b := Nat.pow_add 2 a b

theorem twoTo_le {a b : Nat} (h : a ≤ b) : twoTo a ≤ twoTo b := Nat.pow_le_pow_right (by decide) h

theorem twoTo_le_ten_pow {a b : Nat} (h : a ≤ b) : twoTo a ≤ 10 ^ b :=
  (Nat.pow_le_pow_left (by decide) a).trans (Nat.pow_le_pow_right (by decide) h)

/-! ## Digits -/

theorem digitValue?_lt {c : Char} {value : Nat} (h : digitValue? c = some value) : value < 10 := by
  unfold digitValue? at h
  split at h
  · split at h
    case isTrue hdigit =>
      cases h
      simp only [Char.isDigit, Bool.and_eq_true, decide_eq_true_eq] at hdigit
      have hnine : c.toNat ≤ 57 := hdigit.2
      omega
    case isFalse => cases h
  · obtain ⟨start, hstart, rfl⟩ := Option.map_eq_some_iff.mp h
    have hrange := List.find?_some hstart
    simp only [Bool.and_eq_true, decide_eq_true_eq] at hrange
    omega

theorem natOfDigits_append_singleton (digits : List Nat) (d : Nat) :
    natOfDigits (digits ++ [d]) = 10 * natOfDigits digits + d := by
  simp [natOfDigits]

theorem natOfDigits_lt {digits : List Nat} (h : ∀ d ∈ digits, d < 10) :
    natOfDigits digits < 10 ^ digits.length := by
  induction digits using List.reverseRecOn with
  | nil => exact Nat.one_pos
  | append_singleton digits d ih =>
      obtain ⟨hdigits, hlast⟩ := List.forall_mem_append.mp h
      have hd := hlast d (List.mem_singleton_self d)
      have hrest := ih hdigits
      rw [natOfDigits_append_singleton, List.length_append, List.length_singleton, Nat.pow_succ]
      omega

theorem takeGroups_lt (afterDigit : Bool) (cs : List Char) :
    ∀ d ∈ (takeGroups afterDigit cs).1, d < 10 := by
  fun_induction takeGroups afterDigit cs with
  | case1 | case2 | case4 | case6 => exact List.forall_mem_nil _
  | case3 c rest value hvalue ih => exact List.forall_mem_cons.mpr ⟨digitValue?_lt hvalue, ih⟩
  | case5 afterDigit c rest _ _ value hvalue ih =>
      exact List.forall_mem_cons.mpr ⟨digitValue?_lt hvalue, ih⟩

theorem natAbs_signed (negative : Bool) (n : Nat) : (signed negative n).natAbs = n := by
  cases negative <;> simp [signed]

theorem signed_natAbs (n : Int) : signed (decide (n < 0)) n.natAbs = n := by
  by_cases hnegative : n < 0
  · rw [signed, decide_eq_true hnegative, if_pos rfl]
    omega
  · rw [signed, decide_eq_false hnegative, if_neg Bool.false_ne_true]
    omega

theorem signed_mul (negative : Bool) (n unit : Nat) :
    signed negative (n * unit) = signed negative n * unit := by
  cases negative <;> simp [signed]

theorem signed_eq_mul_iff {negative : Bool} {scaled unit : Nat} {n : Int} (hunit : 0 < unit) :
    signed negative scaled = n * unit ↔
      scaled % unit = 0 ∧ signed negative (scaled / unit) = n := by
  constructor
  · intro h
    obtain rfl : scaled = n.natAbs * unit := by
      rw [← natAbs_signed negative scaled, h, Int.natAbs_mul, Int.natAbs_natCast]
    rw [signed_mul] at h
    rw [Nat.mul_mod_left, Nat.mul_div_cancel _ hunit]
    exact ⟨rfl, Int.eq_of_mul_eq_mul_right (Int.natCast_ne_zero.mpr hunit.ne') h⟩
  · rintro ⟨hmultiple, rfl⟩
    rw [← signed_mul, Nat.div_mul_cancel (Nat.dvd_of_mod_eq_zero hmultiple)]

theorem readInt?_lt {s : String} {n : Int} (h : readInt? s = some n) :
    n.natAbs < 10 ^ digitLimit := by
  have hread : readInt s = .value n := by
    unfold readInt? at h
    split at h
    case h_1 hvalue =>
      cases h
      exact hvalue
    case h_2 => cases h
  have hdigits := takeGroups_lt false (takeSign (dropEnds isNumberBlank s.toList)).2
  simp only [readInt] at hread
  split at hread
  · cases hread
  case h_2 digits hne hgroups =>
    split at hread
    · cases hread
    case isFalse hshort =>
      cases hread
      rw [takeGrouped] at hgroups
      rw [hgroups] at hdigits
      rw [natAbs_signed]
      calc natOfDigits digits
        _ < 10 ^ digits.length := natOfDigits_lt hdigits
        _ ≤ 10 ^ digitLimit := Nat.pow_le_pow_right (by decide) (Nat.not_lt.mp hshort)
  · cases hread

theorem isLong_eq_false_iff {n : Int} : isLong n = false ↔ n.natAbs < 10 ^ digitLimit := by
  rw [isLong, decide_eq_false_iff_not, Nat.not_lt]
  exact Nat.length_toDigits_le_iff (by decide) (by decide)

/-! ## Digits of a number -/

theorem digitValue?_of_isDigit {c : Char} (h : c.isDigit = true) :
    digitValue? c = some (c.toNat - '0'.toNat) := by
  have hrange : 48 ≤ c.toNat ∧ c.toNat ≤ 57 := by
    simp only [Char.isDigit, Bool.and_eq_true, decide_eq_true_eq] at h
    exact h
  rw [digitValue?, if_pos (by omega), if_pos h]
  rfl

theorem natOfDigits_filterMap {cs : List Char} (h : ∀ c ∈ cs, c.isDigit = true) :
    natOfDigits (cs.filterMap digitValue?) = Nat.ofDigitChars 10 cs 0 := by
  unfold natOfDigits Nat.ofDigitChars
  generalize 0 = n
  induction cs generalizing n with
  | nil => rfl
  | cons c rest ih =>
      obtain ⟨hc, hrest⟩ := List.forall_mem_cons.mp h
      rw [List.filterMap_cons_some (digitValue?_of_isDigit hc), List.foldl_cons, List.foldl_cons,
        ih hrest]

theorem natOfDigits_toDigits (n : Nat) :
    natOfDigits ((Nat.toDigits 10 n).filterMap digitValue?) = n := by
  rw [natOfDigits_filterMap fun c hc => Nat.isDigit_of_mem_toDigits (by decide) (by decide) hc]
  exact Nat.ofDigitChars_toDigits (by decide) (by decide)

/-! ## Doubles -/

namespace Double

def value (x : Double) : ℚ :=
  (signed x.isNegative (x.significand * twoTo x.exponent) : ℚ) / twoTo 1074

theorem toInt?_eq_some_iff_scaled {x : Double} {n : Int} :
    x.toInt? = some n ↔ x.isFinite = true ∧
      signed x.isNegative (x.significand * twoTo x.exponent) = n * twoTo 1074 := by
  rw [signed_eq_mul_iff (twoTo_pos 1074), toInt?, signed]
  generalize twoTo 1074 = unit
  split <;> simp_all

theorem toInt?_eq_some_iff {x : Double} {n : Int} :
    x.toInt? = some n ↔ x.isFinite = true ∧ x.value = n := by
  have hunit := twoTo_pos 1074
  rw [toInt?_eq_some_iff_scaled, value]
  generalize twoTo 1074 = unit at hunit
  rw [div_eq_iff (Nat.cast_ne_zero.mpr hunit.ne')]
  norm_cast

theorem exponent_le {x : Double} (h : x.isFinite = true) : x.exponent ≤ 2045 := by
  have hmagnitude : x.magnitude < 0x7ff * twoTo 52 := of_decide_eq_true h
  have hquotient := (Nat.div_lt_iff_lt_mul (twoTo_pos 52)).mpr hmagnitude
  rw [exponent]
  omega

theorem significand_lt (x : Double) : x.significand < twoTo 53 := by
  have hfraction : x.magnitude % twoTo 52 < twoTo 52 := Nat.mod_lt _ (twoTo_pos 52)
  have htwice : twoTo 53 = twoTo 52 * 2 := twoTo_add 52 1
  simp only [significand]
  split <;> omega

theorem toInt?_lt {x : Double} {n : Int} (h : x.toInt? = some n) : n.natAbs < twoTo 1024 := by
  obtain ⟨hfinite, hscaled⟩ := toInt?_eq_some_iff_scaled.mp h
  have habs : x.significand * twoTo x.exponent = n.natAbs * twoTo 1074 := by
    rw [← natAbs_signed x.isNegative (_ * _), hscaled, Int.natAbs_mul, Int.natAbs_natCast]
  refine Nat.lt_of_mul_lt_mul_right (a := twoTo 1074) ?_
  calc n.natAbs * twoTo 1074
    _ = x.significand * twoTo x.exponent := habs.symm
    _ < twoTo 53 * twoTo x.exponent :=
        Nat.mul_lt_mul_of_pos_right (significand_lt x) (twoTo_pos _)
    _ ≤ twoTo 53 * twoTo 2045 :=
        Nat.mul_le_mul_left _ (twoTo_le (exponent_le hfinite))
    _ = twoTo 1024 * twoTo 1074 := (twoTo_add 53 2045).symm.trans (twoTo_add 1024 1074)

end Double

/-! ## Integers that have a text -/

theorem isLong_of_readInt? {s : String} {n : Int} (h : readInt? s = some n) : isLong n = false :=
  isLong_eq_false_iff.mpr (readInt?_lt h)

theorem Double.isLong_of_toInt? {x : Double} {n : Int} (h : x.toInt? = some n) :
    isLong n = false :=
  isLong_eq_false_iff.mpr ((Double.toInt?_lt h).trans_le (twoTo_le_ten_pow (by decide)))

theorem isLong_of_le {m n : Int} (h : m.natAbs ≤ n.natAbs) (hn : isLong n = false) :
    isLong m = false :=
  isLong_eq_false_iff.mpr (h.trans_lt (isLong_eq_false_iff.mp hn))

theorem isLong_of_lt_ten_pow {n : Int} (digits : Nat) (hdigits : digits ≤ digitLimit)
    (h : n.natAbs < 10 ^ digits) : isLong n = false :=
  isLong_eq_false_iff.mpr (h.trans_le (Nat.pow_le_pow_right (by decide) hdigits))

end RecordLoom.Number
