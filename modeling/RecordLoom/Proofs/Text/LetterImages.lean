import RecordLoom.Proofs.Text.CaseImages

/-!
# Letters under the case mappings

The small form and the capital form of a letter start with a letter.  What the mapping to small
letters makes of letters, digits and numbers are such characters again, but for the dot that is left
of the dotted capital.  The capital form of a letter may hold other marks.
-/

namespace RecordLoom.Text

/-! ## Sets of code points as bits, read back -/

namespace Stride

def bits (s : Stride) : Nat :=
  if s.step = 1 then (1 <<< (s.last + 1 - s.first) - 1) <<< s.first else s.mask

theorem exists_of_testBit_maskFrom {first step count i : Nat}
    (h : (maskFrom first step count).testBit i = true) : ∃ k < count, i = first + step * k := by
  induction count with
  | zero => simp [maskFrom] at h
  | succ count ih =>
      rw [maskFrom, Nat.testBit_or, Bool.or_eq_true] at h
      rcases h with hlast | hbefore
      · refine ⟨count, Nat.lt_succ_self count, ?_⟩
        rw [Nat.shiftLeft_eq, Nat.one_mul, Nat.testBit_two_pow, decide_eq_true_eq] at hlast
        exact hlast.symm
      · obtain ⟨k, hk, hi⟩ := ih hbefore
        exact ⟨k, Nat.lt_succ_of_lt hk, hi⟩

theorem contains_of_testBit {s : Stride} {code : Nat} (hs : s.first ≤ s.last)
    (h : s.bits.testBit code = true) : s.contains code = true := by
  unfold bits at h
  split at h
  case isTrue hstep =>
    simp only [Nat.one_shiftLeft, Nat.testBit_shiftLeft, Nat.testBit_two_pow_sub_one,
      Bool.and_eq_true, decide_eq_true_eq] at h
    simp only [contains, hstep, Nat.mod_one, Bool.and_eq_true, decide_eq_true_eq,
      beq_self_eq_true, and_true]
    omega
  case isFalse =>
    obtain ⟨k, hk, rfl⟩ := exists_of_testBit_maskFrom h
    have hbound : s.step * k ≤ s.last - s.first :=
      Nat.le_trans (Nat.mul_le_mul_left s.step (Nat.le_of_lt_succ hk)) (Nat.mul_div_le _ _)
    simp only [contains, Nat.add_sub_cancel_left, Nat.mul_mod_right, Bool.and_eq_true,
      decide_eq_true_eq, beq_self_eq_true, and_true]
    omega

end Stride

theorem exists_of_testBit_unionMask {masks : List Nat} {code : Nat}
    (h : (unionMask masks).testBit code = true) : ∃ mask ∈ masks, mask.testBit code = true := by
  induction masks with
  | nil => simp [unionMask] at h
  | cons mask masks ih =>
      rw [unionMask, List.foldr_cons, Nat.testBit_or, Bool.or_eq_true] at h
      rcases h with hmask | hrest
      · exact ⟨mask, List.mem_cons_self, hmask⟩
      · obtain ⟨other, hother, hbit⟩ := ih hrest
        exact ⟨other, List.mem_cons_of_mem _ hother, hbit⟩

def landing (strides : List Stride) : Nat := (1 <<< 128 - 1) ||| unionMask (strides.map Stride.bits)

theorem covers_of_testBit {strides : List Stride} (hstrides : ∀ s ∈ strides, s.first ≤ s.last)
    {c : Char} (h : (landing strides).testBit c.toNat = true) :
    c.toNat < 128 ∨ covers strides c = true := by
  rw [landing, Nat.one_shiftLeft, Nat.testBit_or, Bool.or_eq_true, Nat.testBit_two_pow_sub_one,
    decide_eq_true_eq] at h
  refine h.imp_right fun hbit => ?_
  obtain ⟨bits, hbits, hbit⟩ := exists_of_testBit_unionMask hbit
  obtain ⟨s, hs, rfl⟩ := List.mem_map.mp hbits
  exact List.any_eq_true.mpr ⟨s, hs, Stride.contains_of_testBit (hstrides s hs) hbit⟩

/-! ## Where letters are moved to -/

namespace Shift

def isMark (s : Shift) : Bool := [837, 8544, 8560, 9398, 9424].contains s.first

def apart (s : Shift) (strides : List Stride) : Bool :=
  strides.all fun t => t.last < s.first || s.last < t.first

theorem not_covers_of_apart {s : Shift} {strides : List Stride} (h : s.apart strides = true)
    {c : Char} (hc : s.covers c.toNat = true) : Text.covers strides c = false := by
  rw [Text.covers, List.any_eq_false]
  intro t ht hcontains
  have hapart := List.all_eq_true.mp h t ht
  simp only [Bool.or_eq_true, decide_eq_true_eq] at hapart
  simp only [covers, Stride.contains, Bool.and_eq_true, decide_eq_true_eq] at hc hcontains
  omega

end Shift

def letterImages : Nat :=
  unionMask (((lowerShifts ++ upperShifts).filter fun s => !s.isMark).map Shift.imageMask) |||
    unionMask (upperExpansions.map fun e => 1 <<< e.2.headD 0)

theorem letterShifts_checked :
    letterImages &&& landing letterStrides = letterImages ∧
      (letterStrides.all fun t => t.first ≤ t.last) = true ∧
      (((lowerShifts ++ upperShifts).filter Shift.isMark).all (·.apart letterStrides)) = true := by
  decide +kernel

theorem isLetter_of_isAlpha {c : Char} (h : c.isAlpha = true) : isLetter c = true := by
  rw [isLetter, if_pos (lt_of_isAlpha h), h]

theorem covers_of_letterImages {c : Char} (h : letterImages.testBit c.toNat = true) :
    c.toNat < 128 ∨ covers letterStrides c = true := by
  rw [← letterShifts_checked.1, Nat.testBit_and, Bool.and_eq_true] at h
  refine covers_of_testBit (fun t ht => ?_) h.2
  simpa using List.all_eq_true.mp letterShifts_checked.2.1 t ht

theorem isLetter_of_letterImages {c : Char} (h : letterImages.testBit c.toNat = true)
    (hascii : c.toNat < 128 → c.isAlpha = true) : isLetter c = true := by
  by_cases hc : c.toNat < 128
  case pos => exact isLetter_of_isAlpha (hascii hc)
  case neg => rw [isLetter, if_neg hc, (covers_of_letterImages h).resolve_left hc]

namespace Shift

variable {s : Shift} (hs : s ∈ lowerShifts ++ upperShifts) {c : Char}
  (hc : s.covers c.toNat = true)

include hs hc

theorem isLetter_of_isMark (hmark : s.isMark = true) (hascii : ¬c.toNat < 128) :
    isLetter c = false := by
  have hapart := List.all_eq_true.mp letterShifts_checked.2.2 s (List.mem_filter.mpr ⟨hs, hmark⟩)
  rw [isLetter, if_neg hascii, not_covers_of_apart hapart hc]

theorem testBit_letterImages (hvalid : s.isValid = true) (hmark : s.isMark = false) :
    letterImages.testBit ((c.toNat : Int) + s.shift).toNat = true := by
  have hmem : s ∈ (lowerShifts ++ upperShifts).filter fun s => !s.isMark :=
    List.mem_filter.mpr ⟨hs, by simp [hmark]⟩
  rw [letterImages, Nat.testBit_or, Bool.or_eq_true]
  exact .inl (testBit_unionMask (List.mem_map_of_mem hmem) (testBit_imageMask hvalid hc))

end Shift

theorem isLetter_of_smallForm {s : Shift} (hs : s ∈ lowerShifts) {c : Char}
    (hc : s.covers c.toNat = true) (hmark : s.isMark = false) :
    isLetter (Char.ofNat ((c.toNat : Int) + s.shift).toNat) = true := by
  have hvalid := lowerShifts_checked.1 s hs
  refine isLetter_of_letterImages ?_ fun hascii => ?_
  · rw [Shift.toNat_ofNat hvalid hc]
    exact Shift.testBit_letterImages (List.mem_append_left _ hs) hc hvalid hmark
  · exact Bool.or_eq_true_iff.mpr (.inr ((Shift.smallForm hs hc).ascii hascii).2)

theorem isLetter_of_capitalForm {s : Shift} (hs : s ∈ upperShifts) {c : Char}
    (hc : s.covers c.toNat = true) (hmark : s.isMark = false) :
    isLetter (Char.ofNat ((c.toNat : Int) + s.shift).toNat) = true := by
  have hvalid := upperShifts_checked.1 s hs
  refine isLetter_of_letterImages ?_ fun hascii => ?_
  · rw [Shift.toNat_ofNat hvalid hc]
    exact Shift.testBit_letterImages (List.mem_append_right _ hs) hc hvalid hmark
  · exact Bool.or_eq_true_iff.mpr (.inl ((Shift.capital hs hc).ascii hascii))

theorem isLetter_of_expansion {e : Nat × List Nat} (he : e ∈ upperExpansions) :
    isLetter (Char.ofNat (e.2.headD 0)) = true := by
  have hcode : (Char.ofNat (e.2.headD 0)).toNat = e.2.headD 0 := by
    rw [Char.ofNat, dif_pos (.inl (upperExpansions_isValid e he))]
    rfl
  refine isLetter_of_letterImages ?_ fun hascii => ?_
  · rw [hcode, letterImages, Nat.testBit_or, Bool.or_eq_true]
    exact .inr (testBit_unionMask
      (List.mem_map_of_mem (f := fun e : Nat × List Nat => 1 <<< e.2.headD 0) he) (by simp))
  · exact Bool.or_eq_true_iff.mpr (.inl ((capital_of_expansion he).ascii hascii))

/-! ## Forms of letters -/

theorem isLetter_head_lowerOf {c d : Char} (hc : isLetter c = true)
    (hd : (lowerOf c).head? = some d) : isLetter d = true := by
  have hform := lowerForm c
  generalize lowerOf c = form at hform hd
  cases hform with
  | ascii hascii =>
      obtain rfl := Option.some.inj hd
      rcases (asciiForms hascii).small with hsame | ⟨-, -, -, hsmall⟩
      · rwa [hsame]
      · exact isLetter_of_isAlpha (Bool.or_eq_true_iff.mpr (.inr hsmall))
  | dotted =>
      obtain rfl := Option.some.inj hd
      decide
  | @moved s hascii hs hcovers =>
      obtain rfl := Option.some.inj hd
      cases hmark : s.isMark with
      | false => exact isLetter_of_smallForm hs hcovers hmark
      | true =>
          have hnot := Shift.isLetter_of_isMark (List.mem_append_left _ hs) hcovers hmark hascii
          simp [hnot] at hc
  | same =>
      obtain rfl := Option.some.inj hd
      exact hc

theorem isLetter_head_upperOf {c d : Char} (hc : isLetter c = true)
    (hd : (upperOf c).head? = some d) : isLetter d = true := by
  have hform := upperForm c
  generalize upperOf c = form at hform hd
  cases hform with
  | ascii hascii =>
      obtain rfl := Option.some.inj hd
      rcases (asciiForms hascii).capital with hsame | ⟨-, hcapital⟩
      · rwa [hsame]
      · exact isLetter_of_isAlpha (Bool.or_eq_true_iff.mpr (.inl hcapital))
  | @expanded e he =>
      have hletter := isLetter_of_expansion he
      obtain ⟨code, codes, hcodes⟩ := List.exists_cons_of_ne_nil (upperExpansions_ne_nil e he)
      rw [hcodes] at hd hletter
      obtain rfl := Option.some.inj hd
      exact hletter
  | @moved s hascii hs hcovers =>
      obtain rfl := Option.some.inj hd
      cases hmark : s.isMark with
      | false => exact isLetter_of_capitalForm hs hcovers hmark
      | true =>
          have hnot := Shift.isLetter_of_isMark (List.mem_append_right _ hs) hcovers hmark hascii
          simp [hnot] at hc
  | same =>
      obtain rfl := Option.some.inj hd
      exact hc

/-! ## Small forms of letters, digits and numbers -/

theorem isAlphanumeric_of_isLetter {c : Char} (h : isLetter c = true) : isAlphanumeric c = true := by
  rw [isAlphanumeric, h, Bool.true_or, Bool.true_or]

theorem isAlphanumeric_of_isAlpha {c : Char} (h : c.isAlpha = true) : isAlphanumeric c = true :=
  isAlphanumeric_of_isLetter (isLetter_of_isAlpha h)

/-- The marks that the mapping to small letters moves are the Roman numbers, whose small forms are
numbers too, and the letters in circles, which are neither digits nor numbers. -/
theorem lowerMarks_checked :
    lowerShifts.filter Shift.isMark = [⟨8544, 8559, 1, 16⟩, ⟨9398, 9423, 1, 26⟩] ∧
      ⟨8528, 8578, 1⟩ ∈ numericStrides ∧ Shift.apart ⟨9398, 9423, 1, 26⟩ numericStrides = true ∧
      ∀ start ∈ digitZeros, start + 10 ≤ 9398 ∨ 9423 < start :=
  ⟨rfl, by decide, by decide, by decide⟩

theorem isAlphanumeric_of_mark {s : Shift} (hs : s ∈ lowerShifts) (hmark : s.isMark = true)
    {c : Char} (hcovers : s.covers c.toNat = true) (hc : isAlphanumeric c = true) :
    isAlphanumeric (Char.ofNat ((c.toNat : Int) + s.shift).toNat) = true := by
  obtain ⟨hmarks, hroman, hnumbers, hdigits⟩ := lowerMarks_checked
  have hmem := List.mem_filter.mpr ⟨hs, hmark⟩
  have hcode := Shift.toNat_ofNat (lowerShifts_checked.1 s hs) hcovers
  have hrange := hcovers
  rw [hmarks, List.mem_pair] at hmem
  rcases hmem with rfl | rfl <;>
    simp only [Shift.covers, Stride.contains, Bool.and_eq_true, decide_eq_true_eq] at hrange
  · have hnumber : Stride.contains ⟨8528, 8578, 1⟩ ((c.toNat : Int) + 16).toNat = true := by
      simp only [Stride.contains, Nat.mod_one, beq_self_eq_true, Bool.and_eq_true,
        decide_eq_true_eq, and_true]
      omega
    rw [isAlphanumeric, Bool.or_eq_true, covers, List.any_eq_true, hcode]
    exact .inr ⟨_, hroman, hnumber⟩
  · rw [isAlphanumeric, Bool.or_eq_true, Bool.or_eq_true] at hc
    rcases hc with (hletter | hdigit) | hnumber
    · have hnot := Shift.isLetter_of_isMark (List.mem_append_left _ hs) hcovers hmark (by omega)
      simp [hnot] at hletter
    · obtain ⟨start, hstart, hlow, hhigh⟩ := exists_digitZero hdigit
      have hapart := hdigits start hstart
      omega
    · simp [Shift.not_covers_of_apart hnumbers hcovers] at hnumber

/-- The small forms of letters, digits and numbers are such characters again, but for the dot that
is left of the dotted capital. -/
theorem isAlphanumeric_of_mem_lowerOf {c d : Char} (hc : isAlphanumeric c = true)
    (hd : d ∈ lowerOf c) : isAlphanumeric d = true ∨ d = '\u0307' := by
  have hform := lowerForm c
  generalize lowerOf c = form at hform hd
  cases hform with
  | ascii hascii =>
      obtain rfl := List.mem_singleton.mp hd
      rcases (asciiForms hascii).small with hsame | ⟨-, -, -, hsmall⟩
      · exact .inl (by rwa [hsame])
      · exact .inl (isAlphanumeric_of_isAlpha (Bool.or_eq_true_iff.mpr (.inr hsmall)))
  | dotted =>
      rcases List.mem_pair.mp hd with rfl | rfl
      · exact .inl (by decide)
      · exact .inr rfl
  | @moved s _ hs hcovers =>
      obtain rfl := List.mem_singleton.mp hd
      cases hmark : s.isMark with
      | false => exact .inl (isAlphanumeric_of_isLetter (isLetter_of_smallForm hs hcovers hmark))
      | true => exact .inl (isAlphanumeric_of_mark hs hmark hcovers hc)
  | same =>
      obtain rfl := List.mem_singleton.mp hd
      exact .inl hc

theorem isLetter_of_lowerOf {c d : Char} (hd : lowerOf c = [d]) (hsmall : d.isLower = true) :
    isLetter c = true := by
  have hform := lowerForm c
  rw [hd] at hform
  cases hform with
  | ascii hascii =>
      exact of_ascii (P := fun c => c.toLower.isLower = true → isLetter c = true)
        (by decide +kernel) hascii hsmall
  | @moved s _ hs hcovers =>
      have hlanding := lt_of_isLower hsmall
      rw [Shift.toNat_ofNat (lowerShifts_checked.1 s hs) hcovers] at hlanding
      simp only [Shift.covers, Stride.contains, Bool.and_eq_true, decide_eq_true_eq] at hcovers
      have hbeyond := lowerShifts_checked.2.2.2 s hs
      have hc : c = '\u212a' := Char.toNat_inj.mp (show c.toNat = 8490 by omega)
      rw [hc]
      decide +kernel
  | same hascii => exact absurd (lt_of_isLower hsmall) hascii

/-! ## Dots -/

theorem dots_checked :
    (smallImages.testBit 775 = false ∧ smallImages.testBit 304 = false) ∧
      lowerOf 'İ' = ['i', '\u0307'] ∧
      ∀ code < 128, (Char.ofNat code).toLower ≠ '\u0307' ∧ (Char.ofNat code).toLower ≠ 'İ' := by
  decide +kernel

def IsDotless (c : Char) : Prop := c ≠ '\u0307' ∧ c ≠ 'İ'

/-- A dot is left of the dotted capital, and comes and goes with no other small form. -/
theorem lowerOf_dots (c : Char) :
    lowerOf c = [c] ∨ c = 'İ' ∧ lowerOf c = ['i', '\u0307'] ∨
      IsDotless c ∧ ∃ d, lowerOf c = [d] ∧ IsDotless d := by
  have hform := lowerForm c
  generalize hlower : lowerOf c = form at hform ⊢
  cases hform with
  | ascii hascii =>
      have hc : IsDotless c := by constructor <;> rintro rfl <;> exact absurd hascii (by decide)
      exact .inr (.inr ⟨hc, c.toLower, rfl,
        of_ascii (P := fun c => IsDotless c.toLower) dots_checked.2.2 hascii⟩)
  | dotted hdotted => exact .inr (.inl ⟨hdotted, rfl⟩)
  | @moved s _ hs hcovers =>
      have hvalid := lowerShifts_checked.1 s hs
      have hbit : smallImages.testBit ((c.toNat : Int) + s.shift).toNat = true :=
        testBit_unionMask (List.mem_map_of_mem hs) (Shift.testBit_imageMask hvalid hcovers)
      rw [← Shift.toNat_ofNat hvalid hcovers] at hbit
      have hd : IsDotless (Char.ofNat ((c.toNat : Int) + s.shift).toNat) := by
        constructor <;> intro hdot <;> rw [hdot] at hbit
        · exact absurd (hbit.symm.trans dots_checked.1.1) (by decide)
        · exact absurd (hbit.symm.trans dots_checked.1.2) (by decide)
      refine .inr (.inr ⟨⟨?_, ?_⟩, _, rfl, hd⟩) <;> rintro rfl
      · exact hd.1 (List.singleton_inj.mp (hlower.symm.trans dotAbove_stays.1))
      · have hpair := hlower.symm.trans dots_checked.2.1
        simp at hpair
  | same => exact .inl rfl

end RecordLoom.Text
