import RecordLoom.Proofs.Text.Characters
import Mathlib.Order.Basic
import Mathlib.Tactic.MkIffOfInductiveProp

/-!
# Images under the case mappings

A character that the mapping to small letters moves becomes characters that are their own small
forms and no capitals.  The head of a capital form is its own capital form.  These are facts about
tables, each of them said of two sets of code points: as the bits of two numbers, the sets have
nothing in common when no bit is set in both.
-/

namespace RecordLoom.Text

/-- What holds of all ASCII characters is checked one by one. -/
theorem of_ascii {P : Char → Prop} (h : ∀ code < 128, P (Char.ofNat code)) {c : Char}
    (hc : c.toNat < 128) : P c := by
  have hcode := h c.toNat hc
  rwa [Char.ofNat_toNat] at hcode

/-! ## Sets of code points as bits -/

namespace Stride

def maskFrom (first step : Nat) : Nat → Nat
  | 0 => 0
  | count + 1 => (1 <<< (first + step * count)) ||| maskFrom first step count

def mask (s : Stride) : Nat := maskFrom s.first s.step ((s.last - s.first) / s.step + 1)

theorem testBit_maskFrom {first step count i : Nat} (h : i < count) :
    (maskFrom first step count).testBit (first + step * i) = true := by
  induction count with
  | zero => omega
  | succ count ih =>
      rw [maskFrom, Nat.testBit_or, Bool.or_eq_true]
      rcases Nat.lt_succ_iff_lt_or_eq.mp h with hlt | rfl
      · exact .inr (ih hlt)
      · exact .inl (by simp)

theorem testBit_mask {s : Stride} {code : Nat} (h : s.contains code = true) :
    s.mask.testBit code = true := by
  simp only [contains, Bool.and_eq_true, decide_eq_true_eq, beq_iff_eq] at h
  obtain ⟨⟨hlow, hhigh⟩, hstep⟩ := h
  have hcode : code = s.first + s.step * ((code - s.first) / s.step) := by
    have hdiv := Nat.div_add_mod (code - s.first) s.step
    omega
  have hcount : (code - s.first) / s.step < (s.last - s.first) / s.step + 1 :=
    Nat.lt_succ_of_le (Nat.div_le_div_right (by omega))
  rw [hcode]
  exact testBit_maskFrom hcount

end Stride

def unionMask (masks : List Nat) : Nat := masks.foldr (· ||| ·) 0

theorem testBit_unionMask {masks : List Nat} {mask code : Nat} (hmem : mask ∈ masks)
    (h : mask.testBit code = true) : (unionMask masks).testBit code = true := by
  induction masks with
  | nil => cases hmem
  | cons first rest ih =>
      rw [unionMask, List.foldr_cons, Nat.testBit_or, Bool.or_eq_true]
      rcases List.mem_cons.mp hmem with rfl | hmem
      · exact .inl h
      · exact .inr (ih hmem)

theorem testBit_of_disjoint {mask other code : Nat} (h : mask &&& other = 0)
    (hcode : mask.testBit code = true) : other.testBit code = false := by
  have hboth : (mask &&& other).testBit code = false := by rw [h, Nat.zero_testBit]
  rwa [Nat.testBit_and, hcode, Bool.true_and] at hboth

def coverMask (strides : List Stride) : Nat := unionMask (strides.map Stride.mask)

theorem testBit_coverMask {strides : List Stride} {c : Char} (h : covers strides c = true) :
    (coverMask strides).testBit c.toNat = true := by
  obtain ⟨s, hs, hc⟩ := List.any_eq_true.mp h
  exact testBit_unionMask (List.mem_map_of_mem hs) (Stride.testBit_mask hc)

/-! ## What a mapping moves, and where to -/

namespace Shift

def source (s : Shift) : Stride := ⟨s.first, s.last, s.step⟩

def imageMask (s : Shift) : Nat :=
  if 0 ≤ s.shift then s.source.mask <<< s.shift.toNat else s.source.mask >>> (-s.shift).toNat

def isValid (s : Shift) : Bool :=
  decide (0 ≤ s.first + s.shift) &&
    (decide (s.last + s.shift < 0xD800) ||
      (decide (0xDFFF < s.first + s.shift) && decide (s.last + s.shift < 0x110000)))

variable {s : Shift} (hvalid : s.isValid = true) {code : Nat} (h : s.covers code = true)

include hvalid h

theorem testBit_imageMask : s.imageMask.testBit ((code : Int) + s.shift).toNat = true := by
  have hmask : s.source.mask.testBit code = true := Stride.testBit_mask h
  simp only [isValid, Bool.and_eq_true, decide_eq_true_eq] at hvalid
  simp only [covers, Stride.contains, Bool.and_eq_true, decide_eq_true_eq] at h
  unfold imageMask
  split
  case isTrue hshift =>
    have hcode : ((code : Int) + s.shift).toNat = code + s.shift.toNat := by omega
    rw [hcode, Nat.testBit_shiftLeft]
    simp [hmask]
  case isFalse hshift =>
    have hcode : (-s.shift).toNat + ((code : Int) + s.shift).toNat = code := by omega
    rw [Nat.testBit_shiftRight, hcode, hmask]

theorem toNat_ofNat : (Char.ofNat ((code : Int) + s.shift).toNat).toNat =
    ((code : Int) + s.shift).toNat := by
  simp only [isValid, Bool.and_eq_true, Bool.or_eq_true, decide_eq_true_eq] at hvalid
  simp only [covers, Stride.contains, Bool.and_eq_true, decide_eq_true_eq] at h
  have hchar : ((code : Int) + s.shift).toNat.isValidChar := by
    unfold Nat.isValidChar
    omega
  rw [Char.ofNat, dif_pos hchar]
  rfl

end Shift

def movedMask (expansions : List (Nat × List Nat)) (shifts : List Shift) : Nat :=
  coverMask (shifts.map Shift.source) ||| unionMask (expansions.map fun e => 1 <<< e.1)

section

variable {expansions : List (Nat × List Nat)} {shifts : List Shift}

theorem mapCase_of_not_moved {c : Char}
    (h : (movedMask expansions shifts).testBit c.toNat = false) :
    mapCase expansions shifts c = [c] := by
  rw [movedMask, Nat.testBit_or, Bool.or_eq_false_iff] at h
  have hlookup : expansions.lookup c.toNat = none := by
    rw [List.lookup_eq_none_iff]
    intro e he
    by_contra hkey
    have hkey : c.toNat = e.1 := by simpa using hkey
    have hbit : (1 <<< e.1).testBit c.toNat = true := by simp [hkey]
    rw [testBit_unionMask (List.mem_map_of_mem (f := fun e : Nat × List Nat => 1 <<< e.1) he)
      hbit] at h
    exact absurd h.2 (by decide)
  have hfind : shifts.find? (·.covers c.toNat) = none := by
    rw [List.find?_eq_none]
    intro s hs hcovers
    have hany : covers (shifts.map Shift.source) c = true :=
      List.any_eq_true.mpr ⟨s.source, List.mem_map_of_mem hs, hcovers⟩
    rw [testBit_coverMask hany] at h
    exact absurd h.1 (by decide)
  rw [mapCase, hlookup, hfind]

variable (expansions shifts) in
theorem mapCase_cases (c : Char) :
    (∃ e ∈ expansions, e.1 = c.toNat ∧ mapCase expansions shifts c = e.2.map Char.ofNat) ∨
      (∃ s ∈ shifts, s.covers c.toNat = true ∧
        mapCase expansions shifts c = [Char.ofNat ((c.toNat : Int) + s.shift).toNat]) ∨
      mapCase expansions shifts c = [c] := by
  unfold mapCase
  cases hlookup : expansions.lookup c.toNat with
  | some codes => exact .inl ⟨_, lookup_mem hlookup, rfl, rfl⟩
  | none =>
      cases hfind : shifts.find? (·.covers c.toNat) with
      | some s =>
          have hcovers := List.find?_some hfind
          exact .inr (.inl ⟨s, List.mem_of_find?_eq_some hfind, hcovers, rfl⟩)
      | none => exact .inr (.inr rfl)

end

/-! ## Forms of a character -/

inductive LowerForm (c : Char) : List Char → Prop where
  | ascii (hascii : c.toNat < 128) : LowerForm c [c.toLower]
  | dotted (hdotted : c = 'İ') : LowerForm c ['i', '\u0307']
  | moved {s : Shift} (hascii : ¬c.toNat < 128) (hs : s ∈ lowerShifts)
      (hcovers : s.covers c.toNat = true) :
      LowerForm c [Char.ofNat ((c.toNat : Int) + s.shift).toNat]
  | same (hascii : ¬c.toNat < 128) : LowerForm c [c]

theorem lowerForm (c : Char) : LowerForm c (lowerOf c) := by
  by_cases hascii : c.toNat < 128
  case pos =>
    rw [lowerOf, if_pos hascii]
    exact .ascii hascii
  case neg =>
    rw [lowerOf, if_neg hascii]
    rcases mapCase_cases lowerExpansions lowerShifts c with
      ⟨e, he, hcode, himage⟩ | ⟨s, hs, hcovers, himage⟩ | hsame
    · obtain rfl : e = (304, [105, 775]) := by simpa [lowerExpansions] using he
      rw [himage]
      exact .dotted (Char.toNat_inj.mp hcode.symm)
    · rw [himage]
      exact .moved hascii hs hcovers
    · rw [hsame]
      exact .same hascii

inductive UpperForm (c : Char) : List Char → Prop where
  | ascii (hascii : c.toNat < 128) : UpperForm c [c.toUpper]
  | expanded {e : Nat × List Nat} (he : e ∈ upperExpansions) : UpperForm c (e.2.map Char.ofNat)
  | moved {s : Shift} (hascii : ¬c.toNat < 128) (hs : s ∈ upperShifts)
      (hcovers : s.covers c.toNat = true) :
      UpperForm c [Char.ofNat ((c.toNat : Int) + s.shift).toNat]
  | same (hascii : ¬c.toNat < 128) : UpperForm c [c]

theorem upperForm (c : Char) : UpperForm c (upperOf c) := by
  by_cases hascii : c.toNat < 128
  case pos =>
    rw [upperOf, if_pos hascii]
    exact .ascii hascii
  case neg =>
    rw [upperOf, if_neg hascii]
    rcases mapCase_cases upperExpansions upperShifts c with
      ⟨e, he, -, himage⟩ | ⟨s, hs, hcovers, himage⟩ | hsame
    · rw [himage]
      exact .expanded he
    · rw [himage]
      exact .moved hascii hs hcovers
    · rw [hsame]
      exact .same hascii

/-! ## What the tables say -/

def smallImages : Nat := unionMask (lowerShifts.map Shift.imageMask)

theorem lowerShifts_checked :
    (∀ s ∈ lowerShifts, s.isValid = true) ∧
      smallImages &&& movedMask lowerExpansions lowerShifts = 0 ∧
      smallImages &&& coverMask upperStrides = 0 ∧
      ∀ s ∈ lowerShifts, 128 ≤ (s.first : Int) + s.shift ∨ s.first = 8490 ∧ s.last = 8490 := by
  decide +kernel

def capitalHeads : Nat :=
  unionMask (upperShifts.map Shift.imageMask) |||
    unionMask (upperExpansions.map fun e => 1 <<< e.2.headD 0)

theorem upperShifts_checked :
    (∀ s ∈ upperShifts, s.isValid = true) ∧
      capitalHeads &&& movedMask upperExpansions upperShifts = 0 := by
  decide +kernel

theorem upperExpansions_isValid : ∀ e ∈ upperExpansions, e.2.headD 0 < 0xD800 := by decide

/-- The forms of a character of ASCII, as small letter and as capital, and of which characters it
is a form. -/
@[mk_iff]
structure AsciiForms (c : Char) : Prop where
  small : c.toLower = c ∨ lowerOf c.toLower = [c.toLower] ∧ isUpper c.toLower = false ∧
    isUpper c = true ∧ c.toLower.isLower = true
  capital : c.toUpper = c ∨ upperOf c.toUpper = [c.toUpper] ∧ c.toUpper.isUpper = true
  not_raised : c.isLower = true → upperOf c ≠ [c]
  image : smallImages.testBit c.toNat = true → c = 'k'
  head : capitalHeads.testBit c.toNat = true → c.isUpper = true ∧ c.toUpper = c

instance (c : Char) : Decidable (AsciiForms c) :=
  decidable_of_iff' _ (asciiForms_iff c)

theorem asciiForms {c : Char} (hascii : c.toNat < 128) : AsciiForms c :=
  of_ascii (P := AsciiForms) (by decide +kernel) hascii

theorem dotAbove_stays : lowerOf '\u0307' = ['\u0307'] ∧ isUpper '\u0307' = false := by
  decide +kernel

theorem sigma_forms : lowerOf 'Σ' = ['σ'] ∧ lowerOf 'ς' = ['ς'] := by decide +kernel

/-! ## Small letters -/

structure SmallForm (c d : Char) : Prop where
  lowered : lowerOf d = [d]
  not_upper : isUpper d = false
  ascii : d.toNat < 128 → isUpper c = true ∧ d.isLower = true

theorem Shift.smallForm {s : Shift} (hs : s ∈ lowerShifts) {c : Char}
    (hc : s.covers c.toNat = true) :
    SmallForm c (Char.ofNat ((c.toNat : Int) + s.shift).toNat) := by
  have hvalid := lowerShifts_checked.1 s hs
  have hcode := toNat_ofNat hvalid hc
  generalize Char.ofNat ((c.toNat : Int) + s.shift).toNat = d at hcode ⊢
  have himage : smallImages.testBit d.toNat = true := by
    rw [hcode]
    exact testBit_unionMask (List.mem_map_of_mem hs) (testBit_imageMask hvalid hc)
  by_cases hascii : d.toNat < 128
  case pos =>
    simp only [covers, Stride.contains, Bool.and_eq_true, decide_eq_true_eq] at hc
    have hbeyond := lowerShifts_checked.2.2.2 s hs
    have hc : c = '\u212a' := Char.toNat_inj.mp (show c.toNat = 8490 by omega)
    obtain rfl : d = 'k' := (asciiForms hascii).image himage
    subst hc
    exact ⟨by decide, by decide, fun _ => by decide⟩
  case neg =>
    refine ⟨?_, ?_, fun h => absurd h hascii⟩
    · rw [lowerOf, if_neg hascii]
      exact mapCase_of_not_moved (testBit_of_disjoint lowerShifts_checked.2.1 himage)
    · rw [isUpper, if_neg hascii, Bool.eq_false_iff]
      intro hupper
      have hbit := testBit_of_disjoint lowerShifts_checked.2.2.1 himage
      rw [testBit_coverMask hupper] at hbit
      cases hbit

theorem lowerOf_cases (c : Char) :
    lowerOf c = [c] ∨ lowerOf c = ['i', '\u0307'] ∨ ∃ d, lowerOf c = [d] ∧ SmallForm c d := by
  have hform := lowerForm c
  generalize lowerOf c = form at hform ⊢
  cases hform with
  | ascii hascii =>
      rcases (asciiForms hascii).small with hsame | ⟨hlowered, hnot, hupper, hsmall⟩
      · exact .inl (by rw [hsame])
      · exact .inr (.inr ⟨_, rfl, hlowered, hnot, fun _ => ⟨hupper, hsmall⟩⟩)
  | dotted => exact .inr (.inl rfl)
  | moved _ hs hcovers => exact .inr (.inr ⟨_, rfl, Shift.smallForm hs hcovers⟩)
  | same => exact .inl rfl

theorem lowerOf_of_mem_lowerOf {c d : Char} (h : d ∈ lowerOf c) : lowerOf d = [d] := by
  rcases lowerOf_cases c with hc | hc | ⟨e, hc, he⟩
  · rw [hc, List.mem_singleton] at h
    rw [h, hc]
  · simp only [hc, List.mem_cons, List.not_mem_nil, or_false] at h
    rcases h with rfl | rfl
    · decide
    · exact dotAbove_stays.1
  · rw [hc, List.mem_singleton] at h
    rw [h, he.lowered]

theorem isUpper_of_mem_lowerOf {c d : Char} (h : d ∈ lowerOf c) :
    lowerOf c = [c] ∨ isUpper d = false := by
  rcases lowerOf_cases c with hc | hc | ⟨e, hc, he⟩
  · exact .inl hc
  · simp only [hc, List.mem_cons, List.not_mem_nil, or_false] at h
    rcases h with rfl | rfl
    · exact .inr (by decide)
    · exact .inr dotAbove_stays.2
  · rw [hc, List.mem_singleton] at h
    rw [h]
    exact .inr he.not_upper

theorem isLower_of_mem_lowerOf {c d : Char} (h : d ∈ lowerOf c) (hascii : d.toNat < 128) :
    d = c ∨ d.isLower = true := by
  rcases lowerOf_cases c with hc | hc | ⟨e, hc, he⟩
  · exact .inl (by simpa [hc] using h)
  · simp only [hc, List.mem_cons, List.not_mem_nil, or_false] at h
    rcases h with rfl | rfl
    · exact .inr (by decide)
    · exact absurd hascii (by decide)
  · rw [hc, List.mem_singleton] at h
    subst h
    exact .inr (he.ascii hascii).2

theorem lowerOf_of_getLast? {c d : Char} (h : (lowerOf c).getLast? = some d)
    (hascii : d.toNat < 128) : lowerOf c = [d] := by
  rcases lowerOf_cases c with hc | hc | ⟨e, hc, -⟩
  · rw [hc] at h ⊢
    simpa using h
  · rw [hc] at h
    obtain rfl : '\u0307' = d := by simpa using h
    exact absurd hascii (by decide)
  · rw [hc] at h ⊢
    simpa using h

/-! ## Capitals -/

structure Capital (d : Char) : Prop where
  raised : upperOf d = [d]
  ascii : d.toNat < 128 → d.isUpper = true

theorem capital_of_heads {d : Char} (h : capitalHeads.testBit d.toNat = true) : Capital d := by
  by_cases hascii : d.toNat < 128
  case pos =>
    obtain ⟨hupper, hsame⟩ := (asciiForms hascii).head h
    exact ⟨by rw [upperOf, if_pos hascii, hsame], fun _ => hupper⟩
  case neg =>
    refine ⟨?_, fun h => absurd h hascii⟩
    rw [upperOf, if_neg hascii]
    exact mapCase_of_not_moved (testBit_of_disjoint upperShifts_checked.2 h)

theorem Shift.capital {s : Shift} (hs : s ∈ upperShifts) {c : Char}
    (hc : s.covers c.toNat = true) : Capital (Char.ofNat ((c.toNat : Int) + s.shift).toNat) := by
  have hvalid := upperShifts_checked.1 s hs
  refine capital_of_heads ?_
  rw [toNat_ofNat hvalid hc, capitalHeads, Nat.testBit_or, Bool.or_eq_true]
  exact .inl (testBit_unionMask (List.mem_map_of_mem hs) (testBit_imageMask hvalid hc))

theorem capital_of_expansion {e : Nat × List Nat} (he : e ∈ upperExpansions) :
    Capital (Char.ofNat (e.2.headD 0)) := by
  have hvalid := upperExpansions_isValid e he
  have hcode : (Char.ofNat (e.2.headD 0)).toNat = e.2.headD 0 := by
    rw [Char.ofNat, dif_pos (.inl hvalid)]
    rfl
  refine capital_of_heads ?_
  rw [hcode, capitalHeads, Nat.testBit_or, Bool.or_eq_true]
  exact .inr (testBit_unionMask
    (List.mem_map_of_mem (f := fun e : Nat × List Nat => 1 <<< e.2.headD 0) he) (by simp))

theorem upperOf_cases (c : Char) :
    upperOf c = [c] ∨ ∃ d rest, upperOf c = d :: rest ∧ Capital d := by
  have hform := upperForm c
  generalize upperOf c = form at hform ⊢
  cases hform with
  | ascii hascii =>
      rcases (asciiForms hascii).capital with hsame | ⟨hraised, hupper⟩
      · exact .inl (by rw [hsame])
      · exact .inr ⟨_, [], rfl, hraised, fun _ => hupper⟩
  | @expanded e he =>
      have hcapital := capital_of_expansion he
      obtain ⟨code, codes, hcodes⟩ := List.exists_cons_of_ne_nil (upperExpansions_ne_nil e he)
      rw [hcodes] at hcapital ⊢
      exact .inr ⟨_, _, rfl, hcapital⟩
  | moved _ hs hcovers => exact .inr ⟨_, [], rfl, Shift.capital hs hcovers⟩
  | same => exact .inl rfl

theorem lt_of_isLower {d : Char} (h : d.isLower = true) : d.toNat < 128 := by
  have hz : d.val ≤ 'z'.val := of_decide_eq_true (Bool.and_eq_true_iff.mp h).2
  exact Nat.lt_of_le_of_lt (UInt32.le_iff_toNat_le.mp hz) (by decide)

theorem lt_of_isAlpha {d : Char} (h : d.isAlpha = true) : d.toNat < 128 := by
  rcases Bool.or_eq_true_iff.mp h with hupper | hlower
  · have hz : d.val ≤ 'Z'.val := (of_decide_eq_true hupper).2
    exact Nat.lt_of_le_of_lt (UInt32.le_iff_toNat_le.mp hz) (by decide)
  · exact lt_of_isLower hlower

theorem lt_of_isDigit {d : Char} (h : d.isDigit = true) : d.toNat < 128 := by
  have hnine : d.val ≤ '9'.val := of_decide_eq_true (Bool.and_eq_true_iff.mp h).2
  exact Nat.lt_of_le_of_lt (UInt32.le_iff_toNat_le.mp hnine) (by decide)

theorem upperOf_ne_of_isLower {d : Char} (h : d.isLower = true) : upperOf d ≠ [d] :=
  (asciiForms (lt_of_isLower h)).not_raised h

theorem isUpper_of_upperOf {c d : Char} (hc : upperOf c = [c]) (hd : lowerOf c = [d])
    (hsmall : d.isLower = true) : isUpper c = true := by
  rcases lowerOf_cases c with hsame | hpair | ⟨e, hmoved, he⟩
  · obtain rfl : c = d := by simpa [hsame] using hd
    exact absurd hc (upperOf_ne_of_isLower hsmall)
  · simp [hpair] at hd
  · obtain rfl : e = d := by simpa [hmoved] using hd
    exact (he.ascii (lt_of_isLower hsmall)).1

/-! ## Characters without case -/

theorem upperOf_of_ascii {c : Char} (h : c.toNat < 128) : upperOf c = [c.toUpper] := by
  rw [upperOf, if_pos h]

theorem toUpper_of_not_ascii {c : Char} (h : ¬c.toNat < 128) : c.toUpper = c := by
  unfold Char.toUpper
  split
  case isTrue hlower =>
    have hsmall : c.isLower = true :=
      Bool.and_eq_true_iff.mpr ⟨decide_eq_true hlower.1, decide_eq_true hlower.2⟩
    exact absurd (lt_of_isLower hsmall) h
  case isFalse => rfl

theorem upperChars_of_map_toUpper {cs word : List Char} (hword : ∀ c ∈ word, c.toNat < 128)
    (h : cs.map Char.toUpper = word) : upperChars cs = word := by
  induction cs generalizing word with
  | nil => exact h
  | cons c rest ih =>
      subst h
      obtain ⟨hc, hrest⟩ := List.forall_mem_cons.mp hword
      have hascii : c.toNat < 128 := by
        by_contra hnot
        rw [toUpper_of_not_ascii hnot] at hc
        exact hnot hc
      have htail : rest.flatMap upperOf = rest.map Char.toUpper := ih hrest rfl
      rw [upperChars, List.flatMap_cons, upperOf_of_ascii hascii, htail]
      rfl

theorem upperChars_append {cs ds : List Char} :
    upperChars (cs ++ ds) = upperChars cs ++ upperChars ds :=
  List.flatMap_append

theorem upperChars_of_stays {cs : List Char} (h : ∀ c ∈ cs, upperOf c = [c]) :
    upperChars cs = cs := by
  induction cs with
  | nil => rfl
  | cons c rest ih =>
      obtain ⟨hc, hrest⟩ := List.forall_mem_cons.mp h
      have htail : rest.flatMap upperOf = rest := ih hrest
      rw [upperChars, List.flatMap_cons, hc, htail]
      rfl

theorem caseless_checked :
    (∀ code < 128, isBlank (Char.ofNat code) = true ∨ isDecimalDigit (Char.ofNat code) = true →
        (Char.ofNat code).toUpper = Char.ofNat code) ∧
      coverMask blankStrides &&& movedMask upperExpansions upperShifts = 0 ∧
      ∀ start ∈ digitZeros,
        Stride.mask ⟨start, start + 9, 1⟩ &&& movedMask upperExpansions upperShifts = 0 := by
  decide +kernel

theorem upperOf_of_caseless {c : Char} (h : isBlank c = true ∨ isDecimalDigit c = true) :
    upperOf c = [c] := by
  by_cases hascii : c.toNat < 128
  case pos =>
    have hc : isBlank c = true ∨ isDecimalDigit c = true → c.toUpper = c :=
      of_ascii (P := fun c => isBlank c = true ∨ isDecimalDigit c = true → c.toUpper = c)
        caseless_checked.1 hascii
    rw [upperOf_of_ascii hascii, hc h]
  case neg =>
    rw [upperOf, if_neg hascii]
    refine mapCase_of_not_moved ?_
    rcases h with hblank | hdigit
    · exact testBit_of_disjoint caseless_checked.2.1 (testBit_coverMask hblank)
    · obtain ⟨start, hstart, hlow, hhigh⟩ := exists_digitZero hdigit
      have hcontains : Stride.contains ⟨start, start + 9, 1⟩ c.toNat = true := by
        simp only [Stride.contains, Bool.and_eq_true, decide_eq_true_eq, Nat.mod_one,
          beq_self_eq_true, and_true]
        omega
      exact testBit_of_disjoint (caseless_checked.2.2 start hstart) (Stride.testBit_mask hcontains)

end RecordLoom.Text
