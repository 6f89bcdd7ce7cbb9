import RecordLoom.Proofs.Casing.Spelling
import RecordLoom.Proofs.Text.LetterImages

/-!
# Foreign characters

An identifier starts with a letter or an underscore and holds no foreign character.  The spellings
keep such a start, and joining words neither adds nor drops foreign characters.  The case mappings
do add some: a capital form may hold marks, and a dot is left of the dotted capital when it is put
into lower case.
-/

namespace RecordLoom.Casing

open RecordLoom.Text

/-! ## What makes an identifier -/

/-- The characters that no identifier holds. -/
def foreign (cs : List Char) : List Char := cs.filter fun c => !isIdentifierChar c

@[simp]
theorem foreign_append (cs ds : List Char) : foreign (cs ++ ds) = foreign cs ++ foreign ds :=
  List.filter_append ..

@[simp]
theorem foreign_eq_nil_iff {cs : List Char} :
    foreign cs = [] ↔ ∀ c ∈ cs, isIdentifierChar c = true := by
  simp [foreign, List.filter_eq_nil_iff]

theorem foreign_cons_of_identifierChar {c : Char} (hc : isIdentifierChar c = true)
    (rest : List Char) : foreign (c :: rest) = foreign rest := by
  simp [foreign, hc]

theorem foreign_cons (c : Char) (rest : List Char) :
    foreign (c :: rest) = foreign [c] ++ foreign rest :=
  foreign_append [c] rest

/-- A letter or an underscore comes first. -/
def StartsName (cs : List Char) : Prop := ∃ c ∈ cs.head?, (isLetter c || c = '_') = true

theorem isIdentifier_iff {cs : List Char} :
    IsIdentifier cs ↔ foreign cs = [] ∧ StartsName cs := by
  constructor
  · rintro ⟨hchars, c, rest, rfl, hc⟩
    exact ⟨foreign_eq_nil_iff.mpr hchars, c, rfl, hc⟩
  · rintro ⟨hforeign, c, hhead, hc⟩
    obtain ⟨rest, rfl⟩ := List.head?_eq_some_iff.mp hhead
    exact ⟨foreign_eq_nil_iff.mp hforeign, c, rest, rfl, hc⟩

theorem isIdentifierChar_of_isAlpha {c : Char} (h : c.isAlpha = true) :
    isIdentifierChar c = true := by
  rw [isIdentifierChar, isAlphanumeric_of_isAlpha h, Bool.true_or]

/-! ## First characters -/

namespace StartsName

variable {cs : List Char} (h : StartsName cs)

include h

theorem of_head? {ds : List Char} (hhead : ds.head? = cs.head?) : StartsName ds := by
  rwa [StartsName, hhead]

theorem not_blank : ' ' ∉ cs.head? := by
  obtain ⟨c, hhead, hc⟩ := h
  rintro hblank
  obtain rfl : c = ' ' := Option.some.inj (hhead.symm.trans hblank)
  exact absurd hc (by decide)

theorem upperFirstChars : StartsName (upperFirstChars cs) := by
  obtain ⟨c, hhead, hc⟩ := h
  obtain ⟨rest, rfl⟩ := List.head?_eq_some_iff.mp hhead
  obtain ⟨d, more, hd⟩ := List.exists_cons_of_ne_nil (upperOf_ne_nil c)
  refine ⟨d, by simp [upperFirstChars_cons, hd], ?_⟩
  rcases Bool.or_eq_true_iff.mp hc with hletter | hmark
  · simp [isLetter_head_upperOf hletter (by rw [hd]; rfl)]
  · obtain rfl : c = '_' := by simpa using hmark
    obtain rfl : '_' = d := (List.cons.inj (show ['_'] = d :: more from hd)).1
    decide

theorem lowerFirstChars : StartsName (lowerFirstChars cs) := by
  obtain ⟨c, hhead, hc⟩ := h
  obtain ⟨rest, rfl⟩ := List.head?_eq_some_iff.mp hhead
  obtain ⟨d, more, hd⟩ := List.exists_cons_of_ne_nil (lowerOf_ne_nil c)
  refine ⟨d, by simp [lowerFirstChars_cons, hd], ?_⟩
  rcases Bool.or_eq_true_iff.mp hc with hletter | hmark
  · simp [isLetter_head_lowerOf hletter (by rw [hd]; rfl)]
  · obtain rfl : c = '_' := by simpa using hmark
    obtain rfl : '_' = d := (List.cons.inj (show ['_'] = d :: more from hd)).1
    decide

theorem camelChars : StartsName (camelChars false cs) :=
  h.of_head? (head?_camelChars h.not_blank)

theorem foldRuns : StartsName (foldRuns [] cs) :=
  h.of_head? (head?_foldRuns [] cs)

end StartsName

/-! ## Foreign characters of joined words -/

theorem foreign_of_respells {cs ds : List Char} (h : List.Forall₂ Respells cs ds) :
    foreign ds = foreign cs := by
  induction h with
  | nil => rfl
  | @cons c d cs ds hc _ ih =>
      rw [foreign_cons, foreign_cons c cs, ih]
      rcases hc with rfl | ⟨hsmall, rfl⟩
      · rfl
      · have hletters : c.isAlpha = true ∧ c.toUpper.isAlpha = true :=
          of_ascii (P := fun c => c.isLower = true → c.isAlpha = true ∧ c.toUpper.isAlpha = true)
            (by decide) (lt_of_isLower hsmall) hsmall
        rw [foreign_cons_of_identifierChar (isIdentifierChar_of_isAlpha hletters.1),
          foreign_cons_of_identifierChar (isIdentifierChar_of_isAlpha hletters.2)]

theorem foreign_joinWords {capitalize : Bool} {cs : List Char} (h : ' ' ∉ cs) :
    foreign (joinWords capitalize cs) = foreign cs := by
  rw [foreign_of_respells (forall₂_joinWords capitalize cs), foreign, List.filter_filter, foreign]
  refine List.filter_congr fun c hc => ?_
  by_cases hmark : c = '_'
  case pos =>
    rw [hmark]
    decide
  case neg =>
    have hblank : c ≠ ' ' := fun hblank => h (hblank ▸ hc)
    simp [isSeparator, hmark, hblank]

theorem foreign_camelChars {cs : List Char} (h : ' ' ∉ cs) :
    foreign (camelChars false cs) = foreign cs := by
  have hwords : ' ' ∉ cs.dropWhile (· = '_') := fun hmem => h ((List.dropWhile_suffix _).mem hmem)
  rw [camelChars, foreign_append, foreign_joinWords hwords, ← foreign_append,
    List.takeWhile_append_dropWhile]

theorem blank_not_mem_upperOf {c : Char} (hc : c ≠ ' ') : ' ' ∉ upperOf c := by
  have hform := upperForm c
  generalize upperOf c = form at hform ⊢
  cases hform with
  | ascii hascii =>
      have hupper : c ≠ ' ' → c.toUpper ≠ ' ' :=
        of_ascii (P := fun c => c ≠ ' ' → c.toUpper ≠ ' ') (by decide) hascii
      rw [List.mem_singleton]
      exact (hupper hc).symm
  | @expanded e he =>
      have hexpansions : ∀ e ∈ upperExpansions, ' ' ∉ e.2.map Char.ofNat := by decide +kernel
      exact hexpansions e he
  | moved _ hs hcovers =>
      rw [List.mem_singleton]
      intro hblank
      have hcapital := Shift.capital hs hcovers
      rw [← hblank] at hcapital
      exact absurd (hcapital.ascii (by decide)) (by decide)
  | same =>
      rw [List.mem_singleton]
      exact hc.symm

theorem blank_not_mem_upperFirstChars {cs : List Char} (h : ' ' ∉ cs) :
    ' ' ∉ upperFirstChars cs := by
  cases cs with
  | nil => exact List.not_mem_nil
  | cons c rest =>
      obtain ⟨hc, hrest⟩ := not_or.mp (mt List.mem_cons.mpr h)
      rw [upperFirstChars_cons, List.mem_append, not_or]
      exact ⟨blank_not_mem_upperOf (Ne.symm hc), hrest⟩

/-! ## Dots -/

def dots (cs : List Char) : Nat := cs.count '\u0307' + cs.count 'İ'

@[simp]
theorem dots_nil : dots [] = 0 := rfl

@[simp]
theorem dots_append (cs ds : List Char) : dots (cs ++ ds) = dots cs + dots ds := by
  simp only [dots, List.count_append]
  omega

theorem dots_cons (c : Char) (rest : List Char) : dots (c :: rest) = dots [c] + dots rest :=
  dots_append [c] rest

theorem dots_singleton {c : Char} (hc : IsDotless c) : dots [c] = 0 := by
  simp [dots, hc.1, hc.2]

@[simp]
theorem dots_reverse (cs : List Char) : dots cs.reverse = dots cs := by
  simp [dots]

theorem dots_lowerOf (c : Char) : dots (lowerOf c) = dots [c] := by
  rcases lowerOf_dots c with hsame | ⟨rfl, hpair⟩ | ⟨hc, d, hmoved, hd⟩
  · rw [hsame]
  · rw [hpair]
    rfl
  · rw [hmoved, dots_singleton hc, dots_singleton hd]

theorem dots_lowerCharsFrom (afterCased : Bool) (cs : List Char) :
    dots (lowerCharsFrom afterCased cs) = dots cs := by
  induction cs generalizing afterCased with
  | nil => rfl
  | cons c rest ih =>
      rw [lowerCharsFrom, dots_append, ih, dots_cons c rest]
      split
      case isTrue hsigma =>
        obtain rfl : c = 'Σ' := by simp_all
        rfl
      case isFalse => rw [dots_lowerOf]

theorem dots_foldRun (beforeLower : Bool) (run : List Char) :
    dots (foldRun beforeLower run) = dots run := by
  cases run with
  | nil => rfl
  | cons first more =>
      rw [foldRun, dots_cons first more]
      split
      case h_1 last hlast =>
        obtain ⟨init, rfl⟩ := List.getLast?_eq_some_iff.mp hlast
        split
        case isTrue =>
          rw [dots_cons, List.dropLast_concat, dots_append, lowerChars, dots_lowerCharsFrom,
            dots_append]
        case isFalse => rw [dots_cons, lowerChars, dots_lowerCharsFrom]
      case h_2 hnone => simp [List.getLast?_eq_none_iff.mp hnone]

theorem dots_foldRuns (run cs : List Char) : dots (foldRuns run cs) = dots run + dots cs := by
  induction cs generalizing run with
  | nil => simp [foldRuns, dots_foldRun]
  | cons c rest ih =>
      rw [foldRuns]
      split
      case isTrue =>
        rw [ih, dots_cons c run, dots_cons c rest]
        omega
      case isFalse =>
        rw [dots_append, dots_foldRun, dots_reverse, dots_cons c (foldRuns [] rest), ih,
          dots_cons c rest, dots_nil]
        omega

theorem dots_of_respells {cs ds : List Char} (h : List.Forall₂ Respells cs ds) :
    dots ds = dots cs := by
  induction h with
  | nil => rfl
  | @cons c d cs ds hc _ ih =>
      rw [dots_cons, dots_cons c cs, ih]
      rcases hc with rfl | ⟨hsmall, rfl⟩
      · rfl
      · rw [of_ascii (P := fun c => c.isLower = true → dots [c.toUpper] = dots [c]) (by decide)
          (lt_of_isLower hsmall) hsmall]

theorem dots_joinWords (capitalize : Bool) (cs : List Char) :
    dots (joinWords capitalize cs) = dots cs := by
  rw [dots_of_respells (forall₂_joinWords capitalize cs), dots, List.count_filter (by decide),
    List.count_filter (by decide), dots]

theorem dots_camelChars (cs : List Char) : dots (camelChars false cs) = dots cs := by
  rw [camelChars, dots_append, dots_joinWords, ← dots_append, List.takeWhile_append_dropWhile]

theorem dots_lowerFirstChars (cs : List Char) : dots (lowerFirstChars cs) = dots cs := by
  cases cs with
  | nil => rfl
  | cons c rest => rw [lowerFirstChars_cons, dots_append, dots_lowerOf, ← dots_cons]

end RecordLoom.Casing
