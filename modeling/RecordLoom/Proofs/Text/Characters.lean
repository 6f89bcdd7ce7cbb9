import RecordLoom.Text.Case
import RecordLoom.Text.Trim
import Mathlib.Data.List.Basic

/-!
# Characters and case

What the tables of characters have in common: no character disappears when a text is put in
capitals, and no decimal digit is white space.  Before them, what stands in a text that is put
together with separators.
-/

namespace RecordLoom.Text

/-! ## Separators -/

theorem mem_intercalate {α : Type} {sep : List α} {items : List (List α)} {t : α}
    (h : t ∈ sep.intercalate items) : t ∈ sep ∨ ∃ item ∈ items, t ∈ item := by
  induction items with
  | nil => cases h
  | cons item rest ih =>
      cases rest with
      | nil => exact .inr ⟨item, by simp, by simpa using h⟩
      | cons other rest =>
          simp only [List.intercalate_cons_cons, List.mem_append] at h
          rcases h with (h | h) | h
          · exact .inr ⟨item, by simp, h⟩
          · exact .inl h
          · rcases ih h with h | ⟨found, hfound, h⟩
            · exact .inl h
            · exact .inr ⟨found, List.mem_cons_of_mem _ hfound, h⟩

/-! ## Capitals -/

theorem upperExpansions_ne_nil : ∀ entry ∈ upperExpansions, entry.2 ≠ [] := by decide

theorem lookup_mem {α β : Type} [BEq α] [LawfulBEq α] {entries : List (α × β)} {key : α} {value : β}
    (h : entries.lookup key = some value) : (key, value) ∈ entries := by
  obtain ⟨before, after, rfl, -⟩ := List.lookup_eq_some_iff.mp h
  simp

theorem upperOf_ne_nil (c : Char) : upperOf c ≠ [] := by
  unfold upperOf mapCase
  split
  · simp
  · split
    case h_1 codes hcodes => simpa using upperExpansions_ne_nil _ (lookup_mem hcodes)
    case h_2 => split <;> simp

theorem length_le_upperChars (cs : List Char) : cs.length ≤ (upperChars cs).length := by
  induction cs with
  | nil => exact Nat.le_refl 0
  | cons c rest ih =>
      have hc : 0 < (upperOf c).length := List.length_pos_iff.mpr (upperOf_ne_nil c)
      simp only [upperChars, List.flatMap_cons, List.length_append, List.length_cons] at ih ⊢
      omega

theorem mem_upperChars {c : Char} {cs : List Char} (hc : upperOf c = [c]) (h : c ∈ cs) :
    c ∈ upperChars cs :=
  List.mem_flatMap.mpr ⟨c, h, by simp [hc]⟩

/-! ## Digits and white space -/

theorem digitZeros_apart_blankStrides :
    ∀ start ∈ digitZeros, ∀ stride ∈ blankStrides,
      stride.last < start ∨ start + 10 ≤ stride.first := by
  decide

theorem exists_digitZero {c : Char} (h : isDecimalDigit c = true) :
    ∃ start ∈ digitZeros, start ≤ c.toNat ∧ c.toNat < start + 10 := by
  unfold isDecimalDigit digitValue? at h
  split at h
  · split at h
    case isTrue hdigit =>
      refine ⟨48, by simp [digitZeros], ?_⟩
      simp only [Char.isDigit, Bool.and_eq_true, decide_eq_true_eq] at hdigit
      exact ⟨hdigit.1, Nat.lt_succ_of_le hdigit.2⟩
    case isFalse => cases h
  · rw [Option.isSome_map] at h
    obtain ⟨start, hstart⟩ := Option.isSome_iff_exists.mp h
    have hrange := List.find?_some hstart
    simp only [Bool.and_eq_true, decide_eq_true_eq] at hrange
    exact ⟨start, List.mem_of_find?_eq_some hstart, hrange⟩

theorem isBlank_of_isDecimalDigit {c : Char} (h : isDecimalDigit c = true) : isBlank c = false := by
  obtain ⟨start, hstart, hlow, hhigh⟩ := exists_digitZero h
  rw [isBlank, covers, List.any_eq_false]
  intro stride hstride hcontains
  simp only [Stride.contains, Bool.and_eq_true, decide_eq_true_eq] at hcontains
  have hapart := digitZeros_apart_blankStrides start hstart stride hstride
  omega

theorem dropEnds_eq_self {drop : Char → Bool} {cs : List Char}
    (hhead : ∀ c ∈ cs.head?, drop c = false) (hlast : ∀ c ∈ cs.getLast?, drop c = false) :
    dropEnds drop cs = cs := by
  have hdropWhile : ∀ {text : List Char}, (∀ c ∈ text.head?, drop c = false) →
      text.dropWhile drop = text := by
    intro text htext
    cases text with
    | nil => rfl
    | cons c rest => rw [List.dropWhile_cons_of_neg (by simp [htext c rfl])]
  rw [dropEnds, hdropWhile hhead, dropEnd, hdropWhile, List.reverse_reverse]
  rwa [List.head?_reverse]

end RecordLoom.Text
