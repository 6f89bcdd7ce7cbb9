import RecordLoom.Naming.Dedupe
import Mathlib.Data.Finset.Card
import Mathlib.Data.Finset.Image
import Mathlib.Data.Finset.Range

/-!
# Free names

A wanted name and its numbered forms are all different, so a small set of taken names leaves one of
them free.  Names that are chosen one after another are therefore distinct as long as they are few.
-/

namespace RecordLoom.Naming

/-! ## Numbered names -/

theorem numbered_injective (name : String) : Function.Injective (numbered name) :=
  Function.LeftInverse.injective
    (g := fun text => Nat.ofDigitChars 10 (text.toList.drop name.toList.length) 0)
    fun number => by simp [numbered]

theorem toString_toList_ne_nil (number : Nat) : (toString number).toList ≠ [] := by
  rw [Nat.toString_eq_ofList_toDigits, String.toList_ofList]
  exact Nat.toDigits_ne_nil

theorem numbered_ne (name : String) (number : Nat) : numbered name number ≠ name := by
  intro h
  have htexts := congrArg String.toList h
  rw [numbered, String.toList_append] at htexts
  exact toString_toList_ne_nil number (List.append_right_eq_self.mp htexts)

/-! ## One choice -/

variable {name : String} {taken : List String}

theorem firstFree?_eq_some {fuel number : Nat} {found : String}
    (h : firstFree? name taken fuel number = some found) :
    found ∉ taken ∧ ∃ i, number ≤ i ∧ i < number + fuel ∧ found = numbered name i := by
  induction fuel generalizing number with
  | zero => cases h
  | succ fuel ih =>
      rw [firstFree?] at h
      split at h
      case isTrue =>
        obtain ⟨hfree, i, hlow, hhigh, hname⟩ := ih h
        exact ⟨hfree, i, by omega, by omega, hname⟩
      case isFalse hfree =>
        cases h
        exact ⟨by simpa using hfree, number, Nat.le_refl _, by omega, rfl⟩

theorem firstFree?_eq_none_iff {fuel number : Nat} :
    firstFree? name taken fuel number = none ↔
      ∀ i, number ≤ i → i < number + fuel → numbered name i ∈ taken := by
  induction fuel generalizing number with
  | zero => simp only [firstFree?, true_iff]; omega
  | succ fuel ih =>
      rw [firstFree?]
      split
      case isTrue htaken =>
        rw [ih]
        constructor
        · intro h i hlow hhigh
          rcases Nat.eq_or_lt_of_le hlow with rfl | hlt
          · simpa using htaken
          · exact h i hlt (by omega)
        · exact fun h i hlow hhigh => h i (by omega) (by omega)
      case isFalse hfree =>
        simp only [reduceCtorEq, false_iff]
        intro h
        exact hfree (by simpa using h number (Nat.le_refl _) (by omega))

theorem freeName_of_not_mem (h : name ∉ taken) : freeName name taken = name := by
  rw [freeName, if_neg (by simpa using h)]

theorem freeName_eq (name : String) (taken : List String) :
    freeName name taken = name ∨ ∃ i < dedupeLimit, freeName name taken = numbered name i := by
  unfold freeName
  split
  case isTrue =>
    cases hfound : firstFree? name taken dedupeLimit 0 with
    | none => exact .inl rfl
    | some found =>
        obtain ⟨-, i, -, hi, hname⟩ := firstFree?_eq_some hfound
        exact .inr ⟨i, by omega, hname⟩
  case isFalse => exact .inl rfl

theorem freeName_mem_iff : freeName name taken ∈ taken ↔
    name ∈ taken ∧ ∀ i < dedupeLimit, numbered name i ∈ taken := by
  unfold freeName
  split
  case isTrue hname =>
    have hname : name ∈ taken := by simpa using hname
    cases hfound : firstFree? name taken dedupeLimit 0 with
    | none =>
        have hall := firstFree?_eq_none_iff.mp hfound
        simpa [hname] using fun i hi => hall i (Nat.zero_le i) (by omega)
    | some found =>
        obtain ⟨hfree, i, -, hi, rfl⟩ := firstFree?_eq_some hfound
        simp only [Option.getD_some, hfree, hname, true_and, false_iff]
        exact fun h => hfree (h i (by omega))
  case isFalse hname => simp_all

theorem freeName_not_mem (h : taken.toFinset.card ≤ dedupeLimit) : freeName name taken ∉ taken := by
  intro htaken
  obtain ⟨hname, hnumbered⟩ := freeName_mem_iff.mp htaken
  have hsubset : insert name ((Finset.range dedupeLimit).image (numbered name)) ⊆
      taken.toFinset := by
    intro x hx
    rcases Finset.mem_insert.mp hx with rfl | hx
    · exact List.mem_toFinset.mpr hname
    · obtain ⟨i, hi, rfl⟩ := Finset.mem_image.mp hx
      exact List.mem_toFinset.mpr (hnumbered i (Finset.mem_range.mp hi))
  have hnew : name ∉ (Finset.range dedupeLimit).image (numbered name) := by
    intro hmem
    obtain ⟨i, -, hi⟩ := Finset.mem_image.mp hmem
    exact numbered_ne name i hi
  have hcard := Finset.card_le_card hsubset
  rw [Finset.card_insert_of_notMem hnew,
    Finset.card_image_of_injective _ (numbered_injective name), Finset.card_range] at hcard
  omega

/-- What was chosen once is chosen again. -/
theorem freeName_freeName (name : String) (taken : List String) :
    freeName (freeName name taken) taken = freeName name taken := by
  by_cases hmem : freeName name taken ∈ taken
  · obtain ⟨hname, hnumbered⟩ := freeName_mem_iff.mp hmem
    have hnone : firstFree? name taken dedupeLimit 0 = none :=
      firstFree?_eq_none_iff.mpr fun i _ hi => hnumbered i (by omega)
    have hself : freeName name taken = name := by simp [freeName, hname, hnone]
    rw [hself, hself]
  · exact freeName_of_not_mem hmem

@[simp] theorem mem_claim {x : String} : x ∈ claim name taken ↔ x = name ∨ x ∈ taken := by
  unfold claim
  split
  case isTrue htaken =>
    have htaken : name ∈ taken := by simpa using htaken
    exact ⟨.inr, by rintro (rfl | h) <;> assumption⟩
  case isFalse => exact List.mem_cons

/-- What a choice promises about the chosen name and about the names that are taken after it. -/
structure Chooses (name : String) (taken : List String) (choice : String × List String) :
    Prop where
  wanted : choice.1 = name ∨ ∃ i < 1000, choice.1 = numbered name i
  taken_iff : choice.1 ∈ taken ↔ name ∈ taken ∧ ∀ i < 1000, numbered name i ∈ taken
  free : taken.toFinset.card ≤ 1000 → choice.1 ∉ taken
  claimed : ∀ x, x ∈ choice.2 ↔ x = choice.1 ∨ x ∈ taken

theorem dedupe_chooses (name : String) (taken : List String) :
    Chooses name taken (dedupe name taken) where
  wanted := freeName_eq name taken
  taken_iff := freeName_mem_iff
  free := freeName_not_mem
  claimed _ := mem_claim

theorem dedupe_of_not_mem (h : name ∉ taken) : dedupe name taken = (name, claim name taken) := by
  rw [dedupe, freeName_of_not_mem h]

theorem dedupe_freeName (name : String) (taken : List String) :
    dedupe (freeName name taken) taken = dedupe name taken := by
  simp only [dedupe, freeName_freeName]

theorem card_claim_le (name : String) (taken : List String) :
    (claim name taken).toFinset.card ≤ taken.toFinset.card + 1 := by
  have hclaim : (claim name taken).toFinset = insert name taken.toFinset := by
    ext x
    simp
  rw [hclaim]
  exact Finset.card_insert_le ..

/-! ## Choices in a row -/

inductive ChosenFrom : List String → List String → Prop where
  | nil (taken : List String) : ChosenFrom taken []
  | cons (wanted : String) {taken names : List String} :
      ChosenFrom (dedupe wanted taken).2 names →
      ChosenFrom taken ((dedupe wanted taken).1 :: names)

/-- Names that are chosen one after another, each the wanted one or its first free number. -/
def freeNames (taken : List String) : List String → List String
  | [] => []
  | wanted :: rest => (dedupe wanted taken).1 :: freeNames (dedupe wanted taken).2 rest

theorem chosenFrom_freeNames (taken wanted : List String) :
    ChosenFrom taken (freeNames taken wanted) := by
  induction wanted generalizing taken with
  | nil => exact .nil taken
  | cons first rest ih => exact .cons first (ih (dedupe first taken).2)

theorem ChosenFrom.cons_of_not_mem {names : List String} (h : name ∉ taken)
    (hrest : ChosenFrom (claim name taken) names) : ChosenFrom taken (name :: names) := by
  have hcons : ChosenFrom taken ((dedupe name taken).1 :: names) :=
    .cons name (by rwa [dedupe_of_not_mem h])
  rwa [dedupe_of_not_mem h] at hcons

/-- Few names in a row are distinct, and distinct from those that were taken before. -/
theorem ChosenFrom.nodup {names : List String} (h : ChosenFrom taken names)
    (hfew : taken.toFinset.card + names.length ≤ dedupeLimit + 1) :
    names.Nodup ∧ ∀ n ∈ names, n ∉ taken := by
  induction h with
  | nil => simp
  | @cons wanted taken names _ ih =>
      rw [List.length_cons] at hfew
      have hfree : freeName wanted taken ∉ taken := freeName_not_mem (by omega)
      have hcard : (dedupe wanted taken).2.toFinset.card ≤ taken.toFinset.card + 1 :=
        card_claim_le ..
      obtain ⟨hnodup, hapart⟩ := ih (by omega)
      have hapart : ∀ n ∈ names, n ≠ freeName wanted taken ∧ n ∉ taken := by
        intro n hn
        simpa [dedupe] using hapart n hn
      refine ⟨List.nodup_cons.mpr ⟨fun hmem => (hapart _ hmem).1 rfl, hnodup⟩, ?_⟩
      intro n hn
      rcases List.mem_cons.mp hn with rfl | hn
      · exact hfree
      · exact (hapart n hn).2

theorem ChosenFrom.nodup_of_length_le {names : List String} (h : ChosenFrom [] names)
    (hfew : names.length ≤ dedupeLimit + 1) : names.Nodup :=
  (h.nodup (by simpa using hfew)).1

end RecordLoom.Naming
