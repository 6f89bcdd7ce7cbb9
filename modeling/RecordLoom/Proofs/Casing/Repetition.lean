import RecordLoom.Proofs.Casing.Spelling
import Mathlib.Data.List.Chain

/-!
# Spelling a second time

Folding the runs of capitals reaches its normal form at once.  Snake case always reaches it in two
runs, and in one run unless a capital without a small form stands directly behind one that has a
small form: putting the text into lower case parts the two, and the next run sees a word start.
-/

namespace RecordLoom.Casing

open RecordLoom.Text

/-! ## Runs of capitals -/

/-- A second folding changes nothing, since the folded texts are those that folding leaves alone. -/
theorem foldUpperRuns_repeated (s : String) :
    foldUpperRuns (foldUpperRuns s) = foldUpperRuns s ∧
      (foldUpperRuns s = s ↔ Folded false s.toList) := by
  have hfolded := folded_foldUpperRuns s
  refine ⟨foldUpperRuns_of_folded hfolded, fun h => ?_, foldUpperRuns_of_folded⟩
  rwa [h] at hfolded

example : foldUpperRuns "ΑΣΑΣ_HTTPServer" = "Ασας_HttpServer" := by decide +kernel

/-! ## Words put apart -/

/-- A capital directly behind the character starts a word. -/
def endsWord (c : Char) : Bool := !isUpper c && c != '_'

theorem isUpper_of_endsWord {c : Char} (h : endsWord c = true) : isUpper c = false := by
  rw [endsWord, Bool.and_eq_true] at h
  simpa using h.1

def Separated (afterEnd : Bool) : List Char → Prop
  | [] => True
  | c :: rest => (afterEnd = true → isUpper c = false) ∧ Separated (endsWord c) rest

theorem separated_separateWords (previous : Option Char) (cs : List Char) :
    Separated (previous.any endsWord) (separateWords previous cs) := by
  induction cs generalizing previous with
  | nil => trivial
  | cons c rest ih =>
      rw [separateWords]
      split
      case isTrue => exact ⟨fun _ => by decide, fun h => absurd h (by decide), ih (some c)⟩
      case isFalse hc =>
        refine ⟨fun hafter => ?_, ih (some c)⟩
        by_contra hupper
        exact hc (Bool.and_eq_true_iff.mpr ⟨by simpa using hupper, hafter⟩)

theorem separateWords_of_separated {previous : Option Char} {cs : List Char}
    (h : Separated (previous.any endsWord) cs) : separateWords previous cs = cs := by
  induction cs generalizing previous with
  | nil => rfl
  | cons c rest ih =>
      have hc : ¬startsWord previous c = true := fun hstarts => by
        obtain ⟨hupper, hafter⟩ := Bool.and_eq_true_iff.mp hstarts
        exact absurd (hupper.symm.trans (h.1 hafter)) (by decide)
      rw [separateWords, if_neg hc, @ih (some c) h.2]

theorem separateWords_eq_self_iff (previous : Option Char) (cs : List Char) :
    separateWords previous cs = cs ↔ Separated (previous.any endsWord) cs := by
  refine ⟨fun h => ?_, separateWords_of_separated⟩
  have hcs := separated_separateWords previous cs
  rwa [h] at hcs

theorem separateWords_append {cs : List Char} (h : ∀ c ∈ cs, endsWord c = true) (previous : Char)
    (rest : List Char) :
    separateWords (some previous) (cs ++ rest) =
      cs ++ separateWords (some (cs.getLastD previous)) rest := by
  induction cs generalizing previous with
  | nil => rfl
  | cons c cs ih =>
      obtain ⟨hc, hcs⟩ := List.forall_mem_cons.mp h
      rw [List.cons_append, separateWords, if_neg (by simp [startsWord, isUpper_of_endsWord hc]),
        ih hcs, List.getLastD_cons, List.cons_append]

theorem endsWord_getLastD {cs : List Char} (h : ∀ c ∈ cs, endsWord c = true) (previous : Char) :
    endsWord (cs.getLastD previous) = (!cs.isEmpty || endsWord previous) := by
  cases cs with
  | nil => rfl
  | cons c cs =>
      rw [List.getLastD_cons]
      exact h _ List.getLastD_mem_cons

theorem mem_separateWords {previous : Option Char} {cs : List Char} {d : Char}
    (h : d ∈ separateWords previous cs) : d = '_' ∨ d ∈ cs := by
  induction cs generalizing previous with
  | nil => cases h
  | cons c rest ih =>
      have hlater (h : d ∈ c :: separateWords (some c) rest) : d = '_' ∨ d ∈ c :: rest := by
        rcases List.mem_cons.mp h with rfl | h
        · exact .inr List.mem_cons_self
        · exact (ih h).imp_right (List.mem_cons_of_mem c)
      rw [separateWords] at h
      split at h
      case isTrue =>
        rcases List.mem_cons.mp h with rfl | h
        · exact .inl rfl
        · exact hlater h
      case isFalse => exact hlater h

/-! ## Small forms of separated words -/

def StaysUpper (c : Char) : Prop := isUpper c = true ∧ lowerOf c = [c]

/-- Lower case does not part two capitals that follow each other. -/
def StayTogether (c d : Char) : Prop := isUpper c = true → StaysUpper d → lowerOf c = [c]

instance (c : Char) : Decidable (StaysUpper c) := inferInstanceAs (Decidable (_ ∧ _))

instance : DecidableRel StayTogether := fun _ _ => inferInstanceAs (Decidable (_ → _ → _))

theorem exists_lowerCharsFrom_cons (afterCased : Bool) (c : Char) (rest : List Char) :
    ∃ image after, lowerCharsFrom afterCased (c :: rest) = image ++ lowerCharsFrom after rest ∧
      (lowerOf c = [c] ∧ image = [c] ∨
        lowerOf c ≠ [c] ∧ image ≠ [] ∧ ∀ d ∈ image, endsWord d = true) := by
  refine ⟨_, _, rfl, ?_⟩
  split
  case isTrue hsigma =>
    obtain rfl : c = 'Σ' := by simp_all
    exact .inr ⟨by decide +kernel, List.cons_ne_nil _ _,
      List.forall_mem_singleton.mpr (by decide +kernel)⟩
  case isFalse =>
    by_cases hc : lowerOf c = [c]
    case pos => exact .inl ⟨hc, hc⟩
    case neg =>
      refine .inr ⟨hc, lowerOf_ne_nil c, fun d hd => ?_⟩
      have hupper : isUpper d = false := (isUpper_of_mem_lowerOf hd).resolve_left hc
      have hmark : d ≠ '_' := by
        rintro rfl
        rcases isLower_of_mem_lowerOf hd (by decide) with rfl | hsmall
        · exact hc (by decide)
        · exact absurd hsmall (by decide)
      simp [endsWord, hupper, hmark]

theorem separated_append_iff {afterEnd : Bool} {cs rest : List Char} (hne : cs ≠ [])
    (hcs : ∀ c ∈ cs, endsWord c = true) :
    Separated afterEnd (cs ++ rest) ↔ Separated true rest := by
  induction cs generalizing afterEnd with
  | nil => exact absurd rfl hne
  | cons c cs ih =>
      obtain ⟨hc, hcs⟩ := List.forall_mem_cons.mp hcs
      rw [List.cons_append, Separated, hc, and_iff_right fun _ => isUpper_of_endsWord hc]
      cases cs with
      | nil => rfl
      | cons d cs => exact ih (List.cons_ne_nil d cs) hcs

theorem separated_lowerCharsFrom_iff {before : Bool} {cs : List Char} (h : Separated before cs)
    (afterEnd afterCased : Bool) :
    Separated afterEnd (lowerCharsFrom afterCased cs) ↔
      (afterEnd = true → ∀ c ∈ cs.head?, ¬StaysUpper c) ∧ cs.IsChain StayTogether := by
  induction cs generalizing before afterEnd afterCased with
  | nil => simp [lowerCharsFrom, Separated]
  | cons c rest ih =>
      obtain ⟨image, after, hlower, himage⟩ := exists_lowerCharsFrom_cons afterCased c rest
      have hnext (hc : endsWord c = true) : ∀ d ∈ rest.head?, ¬StaysUpper d := by
        rintro d hd ⟨hupper, -⟩
        obtain ⟨more, rfl⟩ := List.head?_eq_some_iff.mp hd
        exact absurd (hupper.symm.trans (h.2.1 hc)) (by decide)
      rw [hlower, List.isChain_cons]
      rcases himage with ⟨hc, rfl⟩ | ⟨hc, hne, himage⟩
      -- A character that stays ends a word afterwards exactly if it did before.
      · have hpair : ∀ d ∈ rest.head?, StayTogether c d := fun _ _ _ _ => hc
        rw [List.singleton_append, Separated, ih h.2, and_iff_right hnext, and_iff_right hpair]
        simp [StaysUpper, hc]
      -- What a character becomes ends a word, so that a capital that stays would start one.
      · have hfirst : ¬StaysUpper c := fun hstays => hc hstays.2
        have hpair : (∀ d ∈ rest.head?, ¬StaysUpper d) ↔ ∀ d ∈ rest.head?, StayTogether c d := by
          refine ⟨fun hrest d hd _ hstays => absurd hstays (hrest d hd), fun hrest d hd hstays => ?_⟩
          by_cases hupper : isUpper c = true
          case pos => exact hc (hrest d hd hupper hstays)
          case neg =>
            have hmark : c ≠ '_' := by
              rintro rfl
              exact hc (by decide)
            exact hnext (by simp [endsWord, hmark, hupper]) d hd hstays
        rw [separated_append_iff hne himage, ih h.2, ← hpair]
        simp [hfirst]

/-- An underscore goes only between characters that stay together. -/
theorem isChain_separateWords_iff (previous : Option Char) (cs : List Char) :
    (separateWords previous cs).IsChain StayTogether ↔ cs.IsChain StayTogether := by
  induction cs generalizing previous with
  | nil => rfl
  | cons c rest ih =>
      have hmark (d : Char) : StayTogether '_' d := fun hupper => absurd hupper (by decide)
      have hhead : (∀ d ∈ (separateWords (some c) rest).head?, StayTogether c d) ↔
          ∀ d ∈ rest.head?, StayTogether c d := by
        cases rest with
        | nil => rfl
        | cons d rest =>
            rw [separateWords]
            split
            case isTrue hstarts =>
              have hc : isUpper c = false := by simp_all [startsWord]
              simp [StayTogether, hc]
            case isFalse => rfl
      have hrest : (c :: separateWords (some c) rest).IsChain StayTogether ↔
          (c :: rest).IsChain StayTogether := by
        rw [List.isChain_cons, List.isChain_cons, hhead, ih]
      rw [separateWords]
      split
      case isTrue => rw [List.isChain_cons_cons, hrest, and_iff_right (hmark c)]
      case isFalse => exact hrest

/-! ## Snake case -/

theorem snakeChars_false (cs : List Char) : snakeChars false cs = separateWords none cs := rfl

theorem snakeChars_true (cs : List Char) :
    snakeChars true cs = lowerChars (separateWords none cs) := rfl

/-- In lower case, a second run only puts more underscores in. -/
theorem snakeChars_lowered {cs : List Char} (h : ∀ c ∈ cs, lowerOf c = [c]) :
    snakeChars true cs = separateWords none cs := by
  refine lowerCharsFrom_eq_self fun d hd => ?_
  rcases mem_separateWords hd with rfl | hd
  · decide
  · exact h d hd

theorem snakeChars_repeated_iff (cs : List Char) :
    snakeChars true (snakeChars true cs) = snakeChars true cs ↔ cs.IsChain StayTogether := by
  have hlowered : ∀ c ∈ snakeChars true cs, lowerOf c = [c] :=
    fun _ => lowerOf_of_mem_lowerCharsFrom
  rw [snakeChars_lowered hlowered, separateWords_eq_self_iff, snakeChars_true, lowerChars,
    separated_lowerCharsFrom_iff (separated_separateWords none cs), isChain_separateWords_iff]
  simp

theorem snakeChars_settled (cs : List Char) :
    snakeChars true (snakeChars true (snakeChars true cs)) =
      snakeChars true (snakeChars true cs) := by
  have hlowered (cs : List Char) : ∀ c ∈ snakeChars true cs, lowerOf c = [c] :=
    fun _ => lowerOf_of_mem_lowerCharsFrom
  rw [snakeChars_lowered (hlowered (snakeChars true cs)), snakeChars_lowered (hlowered cs)]
  exact separateWords_of_separated (separated_separateWords none _)

/-- A second run of snake case changes nothing if the case is kept or no two capitals are parted,
and otherwise it does.  A third run never changes anything. -/
theorem snakeCase_repeated (s : String) (lowercase : Bool) :
    (snakeCase (snakeCase s lowercase) lowercase = snakeCase s lowercase ↔
        (lowercase = true → s.toList.IsChain StayTogether)) ∧
      snakeCase (snakeCase (snakeCase s lowercase) lowercase) lowercase =
        snakeCase (snakeCase s lowercase) lowercase := by
  simp only [snakeCase, String.toList_ofList, String.ofList_inj]
  cases lowercase with
  | false =>
      have hkept : separateWords none (separateWords none s.toList) = separateWords none s.toList :=
        separateWords_of_separated (separated_separateWords none _)
      simp [snakeChars_false, hkept]
  | true => exact ⟨by simpa using snakeChars_repeated_iff s.toList, snakeChars_settled s.toList⟩

/-- The bold capital has no small form. -/
example : snakeCase "A𝐀" = "a𝐀" ∧ snakeCase "a𝐀" = "a_𝐀" := by decide +kernel

end RecordLoom.Casing
