import RecordLoom.Proofs.Casing.JoinedWords

/-!
# Settled spellings

Each spelling has a normal form: what it returns is in normal form, and what is in normal form it
returns as it is.  The other spellings keep these forms, and so do digits after a name.
-/

namespace RecordLoom.Casing

open RecordLoom.Text

/-! ## Lower case -/

theorem mem_lowerCharsFrom {afterCased : Bool} {cs : List Char} {d : Char}
    (h : d ∈ lowerCharsFrom afterCased cs) : d = 'ς' ∧ 'Σ' ∈ cs ∨ ∃ c ∈ cs, d ∈ lowerOf c := by
  induction cs generalizing afterCased with
  | nil => cases h
  | cons c rest ih =>
      rw [lowerCharsFrom] at h
      rcases List.mem_append.mp h with h | h
      · split at h
        case isTrue hsigma =>
          have hc : c = 'Σ' := by simp_all
          exact .inl ⟨List.mem_singleton.mp h, hc ▸ List.mem_cons_self⟩
        case isFalse => exact .inr ⟨c, List.mem_cons_self, h⟩
      · rcases ih h with ⟨hd, hsigma⟩ | ⟨e, he, hd⟩
        · exact .inl ⟨hd, List.mem_cons_of_mem _ hsigma⟩
        · exact .inr ⟨e, List.mem_cons_of_mem _ he, hd⟩

theorem lowerOf_of_mem_lowerCharsFrom {afterCased : Bool} {cs : List Char} {d : Char}
    (h : d ∈ lowerCharsFrom afterCased cs) : lowerOf d = [d] := by
  rcases mem_lowerCharsFrom h with ⟨rfl, -⟩ | ⟨c, -, hd⟩
  · exact sigma_forms.2
  · exact lowerOf_of_mem_lowerOf hd

theorem lowerCharsFrom_eq_self {afterCased : Bool} {cs : List Char}
    (h : ∀ c ∈ cs, lowerOf c = [c]) : lowerCharsFrom afterCased cs = cs := by
  induction cs generalizing afterCased with
  | nil => rfl
  | cons c rest ih =>
      have hc := h c List.mem_cons_self
      have hsigma : c ≠ 'Σ' := by
        rintro rfl
        exact absurd hc (by rw [sigma_forms.1]; decide)
      rw [lowerCharsFrom, ih fun d hd => h d (List.mem_cons_of_mem _ hd)]
      simp [hsigma, hc]

/-! ## First characters -/

theorem upperFirstChars_cons (c : Char) (rest : List Char) :
    upperFirstChars (c :: rest) = upperOf c ++ rest := by
  simp [upperFirstChars, upperChars]

theorem lowerFirstChars_cons (c : Char) (rest : List Char) :
    lowerFirstChars (c :: rest) = lowerOf c ++ rest := by
  simp [lowerFirstChars, lowerChars, lowerCharsFrom]

def Raised (cs : List Char) : Prop := ∀ c ∈ cs.head?, upperOf c = [c]

def Lowered (cs : List Char) : Prop := ∀ c ∈ cs.head?, lowerOf c = [c]

theorem upperFirstChars_of_raised {cs : List Char} (h : Raised cs) : upperFirstChars cs = cs := by
  cases cs with
  | nil => rfl
  | cons c rest => rw [upperFirstChars_cons, h c rfl, List.singleton_append]

theorem lowerFirstChars_of_lowered {cs : List Char} (h : Lowered cs) : lowerFirstChars cs = cs := by
  cases cs with
  | nil => rfl
  | cons c rest => rw [lowerFirstChars_cons, h c rfl, List.singleton_append]

theorem upperOf_head_upperOf {c d : Char} (h : (upperOf c).head? = some d) : upperOf d = [d] := by
  rcases upperOf_cases c with hc | ⟨e, rest, hc, he⟩
  · obtain rfl : c = d := by simpa [hc] using h
    exact hc
  · obtain rfl : e = d := by simpa [hc] using h
    exact he.raised

theorem raised_upperFirstChars (cs : List Char) : Raised (upperFirstChars cs) := by
  cases cs with
  | nil => rintro c ⟨⟩
  | cons c rest =>
      intro d hd
      rw [upperFirstChars_cons, List.head?_append_of_ne_nil _ (upperOf_ne_nil c)] at hd
      exact upperOf_head_upperOf hd

theorem lowerOf_ne_nil (c : Char) : lowerOf c ≠ [] := by
  rcases lowerOf_cases c with hc | hc | ⟨d, hc, -⟩ <;> simp [hc]

theorem head?_lowerFirstChars {cs : List Char} {d : Char}
    (h : (lowerFirstChars cs).head? = some d) : ∃ c ∈ cs.head?, d ∈ lowerOf c := by
  cases cs with
  | nil => cases h
  | cons c rest =>
      rw [lowerFirstChars_cons, List.head?_append_of_ne_nil _ (lowerOf_ne_nil c)] at h
      exact ⟨c, rfl, List.mem_of_mem_head? h⟩

theorem lowered_lowerFirstChars (cs : List Char) : Lowered (lowerFirstChars cs) := by
  intro d hd
  obtain ⟨c, -, hmem⟩ := head?_lowerFirstChars hd
  exact lowerOf_of_mem_lowerOf hmem

theorem head?_upperFirstChars_ne {cs : List Char} (h : ' ' ∉ cs.head?) :
    ' ' ∉ (upperFirstChars cs).head? := by
  cases cs with
  | nil => exact h
  | cons c rest =>
      rw [upperFirstChars_cons, List.head?_append_of_ne_nil _ (upperOf_ne_nil c)]
      rcases upperOf_cases c with hc | ⟨d, ds, hc, hd⟩
      · rwa [hc]
      · rw [hc]
        rintro ⟨⟩
        exact absurd (hd.ascii (by decide)) (by decide)

theorem head?_lowerFirstChars_ne {cs : List Char} (h : ' ' ∉ cs.head?) :
    ' ' ∉ (lowerFirstChars cs).head? := by
  intro hblank
  obtain ⟨c, hc, hmem⟩ := head?_lowerFirstChars hblank
  rcases isLower_of_mem_lowerOf hmem (by decide) with rfl | hsmall
  · exact h hc
  · exact absurd hsmall (by decide)

theorem Raised.append {cs more : List Char} (h : Raised cs)
    (hmore : ∀ c ∈ more, upperOf c = [c]) : Raised (cs ++ more) := by
  cases cs with
  | nil => exact fun c hc => hmore c (List.mem_of_mem_head? hc)
  | cons c rest => exact h

theorem Lowered.append {cs more : List Char} (h : Lowered cs)
    (hmore : ∀ c ∈ more, lowerOf c = [c]) : Lowered (cs ++ more) := by
  cases cs with
  | nil => exact fun c hc => hmore c (List.mem_of_mem_head? hc)
  | cons c rest => exact h

/-! ## Identifiers -/

/-- A name that may stand in a program. -/
structure IsIdentifier (cs : List Char) : Prop where
  chars : ∀ c ∈ cs, isIdentifierChar c = true
  first : ∃ c rest, cs = c :: rest ∧ (isLetter c || c = '_') = true

theorem identifierChars_isIdentifier (cs : List Char) : IsIdentifier (identifierChars cs) := by
  unfold identifierChars
  cases hkept : cs.filter isIdentifierChar with
  | nil => exact ⟨List.all_eq_true.mp (by decide), 'N', "oName".toList, rfl, by decide⟩
  | cons c rest =>
      have hchars : ∀ d ∈ c :: rest, isIdentifierChar d = true := by
        rw [← hkept]
        exact fun d hd => (List.mem_filter.mp hd).2
      dsimp only
      split
      case isTrue hfirst => exact ⟨hchars, c, rest, rfl, hfirst⟩
      case isFalse =>
        refine ⟨?_, '_', c :: rest, rfl, by decide⟩
        intro d hd
        rcases List.mem_cons.mp hd with rfl | hd
        · decide
        · exact hchars d hd

theorem identifierChars_of_isIdentifier {cs : List Char} (h : IsIdentifier cs) :
    identifierChars cs = cs := by
  obtain ⟨c, rest, rfl, hfirst⟩ := h.first
  rw [identifierChars, List.filter_eq_self.mpr h.chars]
  exact if_pos hfirst

theorem IsIdentifier.ne {cs : List Char} (h : IsIdentifier cs) {c : Char} (hc : c ∈ cs) :
    c ≠ ' ' ∧ c ≠ '.' := by
  have hchar := h.chars c hc
  constructor <;> rintro rfl <;> exact absurd hchar (by decide)

theorem joined_identifierChars {cs : List Char} (h : Joined cs) : Joined (identifierChars cs) := by
  have hkept := h.filter isIdentifierChar
  unfold identifierChars
  split
  case h_1 => exact joined_of_not_separator (List.forall_iff_forall_mem.mp (by decide))
  case h_2 c rest hcs =>
    rw [hcs] at hkept
    split
    case isTrue => exact hkept
    case isFalse =>
      obtain ⟨marks, words, hsplit, hmarks, hwords⟩ := hkept
      exact ⟨'_' :: marks, words, by rw [hsplit]; rfl, by simpa using hmarks, hwords⟩

/-! ## Runs of capitals -/

def smallNext (cs : List Char) : Bool := cs.head?.any fun c => !isUpper c && isLower c

/-- A capital after a capital has no small form, or a small letter claims it. -/
inductive Folded : Bool → List Char → Prop where
  | nil {afterUpper : Bool} : Folded afterUpper []
  | cons {afterUpper : Bool} {c : Char} {rest : List Char} :
      (afterUpper = true → isUpper c = true → lowerOf c = [c] ∨ smallNext rest = true) →
      Folded (isUpper c) rest → Folded afterUpper (c :: rest)

namespace Folded

theorem head {afterUpper : Bool} {c : Char} {rest : List Char} (h : Folded afterUpper (c :: rest))
    (hafter : afterUpper = true) (hupper : isUpper c = true) :
    lowerOf c = [c] ∨ smallNext rest = true := by
  cases h with
  | cons hc _ => exact hc hafter hupper

theorem tail {afterUpper : Bool} {c : Char} {rest : List Char} (h : Folded afterUpper (c :: rest)) :
    Folded (isUpper c) rest := by
  cases h with
  | cons _ hrest => exact hrest

theorem of_after {cs : List Char} (h : Folded true cs) (afterUpper : Bool) :
    Folded afterUpper cs := by
  cases h with
  | nil => exact .nil
  | cons hc hrest => exact .cons (fun _ => hc rfl) hrest

theorem of_tail {c : Char} {rest : List Char} (h : Folded (isUpper c) rest) :
    Folded false (c :: rest) :=
  .cons nofun h

theorem of_any {afterUpper : Bool} {cs : List Char} (h : Folded afterUpper cs) :
    Folded false cs := by
  cases h with
  | nil => exact .nil
  | cons _ hrest => exact of_tail hrest

end Folded

theorem folded_cons_of_not_upper {c : Char} {rest : List Char} (hc : isUpper c = false)
    (h : Folded false rest) (afterUpper : Bool) : Folded afterUpper (c :: rest) :=
  .cons (fun _ hupper => by simp [hc] at hupper) (by rwa [hc])

theorem folded_append_of_small {cs rest : List Char} (hcs : ∀ c ∈ cs, lowerOf c = [c])
    (h : Folded true rest) (afterUpper : Bool) : Folded afterUpper (cs ++ rest) := by
  induction cs generalizing afterUpper with
  | nil => exact h.of_after afterUpper
  | cons c cs ih =>
      exact .cons (fun _ _ => .inl (hcs c List.mem_cons_self))
        (ih (fun d hd => hcs d (List.mem_cons_of_mem _ hd)) (isUpper c))

/-! A folded text is made of folded runs. -/

theorem folded_foldRun_append {beforeLower : Bool} {run rest : List Char}
    (hsmall : beforeLower = true → smallNext rest = true) (h : Folded true rest) :
    Folded false (foldRun beforeLower run ++ rest) := by
  have hlowered : ∀ cs : List Char, ∀ c ∈ lowerChars cs, lowerOf c = [c] :=
    fun _ _ => lowerOf_of_mem_lowerCharsFrom
  cases run with
  | nil => exact h.of_after false
  | cons first more =>
      rw [foldRun]
      split
      case h_1 last hlast =>
        split
        case isTrue hbefore =>
          have hclaimed : Folded true (last :: rest) :=
            .cons (fun _ _ => .inr (hsmall hbefore)) (h.of_after _)
          have hmore := folded_append_of_small (hlowered more.dropLast) hclaimed (isUpper first)
          exact .of_tail (by simpa using hmore)
        case isFalse => exact .of_tail (folded_append_of_small (hlowered _) h _)
      case h_2 => exact .of_tail (h.of_after _)

theorem folded_foldRuns (run cs : List Char) : Folded false (foldRuns run cs) := by
  induction cs generalizing run with
  | nil =>
      rw [foldRuns, ← List.append_nil (foldRun false run.reverse)]
      exact folded_foldRun_append nofun .nil
  | cons c rest ih =>
      rw [foldRuns]
      split
      case isTrue => exact ih _
      case isFalse hc =>
        have hc : isUpper c = false := by simpa using hc
        refine folded_foldRun_append (fun hlower => by simp [smallNext, hc, hlower]) ?_
        exact folded_cons_of_not_upper hc (ih []) true

theorem Folded.right {afterUpper : Bool} {cs rest : List Char}
    (h : Folded afterUpper (cs ++ rest)) : Folded false rest := by
  induction cs generalizing afterUpper with
  | nil => exact h.of_any
  | cons c cs ih => exact ih h.tail

theorem Folded.small_of_run {run rest : List Char} (h : Folded true (run ++ rest))
    (hrun : ∀ c ∈ run, isUpper c = true) :
    (∀ c ∈ run.dropLast, lowerOf c = [c]) ∧
      ∀ c ∈ run.getLast?, lowerOf c = [c] ∨ smallNext rest = true := by
  induction run with
  | nil => simp
  | cons c run ih =>
      have hupper : isUpper c = true := hrun c List.mem_cons_self
      have hc := h.head rfl hupper
      have hrest := h.tail
      have hrun : ∀ d ∈ run, isUpper d = true := fun d hd => hrun d (List.mem_cons_of_mem _ hd)
      rw [hupper] at hrest
      obtain ⟨hinit, hlast⟩ := ih hrest hrun
      cases run with
      | nil => simpa using hc
      | cons d run =>
          have hnext : smallNext (d :: run ++ rest) = false := by
            simp [smallNext, hrun d List.mem_cons_self]
          have hsmall : lowerOf c = [c] := hc.resolve_right (Bool.eq_false_iff.mp hnext)
          rw [List.dropLast_cons_cons, List.getLast?_cons_cons]
          exact ⟨List.forall_mem_cons.mpr ⟨hsmall, hinit⟩, hlast⟩

theorem foldRun_eq_self {beforeLower : Bool} {run rest : List Char}
    (hrun : ∀ c ∈ run, isUpper c = true) (h : Folded false (run ++ rest))
    (hnext : smallNext rest = true → beforeLower = true) : foldRun beforeLower run = run := by
  cases run with
  | nil => rfl
  | cons first more =>
      have hmore : Folded true (more ++ rest) := by
        have htail := h.tail
        rwa [hrun first List.mem_cons_self] at htail
      obtain ⟨hinit, hlast⟩ := hmore.small_of_run fun c hc => hrun c (List.mem_cons_of_mem _ hc)
      rw [foldRun]
      split
      case h_2 hnone => rw [List.getLast?_eq_none_iff.mp hnone]
      case h_1 last hsome =>
        obtain ⟨init, rfl⟩ := List.getLast?_eq_some_iff.mp hsome
        rw [List.dropLast_concat] at hinit ⊢
        split
        case isTrue => rw [lowerChars, lowerCharsFrom_eq_self hinit]
        case isFalse hbefore =>
          have hsmall : lowerOf last = [last] :=
            (hlast last hsome).resolve_right fun h => hbefore (hnext h)
          rw [lowerChars, lowerCharsFrom_eq_self]
          intro c hc
          rcases List.mem_append.mp hc with hc | hc
          · exact hinit c hc
          · rw [List.mem_singleton.mp hc, hsmall]

theorem foldRuns_eq_append {run cs : List Char} (hrun : ∀ c ∈ run, isUpper c = true)
    (h : Folded false (run ++ cs)) : foldRuns run.reverse cs = run ++ cs := by
  induction cs generalizing run with
  | nil =>
      rw [foldRuns, List.reverse_reverse, foldRun_eq_self hrun h (by simp [smallNext]),
        List.append_nil]
  | cons c rest ih =>
      rw [foldRuns]
      split
      case isTrue hc =>
        have hlonger : ∀ d ∈ run ++ [c], isUpper d = true := by
          simpa [or_imp, forall_and, hc] using hrun
        have hsame : run ++ [c] ++ rest = run ++ c :: rest := by simp
        have hnext := ih hlonger (by rwa [hsame])
        rwa [List.reverse_append, hsame] at hnext
      case isFalse hc =>
        have hfold : foldRun (isLower c) run = run :=
          foldRun_eq_self hrun h fun hsmall => by
            simp only [smallNext, List.head?_cons, Option.any_some, Bool.and_eq_true] at hsmall
            exact hsmall.2
        have hrest : foldRuns [] rest = rest := ih (List.forall_mem_nil _) h.right.tail.of_any
        rw [List.reverse_reverse, hfold, hrest]

theorem foldRuns_of_folded {cs : List Char} (h : Folded false cs) : foldRuns [] cs = cs :=
  foldRuns_eq_append (List.forall_mem_nil _) h

theorem folded_append_of_not_upper {cs rest : List Char} (hcs : ∀ c ∈ cs, isUpper c = false)
    (h : Folded false rest) : Folded false (cs ++ rest) := by
  induction cs with
  | nil => exact h
  | cons c cs ih =>
      have hrest := ih fun d hd => hcs d (List.mem_cons_of_mem _ hd)
      exact folded_cons_of_not_upper (hcs c List.mem_cons_self) hrest false

theorem Folded.lowerFirstChars {cs : List Char} (h : Folded false cs) :
    Folded false (lowerFirstChars cs) := by
  cases cs with
  | nil => exact .nil
  | cons c rest =>
      rw [lowerFirstChars_cons]
      by_cases hc : lowerOf c = [c]
      case pos => rwa [hc]
      case neg =>
        exact folded_append_of_not_upper
          (fun d hd => (isUpper_of_mem_lowerOf hd).resolve_left hc) h.tail.of_any

theorem Folded.append {afterUpper : Bool} {cs more : List Char} (h : Folded afterUpper cs)
    (hmore : ∀ c ∈ more, isUpper c = false) : Folded afterUpper (cs ++ more) := by
  induction cs generalizing afterUpper with
  | nil =>
      cases more with
      | nil => exact .nil
      | cons c more =>
          have hrest : Folded false (more ++ []) :=
            folded_append_of_not_upper (fun d hd => hmore d (List.mem_cons_of_mem _ hd)) .nil
          rw [List.append_nil] at hrest
          exact folded_cons_of_not_upper (hmore c List.mem_cons_self) hrest afterUpper
  | cons c rest ih =>
      refine .cons (fun hafter hupper => ?_) (ih h.tail)
      rcases h.head hafter hupper with hsmall | hnext
      · exact .inl hsmall
      · cases rest with
        | nil => cases hnext
        | cons d rest => exact .inr hnext

theorem head?_foldRun_append (beforeLower : Bool) (run rest : List Char) :
    (foldRun beforeLower run ++ rest).head? = (run ++ rest).head? := by
  cases run with
  | nil => rfl
  | cons first more =>
      rw [foldRun]
      split
      · split <;> rfl
      · rfl

theorem head?_foldRuns (run cs : List Char) :
    (foldRuns run cs).head? = (run.reverse ++ cs).head? := by
  induction cs generalizing run with
  | nil =>
      rw [foldRuns, ← head?_foldRun_append false run.reverse [], List.append_nil]
  | cons c rest ih =>
      rw [foldRuns]
      split
      case isTrue => simp [ih]
      case isFalse => rw [head?_foldRun_append]; simp

theorem isSeparator_of_mem_lowerOf {c d : Char} (hc : isSeparator c = false) (h : d ∈ lowerOf c) :
    isSeparator d = false := by
  by_contra hd
  rw [Bool.not_eq_false, isSeparator, Bool.or_eq_true, decide_eq_true_eq, decide_eq_true_eq] at hd
  have hascii : d.toNat < 128 ∧ d.isLower = false := by rcases hd with rfl | rfl <;> decide
  rcases isLower_of_mem_lowerOf h hascii.1 with rfl | hsmall
  · rcases hd with rfl | rfl <;> exact absurd hc (by decide)
  · exact absurd hsmall (by simp [hascii.2])

section

variable {P : Char → Prop} (hlower : ∀ c, P c → ∀ d ∈ lowerOf c, P d) (hsigma : P 'Σ' → P 'ς')

include hlower hsigma

theorem forall_mem_lowerCharsFrom {cs : List Char} (hcs : ∀ c ∈ cs, P c) (afterCased : Bool) :
    ∀ d ∈ lowerCharsFrom afterCased cs, P d := by
  intro d h
  rcases mem_lowerCharsFrom h with ⟨rfl, hmem⟩ | ⟨c, hc, hd⟩
  · exact hsigma (hcs _ hmem)
  · exact hlower c (hcs c hc) d hd

theorem forall_mem_foldRun {run : List Char} (hrun : ∀ c ∈ run, P c) (beforeLower : Bool) :
    ∀ d ∈ foldRun beforeLower run, P d := by
  cases run with
  | nil => exact List.forall_mem_nil _
  | cons first more =>
      obtain ⟨hfirst, hmore⟩ := List.forall_mem_cons.mp hrun
      rw [foldRun]
      split
      case h_2 => exact List.forall_mem_singleton.mpr hfirst
      case h_1 last hlast =>
        split
        case isTrue =>
          have hinit : ∀ c ∈ more.dropLast, P c :=
            fun c hc => hmore c ((List.dropLast_sublist more).mem hc)
          refine List.forall_mem_cons.mpr ⟨hfirst, List.forall_mem_append.mpr ⟨?_, ?_⟩⟩
          · exact forall_mem_lowerCharsFrom hlower hsigma hinit false
          · exact List.forall_mem_singleton.mpr (hmore last (List.mem_of_getLast? hlast))
        case isFalse =>
          exact List.forall_mem_cons.mpr
            ⟨hfirst, forall_mem_lowerCharsFrom hlower hsigma hmore false⟩

theorem forall_mem_foldRuns {run cs : List Char} (hrun : ∀ c ∈ run, P c) (hcs : ∀ c ∈ cs, P c) :
    ∀ d ∈ foldRuns run cs, P d := by
  induction cs generalizing run with
  | nil =>
      have hreverse : ∀ c ∈ run.reverse, P c := fun c hc => hrun c (List.mem_reverse.mp hc)
      exact forall_mem_foldRun hlower hsigma hreverse false
  | cons c rest ih =>
      obtain ⟨hc, hrest⟩ := List.forall_mem_cons.mp hcs
      rw [foldRuns]
      split
      case isTrue => exact ih (List.forall_mem_cons.mpr ⟨hc, hrun⟩) hrest
      case isFalse =>
        have hreverse : ∀ c ∈ run.reverse, P c := fun c hc => hrun c (List.mem_reverse.mp hc)
        refine List.forall_mem_append.mpr ⟨?_, List.forall_mem_cons.mpr ⟨hc, ?_⟩⟩
        · exact forall_mem_foldRun hlower hsigma hreverse (isLower c)
        · exact ih (List.forall_mem_nil _) hrest

end

theorem foldRuns_marks {marks : List Char} (hmarks : ∀ c ∈ marks, c = '_') (words : List Char) :
    foldRuns [] (marks ++ words) = marks ++ foldRuns [] words := by
  induction marks with
  | nil => rfl
  | cons c marks ih =>
      obtain ⟨rfl, hrest⟩ := List.forall_mem_cons.mp hmarks
      rw [List.cons_append, foldRuns, if_neg (by decide), ih hrest]
      rfl

theorem joined_foldRuns {cs : List Char} (h : Joined cs) : Joined (foldRuns [] cs) := by
  obtain ⟨marks, words, rfl, hmarks, hwords⟩ := h
  refine ⟨marks, _, foldRuns_marks hmarks words, hmarks, ?_⟩
  exact forall_mem_foldRuns (P := fun c => isSeparator c = false)
    (fun _ hc _ => isSeparator_of_mem_lowerOf hc) (by decide) (List.forall_mem_nil _) hwords

/-! ## Whole texts -/

theorem upperFirst_of_raised {s : String} (h : Raised s.toList) : upperFirst s = s := by
  rw [upperFirst, upperFirstChars_of_raised h, String.ofList_toList]

theorem lowerFirst_of_lowered {s : String} (h : Lowered s.toList) : lowerFirst s = s := by
  rw [lowerFirst, lowerFirstChars_of_lowered h, String.ofList_toList]

theorem folded_foldUpperRuns (s : String) : Folded false (foldUpperRuns s).toList := by
  rw [foldUpperRuns, String.toList_ofList]
  exact folded_foldRuns [] s.toList

theorem foldUpperRuns_of_folded {s : String} (h : Folded false s.toList) : foldUpperRuns s = s := by
  rw [foldUpperRuns, foldRuns_of_folded h, String.ofList_toList]

theorem camelCase_of_joined {s : String} (h : Joined s.toList) : camelCase s = s := by
  rw [camelCase, camelChars_of_joined h, String.ofList_toList]

theorem toIdentifier_isIdentifier (s : String) : IsIdentifier (toIdentifier s).toList := by
  rw [toIdentifier, String.toList_ofList]
  exact identifierChars_isIdentifier s.toList

theorem toIdentifier_of_isIdentifier {s : String} (h : IsIdentifier s.toList) :
    toIdentifier s = s := by
  rw [toIdentifier, identifierChars_of_isIdentifier h, String.ofList_toList]

end RecordLoom.Casing
