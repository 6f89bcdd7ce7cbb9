import RecordLoom.Inflection
import RecordLoom.Proofs.Casing.Spelling
import Mathlib.Data.List.Forall2

/-!
# The singular of a singular

A word that the rules have put into the singular is left alone by them, but for two kinds of words:
an ending may fall off an irregular plural, and the three plurals on -a that stand before the words
which are kept are not told from a singular.
-/

namespace RecordLoom.Inflection

open RecordLoom.Casing
open RecordLoom.Text

/-! ## Words in lower case -/

abbrev Spells (cs word : List Char) : Prop := List.Forall₂ (fun c d => lowerOf c = [d]) cs word

theorem image_eq_singleton {image : List Char} {c d : Char}
    (himage : image = ['ς'] ∨ image = lowerOf c) (hlast : d ∈ image.getLast?)
    (hascii : d.toNat < 128) : image = [d] ∧ lowerOf c = [d] := by
  rcases himage with rfl | rfl
  · obtain rfl : 'ς' = d := by simpa using hlast
    exact absurd hascii (by decide)
  · have hc := lowerOf_of_getLast? hlast hascii
    exact ⟨hc, hc⟩

theorem lowerCharsFrom_cons (afterCased : Bool) (c : Char) (rest : List Char) :
    ∃ image after, lowerCharsFrom afterCased (c :: rest) = image ++ lowerCharsFrom after rest ∧
      (image = ['ς'] ∨ image = lowerOf c) ∧ (c ≠ 'Σ' → image = lowerOf c) := by
  refine ⟨_, _, rfl, ?_, ?_⟩
  · split <;> simp
  · intro hc
    simp [hc]

theorem spells_of_lowerCharsFrom {cs word : List Char} (hascii : ∀ d ∈ word, d.toNat < 128)
    {afterCased : Bool} (h : lowerCharsFrom afterCased cs = word) : Spells cs word := by
  induction cs generalizing afterCased word with
  | nil =>
      obtain rfl : [] = word := h
      exact .nil
  | cons c rest ih =>
      obtain ⟨image, after, hcons, himage, -⟩ := lowerCharsFrom_cons afterCased c rest
      rw [hcons] at h
      subst h
      have hne : image ≠ [] := by
        rcases himage with rfl | rfl
        · exact List.cons_ne_nil _ _
        · exact lowerOf_ne_nil c
      have hmem : image.getLast hne ∈ image := List.getLast_mem hne
      obtain ⟨hsingle, hc⟩ := image_eq_singleton himage (List.getLast?_eq_some_getLast hne)
        (hascii _ (List.mem_append_left _ hmem))
      rw [hsingle]
      exact .cons hc (ih (fun d hd => hascii d (List.mem_append_right _ hd)) rfl)

theorem Spells.lowerCharsFrom {cs word : List Char} (hascii : ∀ d ∈ word, d.toNat < 128)
    (h : Spells cs word) (afterCased : Bool) : lowerCharsFrom afterCased cs = word := by
  induction h generalizing afterCased with
  | nil => rfl
  | @cons c d rest word hc _ ih =>
      obtain ⟨image, after, hcons, -, himage⟩ := lowerCharsFrom_cons afterCased c rest
      have hsigma : c ≠ 'Σ' := by
        rintro rfl
        obtain rfl : 'σ' = d := by simpa [sigma_forms.1] using hc
        exact absurd (hascii 'σ' List.mem_cons_self) (by decide)
      rw [hcons, himage hsigma, hc, ih fun e he => hascii e (List.mem_cons_of_mem _ he)]
      rfl

theorem lowerCharsFrom_suffix (afterCased : Bool) (before cs : List Char) :
    ∃ after, lowerCharsFrom after cs <:+ lowerCharsFrom afterCased (before ++ cs) := by
  induction before generalizing afterCased with
  | nil => exact ⟨afterCased, List.suffix_rfl⟩
  | cons c before ih =>
      obtain ⟨image, next, hcons, -⟩ := lowerCharsFrom_cons afterCased c (before ++ cs)
      obtain ⟨after, hsuffix⟩ := ih next
      exact ⟨after, by rw [List.cons_append, hcons]; exact hsuffix.trans (List.suffix_append _ _)⟩

theorem suffix_lowerCharsFrom_iff {cs word : List Char} (hascii : ∀ d ∈ word, d.toNat < 128)
    {afterCased : Bool} :
    word <:+ lowerCharsFrom afterCased cs ↔ ∃ before spelled, cs = before ++ spelled ∧
      Spells spelled word := by
  constructor
  · intro h
    induction cs generalizing afterCased with
    | nil =>
        obtain rfl : word = [] := List.suffix_nil.mp h
        exact ⟨[], [], rfl, .nil⟩
    | cons c rest ih =>
        obtain ⟨image, after, hcons, himage, -⟩ := lowerCharsFrom_cons afterCased c rest
        obtain ⟨start, hstart⟩ := hcons ▸ h
        rcases List.append_eq_append_iff.mp hstart with ⟨part, hpart, hword⟩ | ⟨skipped, -, hrest⟩
        · by_cases hnil : part = []
          case pos =>
            rw [hnil, List.nil_append] at hword
            obtain ⟨before, spelled, rfl, hspelled⟩ := ih ⟨[], hword⟩
            exact ⟨c :: before, spelled, rfl, hspelled⟩
          case neg =>
            -- the image of `c` ends in ASCII, so that it is one character, and all of `part`
            have hlast : part.getLast hnil ∈ image.getLast? := by
              rw [hpart, List.getLast?_append_of_ne_nil _ hnil]
              exact List.getLast?_eq_some_getLast hnil
            have hmem : part.getLast hnil ∈ word :=
              hword ▸ List.mem_append_left _ (List.getLast_mem hnil)
            obtain ⟨hsingle, -⟩ := image_eq_singleton himage hlast (hascii _ hmem)
            have hstart : start = [] := by
              have hlength := congrArg List.length (hpart.symm.trans hsingle)
              have hpositive := List.length_pos_iff.mpr hnil
              rw [List.length_append, List.length_singleton] at hlength
              exact List.length_eq_zero_iff.mp (by omega)
            rw [hstart, List.nil_append] at hpart
            have hwhole : lowerCharsFrom afterCased (c :: rest) = word := by
              rw [hcons, hpart, hword]
            exact ⟨[], c :: rest, rfl, spells_of_lowerCharsFrom hascii hwhole⟩
        · obtain ⟨before, spelled, rfl, hspelled⟩ := ih ⟨skipped, hrest.symm⟩
          exact ⟨c :: before, spelled, rfl, hspelled⟩
  · rintro ⟨before, spelled, rfl, hspelled⟩
    obtain ⟨after, hsuffix⟩ := lowerCharsFrom_suffix afterCased before spelled
    rwa [hspelled.lowerCharsFrom hascii] at hsuffix

/-! ## What a rule applies to -/

namespace Rule

def sought : Rule → List String
  | irregular forms => forms.map (·.1)
  | uncountable words => words
  | ending suffix _ _ _ => [suffix]
  | keep suffix => [suffix]

def added : Rule → List String
  | irregular forms => forms.map (·.2)
  | ending _ replacement _ _ => [replacement]
  | _ => []

theorem exists_sought {rule : Rule} {lowered : List Char} (h : rule.applies lowered = true) :
    ∃ word ∈ rule.sought, word.toList <:+ lowered := by
  cases rule with
  | irregular forms =>
      obtain ⟨form, hform, hword⟩ := List.any_eq_true.mp h
      exact ⟨form.1, List.mem_map_of_mem hform, beq_iff_eq.mp hword ▸ List.suffix_rfl⟩
  | uncountable words =>
      obtain ⟨word, hmem, hword⟩ := List.any_eq_true.mp h
      exact ⟨word, hmem, beq_iff_eq.mp hword ▸ List.suffix_rfl⟩
  | ending suffix replacement notAfter fallback =>
      rw [applies, Bool.and_eq_true] at h
      exact ⟨suffix, List.mem_singleton_self _, List.isSuffixOf_iff_suffix.mp h.1⟩
  | keep suffix => exact ⟨suffix, List.mem_singleton_self _, List.isSuffixOf_iff_suffix.mp h⟩

end Rule

theorem singularRules_sought :
    ∀ rule ∈ singularRules, ∀ word ∈ rule.sought,
      word.toList ≠ [] ∧ ∀ c ∈ word.toList, c.isLower = true := by
  simp only [← List.all_eq_true]
  decide +kernel

theorem singularRules_added :
    ∀ rule ∈ singularRules, ∀ word ∈ rule.added, ∀ c ∈ word.toList, c.isLower = true := by
  simp only [← List.all_eq_true]
  decide +kernel

theorem ascii_of_sought {rule : Rule} (hrule : rule ∈ singularRules) {word : String}
    (hword : word ∈ rule.sought) : ∀ c ∈ word.toList, c.toNat < 128 :=
  fun c hc => lt_of_isLower ((singularRules_sought rule hrule word hword).2 c hc)

theorem selectRule_eq_some {rules : List Rule} {cs : List Char} {rule : Rule}
    (h : selectRule rules cs = some rule) :
    cs ≠ [] ∧ rules.find? (·.applies (lowerChars cs)) = some rule := by
  unfold selectRule at h
  split at h
  case isTrue => cases h
  case isFalse hne => exact ⟨by simpa using hne, h⟩

theorem applies_of_selectRule {rules : List Rule} {cs : List Char} {rule : Rule}
    (h : selectRule rules cs = some rule) : rule ∈ rules ∧ rule.applies (lowerChars cs) = true := by
  obtain ⟨-, hfind⟩ := selectRule_eq_some h
  exact ⟨List.mem_of_find?_eq_some hfind, List.find?_some hfind⟩

theorem spells_of_selectRule {cs : List Char} {rule : Rule}
    (h : selectRule singularRules cs = some rule) :
    rule ∈ singularRules ∧ ∃ word ∈ rule.sought, ∃ before spelled,
      cs = before ++ spelled ∧ Spells spelled word.toList := by
  obtain ⟨hrule, happlies⟩ := applies_of_selectRule h
  obtain ⟨word, hword, hsuffix⟩ := Rule.exists_sought happlies
  exact ⟨hrule, word, hword, (suffix_lowerCharsFrom_iff (ascii_of_sought hrule hword)).mp hsuffix⟩

theorem selectRule_append_eq_none {cs : List Char} {c : Char}
    (hc : lowerOf c = [c]) (hletter : c.isLower = false) :
    selectRule singularRules (cs ++ [c]) = none := by
  by_contra hsome
  obtain ⟨rule, h⟩ := Option.ne_none_iff_exists'.mp hsome
  obtain ⟨hrule, happlies⟩ := applies_of_selectRule h
  obtain ⟨word, hword, hsuffix⟩ := Rule.exists_sought happlies
  obtain ⟨hne, hsmall⟩ := singularRules_sought rule hrule word hword
  obtain ⟨after, hlast⟩ := lowerCharsFrom_suffix false cs [c]
  rw [lowerCharsFrom_eq_self (by simpa using hc)] at hlast
  have hmem : c ∈ word.toList := by
    rcases List.suffix_or_suffix_of_suffix hlast hsuffix with hend | hend
    · exact hend.mem List.mem_cons_self
    · rcases List.suffix_cons_iff.mp hend with hsame | hnil
      · exact hsame ▸ List.mem_cons_self
      · exact absurd (List.suffix_nil.mp hnil) hne
  exact absurd (hsmall c hmem) (by simp [hletter])

/-! ## New endings -/

namespace Rule

theorem sharedLength_le (xs ys : List Char) :
    sharedLength xs ys ≤ xs.length ∧
      xs.take (sharedLength xs ys) = ys.take (sharedLength xs ys) := by
  induction xs generalizing ys with
  | nil => simp [sharedLength]
  | cons x xs ih =>
      cases ys with
      | nil => simp [sharedLength]
      | cons y ys =>
          rw [sharedLength]
          split
          case isTrue hsame =>
            obtain ⟨hle, htake⟩ := ih ys
            simpa [hsame, htake] using hle
          case isFalse => simp

end Rule

theorem upperOf_of_isLower {d : Char} (h : d.isLower = true) :
    upperOf d = [d.toUpper] ∧ lowerOf d.toUpper = [d] ∧ lowerOf d = [d] ∧
      d.toUpper.isAlpha = true :=
  of_ascii (P := fun d => d.isLower = true → upperOf d = [d.toUpper] ∧ lowerOf d.toUpper = [d] ∧
    lowerOf d = [d] ∧ d.toUpper.isAlpha = true)
    (by decide) (lt_of_isLower h) h

theorem upperChars_of_isLower {word : List Char} (h : ∀ d ∈ word, d.isLower = true) :
    upperChars word = word.map Char.toUpper := by
  induction word with
  | nil => rfl
  | cons d word ih =>
      obtain ⟨hd, hword⟩ := List.forall_mem_cons.mp h
      have hrest : word.flatMap upperOf = word.map Char.toUpper := ih hword
      rw [upperChars, List.flatMap_cons, (upperOf_of_isLower hd).1, hrest]
      rfl

def IsSpelling (cs word : List Char) : Prop := cs = word ∨ cs = upperChars word

theorem IsSpelling.spells {cs word : List Char} (h : IsSpelling cs word)
    (hword : ∀ d ∈ word, d.isLower = true) : Spells cs word := by
  rcases h with rfl | rfl
  · exact List.forall₂_same.mpr fun d hd => (upperOf_of_isLower (hword d hd)).2.2.1
  · rw [upperChars_of_isLower hword, Spells, List.forall₂_map_left_iff]
    exact List.forall₂_same.mpr fun d hd => (upperOf_of_isLower (hword d hd)).2.1

theorem isAlpha_of_isLower {d : Char} (h : d.isLower = true) : d.isAlpha = true :=
  Bool.or_eq_true_iff.mpr (.inr h)

theorem IsSpelling.isAlpha {cs word : List Char} (h : IsSpelling cs word)
    (hword : ∀ d ∈ word, d.isLower = true) : ∀ c ∈ cs, c.isAlpha = true := by
  rcases h with rfl | rfl
  · exact fun d hd => isAlpha_of_isLower (hword d hd)
  · rw [upperChars_of_isLower hword]
    intro c hc
    obtain ⟨d, hd, rfl⟩ := List.mem_map.mp hc
    exact (upperOf_of_isLower (hword d hd)).2.2.2

theorem isAlpha_upperFirstChars {word : List Char} (hword : ∀ d ∈ word, d.isLower = true) :
    ∀ c ∈ upperFirstChars word, c.isAlpha = true := by
  cases word with
  | nil => nofun
  | cons d rest =>
      obtain ⟨hd, hrest⟩ := List.forall_mem_cons.mp hword
      rw [upperFirstChars_cons, (upperOf_of_isLower hd).1]
      refine List.forall_mem_cons.mpr ⟨(upperOf_of_isLower hd).2.2.2, ?_⟩
      exact fun c hc => isAlpha_of_isLower (hrest c hc)

theorem replaceEnding_eq (before : List Char) {spelled suffix replacement : List Char}
    (hspelled : Spells spelled suffix) (hreplacement : ∀ d ∈ replacement, d.isLower = true) :
    ∃ added, (∀ c ∈ added, c.isAlpha = true) ∧
      Rule.replaceEnding suffix replacement (before ++ spelled) =
        before ++ spelled.take (Rule.sharedLength suffix replacement) ++ added ∧
      Spells (spelled.take (Rule.sharedLength suffix replacement) ++ added) replacement := by
  obtain ⟨hle, htake⟩ := Rule.sharedLength_le suffix replacement
  unfold Rule.replaceEnding
  generalize Rule.sharedLength suffix replacement = shared at hle htake ⊢
  have hkept : (before ++ spelled).take ((before ++ spelled).length - suffix.length + shared) =
      before ++ spelled.take shared := by
    rw [List.length_append, hspelled.length_eq, Nat.add_sub_cancel, List.take_length_add_append]
  have hletters : ∀ d ∈ replacement.drop shared, d.isLower = true :=
    fun d hd => hreplacement d (List.mem_of_mem_drop hd)
  have hadded : IsSpelling (if Rule.isShouted (before ++ spelled) then
      upperChars (replacement.drop shared) else replacement.drop shared)
        (replacement.drop shared) := by
    split
    · exact .inr rfl
    · exact .inl rfl
  refine ⟨_, hadded.isAlpha hletters, by dsimp only; rw [hkept], ?_⟩
  have hshared : Spells (spelled.take shared) (replacement.take shared) :=
    htake ▸ List.forall₂_take shared hspelled
  have hboth : Spells (_ ++ _) (_ ++ _) := List.rel_append hshared (hadded.spells hletters)
  rwa [List.take_append_drop] at hboth

theorem exists_replaceEnding {cs : List Char} {suffix replacement : String}
    {notAfter : Option String} {fallback : Bool}
    (h : selectRule singularRules cs = some (.ending suffix replacement notAfter fallback)) :
    ∃ before spelled added, cs = before ++ spelled ∧ Spells spelled suffix.toList ∧
      (∀ c ∈ added, c.isAlpha = true) ∧
      Rule.replaceEnding suffix.toList replacement.toList cs = before ++
        spelled.take (Rule.sharedLength suffix.toList replacement.toList) ++ added ∧
      Spells (spelled.take (Rule.sharedLength suffix.toList replacement.toList) ++ added)
        replacement.toList := by
  obtain ⟨hrule, word, hword, before, spelled, rfl, hspelled⟩ := spells_of_selectRule h
  obtain rfl : word = suffix := List.mem_singleton.mp hword
  obtain ⟨added, hadded, hreplaced, hspells⟩ := replaceEnding_eq before hspelled
    (singularRules_added _ hrule replacement (List.mem_singleton_self _))
  exact ⟨before, spelled, added, rfl, hspelled, hadded, hreplaced, hspells⟩

/-! ## The table of singulars -/

namespace Rule

def keeps (finish : List Char) : Rule → Bool
  | keep suffix => suffix.toList.isSuffixOf finish
  | _ => false

def isLate : Rule → Bool
  | irregular _ => true
  | ending suffix _ _ _ => ["strata", "bacteria", "curricula"].contains suffix
  | _ => false

def suffix? : Rule → Option String
  | ending suffix _ _ _ => some suffix
  | _ => none

def replacement? : Rule → Option String
  | ending _ replacement _ _ => some replacement
  | _ => none

end Rule

def keptBefore (count : Nat) (finish : List Char) : Bool :=
  (singularRules.take count).any (·.keeps finish)

theorem replacement_keptBefore :
    ∀ rule ∈ singularRules, ∀ new ∈ rule.replacement?, new ≠ "" →
      ∀ next ∈ singularRules.zipIdx, ∀ old ∈ next.1.suffix?,
        new.toList <:+ old.toList ∨ old.toList <:+ new.toList →
          keptBefore next.2 new.toList = true ∨ keptBefore next.2 old.toList = true := by
  simp only [← List.isSuffixOf_iff_suffix]
  decide +kernel

theorem suffix_keptBefore :
    ∀ rule ∈ singularRules.zipIdx, "" ∈ rule.1.replacement? → ∀ gone ∈ rule.1.suffix?,
      ∀ next ∈ singularRules, ∀ old ∈ next.suffix?,
        next.isLate = true ∨ keptBefore rule.2 (old.toList ++ gone.toList) = true := by
  decide +kernel

theorem exists_index_of_selectRule {cs : List Char} {rule : Rule}
    (h : selectRule singularRules cs = some rule) :
    ∃ count, (rule, count) ∈ singularRules.zipIdx ∧
      ∀ finish, finish <:+ lowerChars cs → keptBefore count finish = false := by
  obtain ⟨-, hfind⟩ := selectRule_eq_some h
  obtain ⟨-, count, hcount, hrule, hbefore⟩ := List.find?_eq_some_iff_getElem.mp hfind
  refine ⟨count, ?_, fun finish hfinish => ?_⟩
  · rw [List.mk_mem_zipIdx_iff_getElem?, List.getElem?_eq_getElem hcount, hrule]
  · rw [keptBefore, List.any_eq_false]
    intro earlier hearlier hkeeps
    obtain ⟨i, hi, rfl⟩ := List.getElem_of_mem hearlier
    rw [List.getElem_take] at hkeeps
    rw [List.length_take] at hi
    have hnot := hbefore i (by omega)
    generalize singularRules[i] = earlier at hkeeps hnot
    cases earlier with
    | keep suffix =>
        have hends : suffix.toList.isSuffixOf (lowerChars cs) = true :=
          List.isSuffixOf_iff_suffix.mpr ((List.isSuffixOf_iff_suffix.mp hkeeps).trans hfinish)
        simp [Rule.applies, hends] at hnot
    | _ => cases hkeeps

theorem sought_of_suffix? {rule : Rule} {old : String} (h : old ∈ rule.suffix?) :
    rule.sought = [old] := by
  cases rule with
  | ending suffix _ _ _ =>
      obtain rfl : suffix = old := by simpa [Rule.suffix?] using h
      rfl
  | _ => cases h

theorem spells_of_suffix? {cs : List Char} {rule : Rule} {old : String}
    (h : selectRule singularRules cs = some rule) (hold : old ∈ rule.suffix?) :
    rule ∈ singularRules ∧ (∀ c ∈ old.toList, c.toNat < 128) ∧
      ∃ before spelled, cs = before ++ spelled ∧ Spells spelled old.toList := by
  obtain ⟨hrule, word, hword, before, spelled, hcs, hspelled⟩ := spells_of_selectRule h
  have hascii := ascii_of_sought hrule hword
  obtain rfl : word = old := List.mem_singleton.mp (sought_of_suffix? hold ▸ hword)
  exact ⟨hrule, hascii, before, spelled, hcs, hspelled⟩

section

variable {cs : List Char} {suffix replacement : String} {notAfter : Option String}
  {fallback : Bool} {next : Rule} {old : String}

/-- When an ending has fallen off, only a late plural is left to be changed: the word has had both
endings, one after the other. -/
theorem isLate_of_selectRule_dropped
    (h : selectRule singularRules cs = some (.ending suffix "" notAfter fallback))
    (hnext : selectRule singularRules (Rule.replaceEnding suffix.toList [] cs) = some next)
    (hold : old ∈ next.suffix?) : next.isLate = true := by
  obtain ⟨count, hindex, hkept⟩ := exists_index_of_selectRule h
  obtain ⟨hnextRule, hascii, start, oldSpelled, hresult, holdSpelled⟩ :=
    spells_of_suffix? hnext hold
  obtain ⟨-, hsuffixAscii, -⟩ := spells_of_suffix? h rfl
  obtain ⟨before, spelled, added, rfl, hspelled, -, hreplaced, hspells⟩ := exists_replaceEnding h
  rw [String.toList_empty] at hreplaced hspells
  rw [hreplaced, List.append_assoc, List.forall₂_nil_right_iff.mp hspells, List.append_nil]
    at hresult
  have hboth : Spells (oldSpelled ++ spelled) (old.toList ++ suffix.toList) :=
    List.rel_append holdSpelled hspelled
  have hends : old.toList ++ suffix.toList <:+ lowerChars (before ++ spelled) := by
    refine (suffix_lowerCharsFrom_iff ?_).mpr ⟨start, _, ?_, hboth⟩
    · intro c hc
      rcases List.mem_append.mp hc with hc | hc
      · exact hascii c hc
      · exact hsuffixAscii c hc
    · rw [hresult, List.append_assoc]
  have hlate := suffix_keptBefore _ hindex rfl suffix rfl next hnextRule old hold
  exact hlate.resolve_right (by simp [hkept _ hends])

theorem suffix?_of_selectRule_replaced (hne : replacement ≠ "")
    (h : selectRule singularRules cs = some (.ending suffix replacement notAfter fallback))
    (hnext : selectRule singularRules
      (Rule.replaceEnding suffix.toList replacement.toList cs) = some next) :
    next.suffix? = none := by
  by_contra hsuffix
  obtain ⟨old, hold⟩ := Option.ne_none_iff_exists'.mp hsuffix
  obtain ⟨count, hindex, hkept⟩ := exists_index_of_selectRule hnext
  obtain ⟨-, hascii, start, oldSpelled, hresult, holdSpelled⟩ := spells_of_suffix? hnext hold
  obtain ⟨hrule, -⟩ := spells_of_suffix? h rfl
  obtain ⟨before, spelled, added, rfl, -, -, hreplaced, hspells⟩ := exists_replaceEnding h
  have holdEnds : old.toList <:+
      lowerChars (Rule.replaceEnding suffix.toList replacement.toList (before ++ spelled)) :=
    (suffix_lowerCharsFrom_iff hascii).mpr ⟨start, oldSpelled, hresult, holdSpelled⟩
  have hnewEnds : replacement.toList <:+
      lowerChars (Rule.replaceEnding suffix.toList replacement.toList (before ++ spelled)) := by
    have hletters : ∀ c ∈ replacement.toList, c.toNat < 128 := fun c hc =>
      lt_of_isLower (singularRules_added _ hrule replacement (List.mem_singleton_self _) c hc)
    refine (suffix_lowerCharsFrom_iff hletters).mpr ⟨before, _, ?_, hspells⟩
    rw [hreplaced, List.append_assoc]
  have hkeeps := replacement_keptBefore _ hrule replacement rfl hne _ hindex old hold
    (List.suffix_or_suffix_of_suffix hnewEnds holdEnds)
  simp [hkept _ hnewEnds, hkept _ holdEnds] at hkeeps

theorem suffix?_of_selectRule_replaceEnding
    (h : selectRule singularRules cs = some (.ending suffix replacement notAfter fallback))
    (hnext : selectRule singularRules
      (Rule.replaceEnding suffix.toList replacement.toList cs) = some next) :
    next.isLate = true ∨ next.suffix? = none := by
  by_cases hempty : replacement = ""
  case pos =>
    subst hempty
    rw [String.toList_empty] at hnext
    cases hold : next.suffix? with
    | none => exact .inr rfl
    | some old => exact .inl (isLate_of_selectRule_dropped h hnext hold)
  case neg => exact .inr (suffix?_of_selectRule_replaced hempty h hnext)

end

/-! ## The singular of a singular -/

theorem change_of_suffix?_eq_none {rule : Rule} (hlate : rule.isLate = false)
    (h : rule.suffix? = none) (cs : List Char) : rule.change cs = cs := by
  cases rule with
  | irregular => cases hlate
  | uncountable => rfl
  | ending => cases h
  | keep => rfl

theorem matchSpelling_cases (word form : List Char) :
    Rule.matchSpelling word form = upperChars form ∨
      Rule.matchSpelling word form = upperFirstChars form ∨
        Rule.matchSpelling word form = form ∧
          ((∀ w ∈ word.head?, isUpper w = false) ∨ form = []) := by
  unfold Rule.matchSpelling
  split
  case isTrue => exact .inl rfl
  case isFalse =>
    cases word with
    | nil => exact .inr (.inr ⟨rfl, .inl nofun⟩)
    | cons w rest =>
        cases form with
        | nil => exact .inr (.inr ⟨rfl, .inr rfl⟩)
        | cons f form =>
            dsimp only
            split
            case isTrue => exact .inr (.inl rfl)
            case isFalse hw => exact .inr (.inr ⟨rfl, .inl (by simpa using hw)⟩)

def Rule.forms : Rule → List (String × String)
  | irregular forms => forms
  | _ => []

theorem forms_settled :
    ∀ rule ∈ singularRules, ∀ entry ∈ rule.forms,
      ∀ spelling ∈ [upperChars entry.2.toList, upperFirstChars entry.2.toList, entry.2.toList],
        (selectRule singularRules spelling).all Rule.isLate = true := by
  decide +kernel

theorem change_irregular {forms : List (String × String)} {cs : List Char}
    (h : (Rule.irregular forms).applies (lowerChars cs) = true) :
    ∃ entry ∈ forms, entry.1.toList = lowerChars cs ∧
      (Rule.irregular forms).change cs = Rule.matchSpelling cs entry.2.toList := by
  obtain ⟨known, hknown, hword⟩ := List.any_eq_true.mp h
  have hfind : (forms.find? (·.1.toList == lowerChars cs)).isSome := by
    rw [List.find?_isSome]
    exact ⟨known, hknown, hword⟩
  obtain ⟨entry, hentry⟩ := Option.isSome_iff_exists.mp hfind
  have hlowered := List.find?_some hentry
  refine ⟨entry, List.mem_of_find?_eq_some hentry, by simpa using hlowered, ?_⟩
  rw [Rule.change, hentry]

/-- What a rule has put into the singular, no rule changes but one for late plurals. -/
theorem change_change {cs : List Char} {rule next : Rule}
    (h : selectRule singularRules cs = some rule)
    (hnext : selectRule singularRules (rule.change cs) = some next) (hlate : next.isLate = false) :
    next.change (rule.change cs) = rule.change cs := by
  cases rule with
  | irregular forms =>
      obtain ⟨hrule, happlies⟩ := applies_of_selectRule h
      obtain ⟨entry, hentry, -, hchange⟩ := change_irregular happlies
      have hsettled := forms_settled _ hrule entry hentry
      rw [hchange] at hnext
      have hlate' : next.isLate = true := by
        have hspelling : Rule.matchSpelling cs entry.2.toList ∈
            [upperChars entry.2.toList, upperFirstChars entry.2.toList, entry.2.toList] := by
          rcases matchSpelling_cases cs entry.2.toList with h | h | ⟨h, -⟩ <;> simp [h]
        simpa [hnext] using hsettled _ hspelling
      exact absurd hlate' (by simp [hlate])
  | uncountable words =>
      obtain rfl : Rule.uncountable words = next := Option.some.inj (h.symm.trans hnext)
      rfl
  | keep suffix =>
      obtain rfl : Rule.keep suffix = next := Option.some.inj (h.symm.trans hnext)
      rfl
  | ending suffix replacement notAfter fallback =>
      have hsuffix := (suffix?_of_selectRule_replaceEnding h hnext).resolve_left (by simp [hlate])
      exact change_of_suffix?_eq_none hlate hsuffix _

/-! ## Spellings under the rules -/

theorem raised_upperChars (cs : List Char) : Raised (upperChars cs) := by
  cases cs with
  | nil => rintro c ⟨⟩
  | cons c rest =>
      intro d hd
      rw [upperChars, List.flatMap_cons, List.head?_append_of_ne_nil _ (upperOf_ne_nil c)] at hd
      exact upperOf_head_upperOf hd

def Rule.keepsHead : Rule → Bool
  | ending suffix replacement notAfter _ =>
      0 < sharedLength suffix.toList replacement.toList || notAfter.isSome
  | _ => true

theorem singularRules_keepsHead : ∀ rule ∈ singularRules, rule.keepsHead = true := by
  decide +kernel

theorem head?_replaceEnding {cs : List Char} {suffix replacement : String}
    {notAfter : Option String} {fallback : Bool}
    (h : selectRule singularRules cs = some (.ending suffix replacement notAfter fallback)) :
    (Rule.replaceEnding suffix.toList replacement.toList cs).head? = cs.head? := by
  obtain ⟨hrule, happlies⟩ := applies_of_selectRule h
  have hsought : suffix ∈ (Rule.ending suffix replacement notAfter fallback).sought :=
    List.mem_singleton_self _
  obtain ⟨before, spelled, added, rfl, hspelled, -, hreplaced, -⟩ := exists_replaceEnding h
  rw [hreplaced]
  cases before with
  | cons c before => rfl
  | nil =>
      have hshared : 0 < Rule.sharedLength suffix.toList replacement.toList := by
        have hhead := singularRules_keepsHead _ hrule
        rw [Rule.keepsHead, Bool.or_eq_true, decide_eq_true_eq] at hhead
        refine hhead.resolve_right fun hsome => ?_
        obtain ⟨excluded, rfl⟩ := Option.isSome_iff_exists.mp hsome
        have hlowered : lowerChars spelled = suffix.toList :=
          hspelled.lowerCharsFrom (ascii_of_sought hrule hsought) false
        simp [Rule.applies, hlowered, Rule.allowsBefore] at happlies
      obtain ⟨shared, hshared⟩ := Nat.exists_eq_succ_of_ne_zero hshared.ne'
      rw [hshared]
      cases spelled with
      | nil =>
          have hne := (singularRules_sought _ hrule suffix hsought).1
          exact absurd (List.forall₂_nil_left_iff.mp hspelled) hne
      | cons c spelled => rfl

theorem raised_change {cs : List Char} {rule : Rule} (h : selectRule singularRules cs = some rule)
    (hcs : Raised cs) : Raised (rule.change cs) := by
  cases rule with
  | uncountable words => exact hcs
  | keep suffix => exact hcs
  | ending suffix replacement notAfter fallback =>
      rw [Raised, Rule.change, head?_replaceEnding h]
      exact hcs
  | irregular forms =>
      obtain ⟨hrule, happlies⟩ := applies_of_selectRule h
      obtain ⟨entry, hentry, hlowered, hchange⟩ := change_irregular happlies
      rw [hchange]
      rcases matchSpelling_cases cs entry.2.toList with hsame | hsame | ⟨hsame, hsmall⟩
      · exact hsame ▸ raised_upperChars _
      · exact hsame ▸ raised_upperFirstChars _
      · rw [hsame]
        rcases hsmall with hsmall | hnil
        · obtain ⟨c, rest, rfl⟩ := List.exists_cons_of_ne_nil (selectRule_eq_some h).1
          have hknown : entry.1 ∈ (Rule.irregular forms).sought := List.mem_map_of_mem hentry
          have hspells := spells_of_lowerCharsFrom (ascii_of_sought hrule hknown) hlowered.symm
          have hknownLetters := (singularRules_sought _ hrule entry.1 hknown).2
          generalize entry.1.toList = known at hspells hknownLetters
          cases hspells with
          | @cons _ d _ _ hc _ =>
              have hupper := isUpper_of_upperOf (hcs c rfl) hc
                (hknownLetters d List.mem_cons_self)
              exact absurd hupper (by simp [hsmall c rfl])
        · rw [hnil]
          rintro c ⟨⟩

theorem isAlpha_matchSpelling (word : List Char) {form : List Char}
    (hform : ∀ d ∈ form, d.isLower = true) :
    ∀ c ∈ Rule.matchSpelling word form, c.isAlpha = true := by
  rcases matchSpelling_cases word form with hsame | hsame | ⟨hsame, -⟩ <;> rw [hsame]
  · exact IsSpelling.isAlpha (.inr rfl) hform
  · exact isAlpha_upperFirstChars hform
  · exact IsSpelling.isAlpha (.inl rfl) hform

theorem exists_change {cs : List Char} {rule : Rule} (h : selectRule singularRules cs = some rule) :
    ∃ count added, (∀ c ∈ added, c.isAlpha = true) ∧ rule.change cs = cs.take count ++ added := by
  have hkept : ∃ count added, (∀ c ∈ added, c.isAlpha = true) ∧ cs = cs.take count ++ added :=
    ⟨cs.length, [], List.forall_mem_nil _, by rw [List.take_length, List.append_nil]⟩
  cases rule with
  | uncountable words => exact hkept
  | keep suffix => exact hkept
  | ending suffix replacement notAfter fallback =>
      obtain ⟨before, spelled, added, rfl, -, hadded, hreplaced, -⟩ := exists_replaceEnding h
      rw [← List.take_length_add_append] at hreplaced
      exact ⟨_, added, hadded, hreplaced⟩
  | irregular forms =>
      obtain ⟨hrule, happlies⟩ := applies_of_selectRule h
      obtain ⟨entry, hentry, -, hchange⟩ := change_irregular happlies
      have hletters := singularRules_added _ hrule entry.2 (List.mem_map_of_mem hentry)
      exact ⟨0, _, isAlpha_matchSpelling cs hletters, hchange⟩

theorem singularForms_ne_nil :
    ∀ rule ∈ singularRules, ∀ entry ∈ rule.forms, entry.2.toList ≠ [] := by
  decide +kernel

theorem matchSpelling_ne_nil (word : List Char) {form : List Char} (hform : form ≠ []) :
    Rule.matchSpelling word form ≠ [] := by
  obtain ⟨c, rest, rfl⟩ := List.exists_cons_of_ne_nil hform
  rcases matchSpelling_cases word (c :: rest) with hsame | hsame | ⟨hsame, -⟩ <;> rw [hsame]
  · exact List.append_ne_nil_of_left_ne_nil (upperOf_ne_nil c) _
  · rw [upperFirstChars_cons]
    exact List.append_ne_nil_of_left_ne_nil (upperOf_ne_nil c) _
  · exact List.cons_ne_nil c rest

theorem head?_change {cs : List Char} {rule : Rule} (h : selectRule singularRules cs = some rule) :
    (rule.change cs).head? = cs.head? ∨
      ∃ d, (rule.change cs).head? = some d ∧ d.isAlpha = true := by
  cases rule with
  | uncountable words => exact .inl rfl
  | keep suffix => exact .inl rfl
  | ending suffix replacement notAfter fallback => exact .inl (head?_replaceEnding h)
  | irregular forms =>
      obtain ⟨hrule, happlies⟩ := applies_of_selectRule h
      obtain ⟨entry, hentry, -, hchange⟩ := change_irregular happlies
      have hletters := singularRules_added _ hrule entry.2 (List.mem_map_of_mem hentry)
      have hne := matchSpelling_ne_nil cs (singularForms_ne_nil _ hrule entry hentry)
      rw [hchange]
      have hhead := isAlpha_matchSpelling cs hletters _ (List.head_mem hne)
      exact .inr ⟨_, List.head?_eq_some_head hne, hhead⟩

theorem isSeparator_of_isAlpha {c : Char} (h : c.isAlpha = true) : isSeparator c = false := by
  by_contra hseparator
  rw [Bool.not_eq_false, isSeparator, Bool.or_eq_true, decide_eq_true_eq, decide_eq_true_eq]
    at hseparator
  rcases hseparator with rfl | rfl <;> exact absurd h (by decide)

theorem joined_change {cs : List Char} {rule : Rule} (h : selectRule singularRules cs = some rule)
    (hcs : Joined cs) : Joined (rule.change cs) := by
  obtain ⟨count, added, hadded, hchange⟩ := exists_change h
  exact hchange ▸ (hcs.take count).append fun c hc => isSeparator_of_isAlpha (hadded c hc)

/-! ## Words -/

/-- A plural that is left when another rule has done its work: `peoples` becomes `people`, and
that would become `person`. -/
def isLatePlural (word : String) : Bool :=
  (selectRule singularRules word.toList).any fun rule =>
    rule.isLate && rule.change word.toList != word.toList

theorem singularize_of_none {word : String} (h : selectRule singularRules word.toList = none) :
    singularize word = word := by
  rw [singularize, inflect, h]

theorem singularize_of_some {word : String} {rule : Rule}
    (h : selectRule singularRules word.toList = some rule) :
    singularize word = .ofList (rule.change word.toList) := by
  rw [singularize, inflect, h]

/-- What holds of a word and of all that a rule makes of it holds of its singular. -/
theorem singularize_induction {P : List Char → Prop} {word : String} (h : P word.toList)
    (hchange : ∀ rule, selectRule singularRules word.toList = some rule →
      P (rule.change word.toList)) : P (singularize word).toList := by
  cases hrule : selectRule singularRules word.toList with
  | none => rwa [singularize_of_none hrule]
  | some rule =>
      rw [singularize_of_some hrule, String.toList_ofList]
      exact hchange rule hrule

theorem singularize_singularize {word : String} (h : isLatePlural (singularize word) = false) :
    singularize (singularize word) = singularize word := by
  cases hrule : selectRule singularRules word.toList with
  | none => rw [singularize_of_none hrule, singularize_of_none hrule]
  | some rule =>
      rw [singularize_of_some hrule] at h ⊢
      cases hnext : selectRule singularRules (String.ofList (rule.change word.toList)).toList with
      | none => exact singularize_of_none hnext
      | some next =>
          rw [singularize_of_some hnext]
          rw [isLatePlural, hnext, Option.any_some] at h
          rw [String.toList_ofList] at h hnext ⊢
          cases hlate : next.isLate with
          | false => rw [change_change hrule hnext hlate]
          | true =>
              have hsame : next.change (rule.change word.toList) = rule.change word.toList := by
                simpa [hlate] using h
              rw [hsame]

theorem singularize_append {word : String} {c : Char} (hc : lowerOf c = [c])
    (hletter : c.isLower = false) : singularize (word.push c) = word.push c := by
  refine singularize_of_none ?_
  rw [String.toList_push]
  exact selectRule_append_eq_none hc hletter

theorem raised_singularize {word : String} (h : Raised word.toList) :
    Raised (singularize word).toList :=
  singularize_induction h fun _ hrule => raised_change hrule h

theorem joined_singularize {word : String} (h : Joined word.toList) :
    Joined (singularize word).toList :=
  singularize_induction h fun _ hrule => joined_change hrule h

end RecordLoom.Inflection
