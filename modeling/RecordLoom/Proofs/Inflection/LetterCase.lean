import RecordLoom.Proofs.Inflection.RoundTrip

/-!
# Inflection and the case of letters

A table selects its rule by the small letters of a word, and the rule keeps capitals: what it adds
is in small letters, and in capitals after a word in capitals.  So a word of ASCII is inflected in
the same way however it is spelled.
-/

namespace RecordLoom.Inflection

open RecordLoom.Casing
open RecordLoom.Text

/-! ## Letters of ASCII -/

/-- The case of a character of ASCII and of its two forms. -/
@[mk_iff]
structure AsciiCase (c : Char) : Prop where
  lowerOf : lowerOf c = [c.toLower]
  upperOf : upperOf c = [c.toUpper]
  ascii_lower : c.toLower.toNat < 128
  ascii_upper : c.toUpper.toNat < 128
  lower_lower : c.toLower.toLower = c.toLower
  lower_upper : c.toUpper.toLower = c.toLower
  upper_lower : c.toLower.toUpper = c.toUpper
  upper_upper : c.toUpper.toUpper = c.toUpper
  not_upper : isUpper c.toLower = false
  not_lower : isLower c.toUpper = false ∧ isTitle c.toUpper = false
  letter : c.isAlpha = true → isUpper c.toUpper = true

instance (c : Char) : Decidable (AsciiCase c) :=
  decidable_of_iff' _ (asciiCase_iff c)

theorem asciiCase {c : Char} (h : c.toNat < 128) : AsciiCase c :=
  of_ascii (P := AsciiCase) (by decide +kernel) h

abbrev Ascii (cs : List Char) : Prop := ∀ c ∈ cs, c.toNat < 128

theorem lowerCharsFrom_of_ascii {cs : List Char} (h : Ascii cs) (afterCased : Bool) :
    lowerCharsFrom afterCased cs = cs.map Char.toLower := by
  refine Spells.lowerCharsFrom ?_ ?_ afterCased
  · intro c hc
    obtain ⟨d, hd, rfl⟩ := List.mem_map.mp hc
    exact (asciiCase (h d hd)).ascii_lower
  · rw [Spells, List.forall₂_map_right_iff]
    exact List.forall₂_same.mpr fun c hc => (asciiCase (h c hc)).lowerOf

theorem lowerChars_of_ascii {cs : List Char} (h : Ascii cs) :
    lowerChars cs = cs.map Char.toLower :=
  lowerCharsFrom_of_ascii h false

theorem upperChars_of_ascii {cs : List Char} (h : Ascii cs) :
    upperChars cs = cs.map Char.toUpper := by
  induction cs with
  | nil => rfl
  | cons c rest ih =>
      obtain ⟨hc, hrest⟩ := List.forall_mem_cons.mp h
      have htail : rest.flatMap Text.upperOf = rest.map Char.toUpper := ih hrest
      rw [upperChars, List.flatMap_cons, htail, (asciiCase hc).upperOf]
      rfl

theorem ascii_of_isLower {cs : List Char} (h : ∀ c ∈ cs, c.isLower = true) : Ascii cs :=
  fun c hc => lt_of_isLower (h c hc)

theorem lowerChars_lowerChars (cs : List Char) : lowerChars (lowerChars cs) = lowerChars cs :=
  lowerCharsFrom_eq_self fun _ => lowerOf_of_mem_lowerCharsFrom

section

variable {cs : List Char} (h : Ascii cs)

include h

theorem ascii_lowerChars : Ascii (lowerChars cs) := by
  rw [lowerChars_of_ascii h]
  exact List.forall_mem_map.mpr fun c hc => (asciiCase (h c hc)).ascii_lower

theorem ascii_upperChars : Ascii (upperChars cs) := by
  rw [upperChars_of_ascii h]
  exact List.forall_mem_map.mpr fun c hc => (asciiCase (h c hc)).ascii_upper

theorem lowerChars_upperChars : lowerChars (upperChars cs) = lowerChars cs := by
  rw [lowerChars_of_ascii (ascii_upperChars h), upperChars_of_ascii h, lowerChars_of_ascii h,
    List.map_map]
  exact List.map_congr_left fun c hc => (asciiCase (h c hc)).lower_upper

theorem upperChars_upperChars : upperChars (upperChars cs) = upperChars cs := by
  rw [upperChars_of_ascii (ascii_upperChars h), upperChars_of_ascii h, List.map_map]
  exact List.map_congr_left fun c hc => (asciiCase (h c hc)).upper_upper

theorem length_lowerChars : (lowerChars cs).length = cs.length := by
  rw [lowerChars_of_ascii h, List.length_map]

theorem length_upperChars : (upperChars cs).length = cs.length := by
  rw [upperChars_of_ascii h, List.length_map]

theorem lowerChars_take (count : Nat) : lowerChars (cs.take count) = (lowerChars cs).take count := by
  rw [lowerChars_of_ascii h, lowerChars_of_ascii fun c hc => h c (List.mem_of_mem_take hc),
    List.map_take]

theorem upperChars_take (count : Nat) : upperChars (cs.take count) = (upperChars cs).take count := by
  rw [upperChars_of_ascii h, upperChars_of_ascii fun c hc => h c (List.mem_of_mem_take hc),
    List.map_take]

theorem lowerChars_append {ds : List Char} (hds : Ascii ds) :
    lowerChars (cs ++ ds) = lowerChars cs ++ lowerChars ds := by
  rw [lowerChars_of_ascii (List.forall_mem_append.mpr ⟨h, hds⟩), lowerChars_of_ascii h,
    lowerChars_of_ascii hds, List.map_append]

theorem not_upper_lowerChars : ∀ c ∈ lowerChars cs, isUpper c = false := by
  rw [lowerChars_of_ascii h]
  exact List.forall_mem_map.mpr fun c hc => (asciiCase (h c hc)).not_upper

theorem isShouted_lowerChars : Rule.isShouted (lowerChars cs) = false := by
  have hupper : (lowerChars cs).any isUpper = false :=
    List.any_eq_false.mpr fun c hc => by simp [not_upper_lowerChars h c hc]
  simp [Rule.isShouted, isAllUpper, hupper]

theorem isShouted_upperChars (hlong : 1 < cs.length) (hletter : ∃ c ∈ cs, c.isAlpha = true) :
    Rule.isShouted (upperChars cs) = true := by
  obtain ⟨c, hc, hletter⟩ := hletter
  have hupper : (upperChars cs).any isUpper = true := by
    rw [upperChars_of_ascii h]
    exact List.any_eq_true.mpr ⟨_, List.mem_map_of_mem hc, (asciiCase (h c hc)).letter hletter⟩
  have hlower : ((upperChars cs).any fun c => isLower c || isTitle c) = false := by
    rw [upperChars_of_ascii h, List.any_map, List.any_eq_false]
    intro d hd
    simp [(asciiCase (h d hd)).not_lower]
  rw [Rule.isShouted, isAllUpper, hupper, hlower, length_upperChars h]
  simpa using hlong

end

/-! ## What a rule makes of a word -/

theorem pluralRules_added :
    ∀ rule ∈ pluralRules, ∀ word ∈ rule.added, ∀ c ∈ word.toList, c.isLower = true := by
  simp only [← List.all_eq_true]
  decide +kernel

theorem tables_added :
    ∀ rules ∈ [singularRules, pluralRules], ∀ rule ∈ rules, ∀ word ∈ rule.added,
      ∀ c ∈ word.toList, c.isLower = true :=
  List.forall_mem_cons.mpr ⟨singularRules_added, List.forall_mem_singleton.mpr pluralRules_added⟩

theorem lowerChars_upperFirstChars {form : List Char} (h : Ascii form) :
    lowerChars (upperFirstChars form) = lowerChars form := by
  cases form with
  | nil => rfl
  | cons c rest =>
      obtain ⟨hc, hrest⟩ := List.forall_mem_cons.mp h
      have hfirst : Ascii [c] := List.forall_mem_singleton.mpr hc
      rw [upperFirstChars, lowerChars_append (ascii_upperChars hfirst) hrest,
        lowerChars_upperChars hfirst, ← lowerChars_append hfirst hrest, List.singleton_append]

theorem upperChars_upperFirstChars {form : List Char} (h : Ascii form) :
    upperChars (upperFirstChars form) = upperChars form := by
  cases form with
  | nil => rfl
  | cons c rest =>
      have hfirst : Ascii [c] := List.forall_mem_singleton.mpr (h c List.mem_cons_self)
      rw [upperFirstChars, upperChars_append, upperChars_upperChars hfirst, ← upperChars_append,
        List.singleton_append]

namespace Rule

variable {cs form : List Char}

theorem lowerChars_matchSpelling (word : List Char) (hform : ∀ c ∈ form, c.isLower = true) :
    lowerChars (matchSpelling word form) = form := by
  have hascii := ascii_of_isLower hform
  rcases matchSpelling_cases word form with hsame | hsame | ⟨hsame, -⟩ <;> rw [hsame]
  · rw [lowerChars_upperChars hascii, lowerChars_of_isLower hform]
  · rw [lowerChars_upperFirstChars hascii, lowerChars_of_isLower hform]
  · exact lowerChars_of_isLower hform

theorem upperChars_matchSpelling (word : List Char) (hform : ∀ c ∈ form, c.isLower = true) :
    upperChars (matchSpelling word form) = upperChars form := by
  have hascii := ascii_of_isLower hform
  rcases matchSpelling_cases word form with hsame | hsame | ⟨hsame, -⟩ <;> rw [hsame]
  · exact upperChars_upperChars hascii
  · exact upperChars_upperFirstChars hascii

theorem matchSpelling_lowerChars (hcs : Ascii cs) (form : List Char) :
    matchSpelling (lowerChars cs) form = form := by
  have hnot := not_upper_lowerChars hcs
  simp only [matchSpelling, isShouted_lowerChars hcs, Bool.false_eq_true, if_false]
  cases hword : lowerChars cs with
  | nil => rfl
  | cons w rest =>
      rw [hword] at hnot
      cases form with
      | nil => rfl
      | cons f more => simp [hnot w List.mem_cons_self]

theorem matchSpelling_upperChars (hshouted : isShouted (upperChars cs) = true) (form : List Char) :
    matchSpelling (upperChars cs) form = upperChars form := by
  unfold matchSpelling
  rw [if_pos hshouted]

section

variable {replacement : List Char} (hreplacement : ∀ c ∈ replacement, c.isLower = true)
  (hcs : Ascii cs) (suffix : List Char)

include hreplacement hcs

theorem replaceEnding_lowerChars : replaceEnding suffix replacement (lowerChars cs) =
    lowerChars (replaceEnding suffix replacement cs) := by
  have hnew : ∀ c ∈ replacement.drop (sharedLength suffix replacement), c.isLower = true :=
    fun c hc => hreplacement c (List.mem_of_mem_drop hc)
  have hascii := ascii_of_isLower hnew
  have hkept (count : Nat) : Ascii (cs.take count) := fun c hc => hcs c (List.mem_of_mem_take hc)
  simp only [replaceEnding, isShouted_lowerChars hcs, length_lowerChars hcs, Bool.false_eq_true,
    if_false]
  split
  case isTrue =>
    rw [lowerChars_append (hkept _) (ascii_upperChars hascii), lowerChars_take hcs,
      lowerChars_upperChars hascii, lowerChars_of_isLower hnew]
  case isFalse =>
    rw [lowerChars_append (hkept _) hascii, lowerChars_take hcs, lowerChars_of_isLower hnew]

theorem replaceEnding_upperChars (hshouted : isShouted (upperChars cs) = true) :
    replaceEnding suffix replacement (upperChars cs) =
      upperChars (replaceEnding suffix replacement cs) := by
  have hnew : ∀ c ∈ replacement.drop (sharedLength suffix replacement), c.isLower = true :=
    fun c hc => hreplacement c (List.mem_of_mem_drop hc)
  simp only [replaceEnding, hshouted, length_upperChars hcs, if_true]
  rw [upperChars_append, upperChars_take hcs]
  split
  case isTrue => rw [upperChars_upperChars (ascii_of_isLower hnew)]
  case isFalse => rfl

end

section

variable {rule : Rule} (hadded : ∀ word ∈ rule.added, ∀ c ∈ word.toList, c.isLower = true)
  (hcs : Ascii cs)

include hadded hcs

theorem change_lowerChars : rule.change (lowerChars cs) = lowerChars (rule.change cs) := by
  cases rule with
  | uncountable words => rfl
  | keep suffix => rfl
  | irregular forms =>
      rw [change, change, lowerChars_lowerChars cs]
      cases hfind : forms.find? (·.1.toList == lowerChars cs) with
      | none => rfl
      | some entry =>
          have hform := hadded entry.2 (List.mem_map_of_mem (List.mem_of_find?_eq_some hfind))
          exact (matchSpelling_lowerChars hcs _).trans (lowerChars_matchSpelling cs hform).symm
  | ending suffix replacement notAfter fallback =>
      exact replaceEnding_lowerChars (hadded replacement (List.mem_singleton_self _)) hcs _

theorem change_upperChars (hshouted : isShouted (upperChars cs) = true) :
    rule.change (upperChars cs) = upperChars (rule.change cs) := by
  cases rule with
  | uncountable words => rfl
  | keep suffix => rfl
  | irregular forms =>
      rw [change, change, lowerChars_upperChars hcs]
      cases hfind : forms.find? (·.1.toList == lowerChars cs) with
      | none => rfl
      | some entry =>
          have hform := hadded entry.2 (List.mem_map_of_mem (List.mem_of_find?_eq_some hfind))
          exact (matchSpelling_upperChars hshouted _).trans (upperChars_matchSpelling cs hform).symm
  | ending suffix replacement notAfter fallback =>
      exact replaceEnding_upperChars (hadded replacement (List.mem_singleton_self _)) hcs _ hshouted

end

end Rule

/-! ## Tables -/

theorem selectRule_congr (rules : List Rule) {cs ds : List Char} (hcs : Ascii cs) (hds : Ascii ds)
    (h : lowerChars cs = lowerChars ds) : selectRule rules cs = selectRule rules ds := by
  have hlength : cs.length = ds.length := by
    rw [← length_lowerChars hcs, h, length_lowerChars hds]
  have hempty : cs.isEmpty = ds.isEmpty := by
    rw [Bool.eq_iff_iff, List.isEmpty_iff_length_eq_zero, List.isEmpty_iff_length_eq_zero, hlength]
  rw [selectRule, selectRule, h, hempty]

theorem inflect_rule (rules : List Rule) (word : String) :
    (inflect rules word).rule = selectRule rules word.toList := by
  unfold inflect
  split <;> simp_all

theorem toList_inflect (rules : List Rule) (word : String) :
    (inflect rules word).word.toList =
      (selectRule rules word.toList).elim word.toList (·.change word.toList) := by
  unfold inflect
  split <;> simp_all

theorem toList_lower (s : String) : (lower s).toList = lowerChars s.toList :=
  String.toList_ofList

theorem toList_upper (s : String) : (upper s).toList = upperChars s.toList :=
  String.toList_ofList

section

variable {rules : List Rule} (hrules : rules ∈ [singularRules, pluralRules]) {word : String}
  (hascii : Ascii word.toList)

theorem added_of_selectRule (hrules : rules ∈ [singularRules, pluralRules]) {cs : List Char}
    {rule : Rule} (h : selectRule rules cs = some rule) :
    ∀ word ∈ rule.added, ∀ c ∈ word.toList, c.isLower = true :=
  tables_added rules hrules rule (List.mem_of_find?_eq_some (selectRule_eq_some h).2)

include hascii

theorem inflect_lower_rule (rules : List Rule) :
    (inflect rules (lower word)).rule = (inflect rules word).rule := by
  rw [inflect_rule, inflect_rule, toList_lower]
  exact selectRule_congr rules (ascii_lowerChars hascii) hascii (lowerChars_lowerChars _)

theorem inflect_upper_rule (rules : List Rule) :
    (inflect rules (upper word)).rule = (inflect rules word).rule := by
  rw [inflect_rule, inflect_rule, toList_upper]
  exact selectRule_congr rules (ascii_upperChars hascii) hascii (lowerChars_upperChars hascii)

include hrules

theorem lower_inflect : lower (inflect rules word).word = (inflect rules (lower word)).word := by
  have hselect := inflect_lower_rule hascii rules
  rw [inflect_rule, inflect_rule] at hselect
  apply String.toList_injective
  rw [toList_lower, toList_inflect, toList_inflect, hselect, toList_lower]
  cases hrule : selectRule rules word.toList with
  | none => rfl
  | some rule => exact (Rule.change_lowerChars (added_of_selectRule hrules hrule) hascii).symm

theorem upper_inflect (hlong : 1 < word.length) (hletter : ∃ c ∈ word.toList, c.isAlpha = true) :
    (inflect rules (upper word)).word = upper (inflect rules word).word := by
  have hshouted := isShouted_upperChars hascii (by rwa [String.length_toList]) hletter
  have hselect := inflect_upper_rule hascii rules
  rw [inflect_rule, inflect_rule] at hselect
  apply String.toList_injective
  rw [toList_upper, toList_inflect, toList_inflect, hselect, toList_upper]
  cases hrule : selectRule rules word.toList with
  | none => rfl
  | some rule =>
      exact Rule.change_upperChars (added_of_selectRule hrules hrule) hascii hshouted

end

/-- A table selects the same rule for all spellings of a word, and inflects it in the same way: in
small letters to small letters and in capitals to capitals. -/
structure KeepsCase (rules : List Rule) (word : String) : Prop where
  rule : (inflect rules (lower word)).rule = (inflect rules word).rule
  lower : Text.lower (inflect rules word).word = (inflect rules (Text.lower word)).word
  upper : 1 < word.length → (∃ c ∈ word.toList, c.isAlpha = true) →
    (inflect rules (Text.upper word)).word = Text.upper (inflect rules word).word
  shouted : 1 < word.length → (∃ c ∈ word.toList, c.isAlpha = true) → Text.upper word = word →
    Text.upper (inflect rules word).word = (inflect rules word).word
  alike : ∀ other : String, Ascii other.toList → Text.lower other = Text.lower word →
    (inflect rules other).rule = (inflect rules word).rule ∧
      Text.lower (inflect rules other).word = Text.lower (inflect rules word).word

/-- Both tables disregard the case of a word of ASCII and keep it. -/
theorem inflect_keepsCase {rules : List Rule} (hrules : rules ∈ [singularRules, pluralRules])
    {word : String} (hascii : Ascii word.toList) : KeepsCase rules word where
  rule := inflect_lower_rule hascii rules
  lower := lower_inflect hrules hascii
  upper := upper_inflect hrules hascii
  shouted hlong hletter hupper := by
    rw [← upper_inflect hrules hascii hlong hletter, hupper]
  alike other hother hsame := by
    rw [← inflect_lower_rule hother, ← inflect_lower_rule hascii, lower_inflect hrules hother,
      lower_inflect hrules hascii, hsame]
    exact ⟨rfl, rfl⟩

theorem productCategory_keepsCase :
    pluralRules ∈ [singularRules, pluralRules] ∧ Ascii "ProductCategory".toList ∧
      KeepsCase pluralRules "ProductCategory" := by
  have hrules : pluralRules ∈ [singularRules, pluralRules] := by simp
  have hascii : Ascii "ProductCategory".toList := by simp [Ascii]
  exact ⟨hrules, hascii, inflect_keepsCase hrules hascii⟩

example : pluralize "X" = "Xes" := by decide +kernel

end RecordLoom.Inflection
