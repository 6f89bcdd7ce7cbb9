import RecordLoom.Proofs.Inflection.Singular
import RecordLoom.Text.Replace

/-!
# The singular of a plural

A noun with a regular plural is the singular of that plural.  Such nouns are told by what they end
in: each of their endings has an ending for the plural, and in both tables the first rule that can
be meant for words with the one ending puts the other.
-/

namespace RecordLoom.Inflection

open RecordLoom.Casing
open RecordLoom.Text

/-! ## Words in small letters -/

theorem lowerChars_of_isLower {word : List Char} (h : ∀ c ∈ word, c.isLower = true) :
    lowerChars word = word :=
  lowerCharsFrom_eq_self fun c hc => (upperOf_of_isLower (h c hc)).2.2.1

theorem isUpper_of_isLower {c : Char} (h : c.isLower = true) : isUpper c = false :=
  of_ascii (P := fun c => c.isLower = true → isUpper c = false) (by decide) (lt_of_isLower h) h

theorem isShouted_of_isLower {word : List Char} (h : ∀ c ∈ word, c.isLower = true) :
    Rule.isShouted word = false := by
  have hupper : word.any isUpper = false :=
    List.any_eq_false.mpr fun c hc => by simp [isUpper_of_isLower (h c hc)]
  simp [Rule.isShouted, isAllUpper, hupper]

/-! ## The first rule for an ending -/

namespace Rule

def words : Rule → List String
  | irregular forms => forms.map (·.1)
  | uncountable words => words
  | _ => []

def meets (finish : List Char) (barred : List (List Char)) : Rule → Bool
  | ending suffix _ _ _ | keep suffix =>
      (suffix.toList.reverse.zip finish.reverse).all (fun pair => pair.1 == pair.2) &&
        !barred.any (·.isSuffixOf suffix.toList)
  | _ => false

def admits (old suffix : List Char) (barred : List (List Char)) (bare : Bool)
    (excluded : List Char) : Bool :=
  allowsBefore excluded suffix old ||
    !bare && suffix == old && excluded.all fun c => barred.contains (c :: old)

def turns (old new : List Char) (barred : List (List Char)) (bare : Bool) : Rule → Bool
  | ending suffix replacement notAfter _ =>
      suffix.toList.isSuffixOf old && replaceEnding suffix.toList replacement.toList old == new &&
        notAfter.all fun excluded => admits old suffix.toList barred bare excluded.toList
  | _ => false

theorem agree_of_prefix {as bs cs : List Char} (ha : as <+: cs) (hb : bs <+: cs) :
    (as.zip bs).all (fun pair => pair.1 == pair.2) = true := by
  induction cs generalizing as bs with
  | nil => rw [List.prefix_nil.mp ha, List.zip_nil_left, List.all_nil]
  | cons c cs ih =>
      cases as with
      | nil => rfl
      | cons a as =>
          cases bs with
          | nil => rfl
          | cons b bs =>
              obtain ⟨rfl, hrest⟩ := List.cons_prefix_cons.mp ha
              obtain ⟨rfl, hrest'⟩ := List.cons_prefix_cons.mp hb
              rw [List.zip_cons_cons, List.all_cons, beq_self_eq_true, Bool.true_and]
              exact ih hrest hrest'

theorem meets_suffix {finish suffix word : List Char} {barred : List (List Char)}
    (hfinish : finish <:+ word) (hbarred : ∀ e ∈ barred, ¬e <:+ word) (hsuffix : suffix <:+ word) :
    ((suffix.reverse.zip finish.reverse).all (fun pair => pair.1 == pair.2) &&
      !barred.any (·.isSuffixOf suffix)) = true := by
  have hfree : barred.any (·.isSuffixOf suffix) = false := by
    rw [List.any_eq_false]
    intro e he hends
    exact hbarred e he ((List.isSuffixOf_iff_suffix.mp hends).trans hsuffix)
  rw [hfree, Bool.not_false, Bool.and_true]
  exact agree_of_prefix (List.reverse_prefix.mpr hsuffix) (List.reverse_prefix.mpr hfinish)

theorem meets_of_applies {rule : Rule} {finish word : List Char} {barred : List (List Char)}
    (hfinish : finish <:+ word) (hbarred : ∀ e ∈ barred, ¬e <:+ word)
    (hwords : ∀ known ∈ rule.words, known.toList ≠ word) (h : rule.applies word = true) :
    rule.meets finish barred = true := by
  cases rule with
  | irregular forms =>
      obtain ⟨form, hform, hword⟩ := List.any_eq_true.mp h
      exact absurd (beq_iff_eq.mp hword) (hwords form.1 (List.mem_map_of_mem hform))
  | uncountable words =>
      obtain ⟨known, hknown, hword⟩ := List.any_eq_true.mp h
      exact absurd (beq_iff_eq.mp hword) (hwords known hknown)
  | ending suffix replacement notAfter fallback =>
      rw [applies, Bool.and_eq_true] at h
      exact meets_suffix hfinish hbarred (List.isSuffixOf_iff_suffix.mp h.1)
  | keep suffix => exact meets_suffix hfinish hbarred (List.isSuffixOf_iff_suffix.mp h)

theorem allowsBefore_eq (excluded before suffix : List Char) :
    allowsBefore excluded suffix (before ++ suffix) =
      before.getLast?.any fun c => !excluded.contains c := by
  rw [allowsBefore, List.length_append, Nat.add_sub_cancel, List.take_left]
  cases before.getLast? <;> rfl

theorem allowsBefore_append {excluded suffix old : List Char} (stem : List Char)
    (hsuffix : suffix <:+ old) (h : allowsBefore excluded suffix old = true) :
    allowsBefore excluded suffix (stem ++ old) = true := by
  obtain ⟨before, rfl⟩ := hsuffix
  rw [allowsBefore_eq] at h
  rw [← List.append_assoc, allowsBefore_eq, List.getLast?_append]
  cases hlast : before.getLast? with
  | none =>
      rw [hlast] at h
      cases h
  | some c => rwa [hlast] at h

theorem allowsBefore_of_admits {excluded suffix old stem : List Char} {barred : List (List Char)}
    {bare : Bool} (hsuffix : suffix <:+ old) (hbarred : ∀ e ∈ barred, ¬e <:+ stem ++ old)
    (hbare : bare = false → stem ≠ []) (h : admits old suffix barred bare excluded = true) :
    allowsBefore excluded suffix (stem ++ old) = true := by
  rw [admits, Bool.or_eq_true] at h
  rcases h with hinside | houtside
  · exact allowsBefore_append stem hsuffix hinside
  · simp only [Bool.and_eq_true, Bool.not_eq_true', beq_iff_eq] at houtside
    obtain ⟨⟨hfalse, rfl⟩, hexcluded⟩ := houtside
    obtain ⟨before, c, rfl⟩ := (List.eq_nil_or_concat' stem).resolve_left (hbare hfalse)
    rw [allowsBefore_eq, List.getLast?_concat, Option.any_some, Bool.not_eq_true']
    rw [← Bool.not_eq_true, List.contains_iff_mem]
    intro hc
    have hmem := List.contains_iff_mem.mp (List.all_eq_true.mp hexcluded c hc)
    exact hbarred _ hmem ⟨before, by simp⟩

theorem replaceEnding_append {suffix replacement old stem : List Char} (hsuffix : suffix <:+ old)
    (hsmall : ∀ c ∈ stem ++ old, c.isLower = true) :
    replaceEnding suffix replacement (stem ++ old) =
      stem ++ replaceEnding suffix replacement old := by
  have hold : ∀ c ∈ old, c.isLower = true := fun c hc => hsmall c (List.mem_append_right _ hc)
  have hkept : (stem ++ old).length - suffix.length + sharedLength suffix replacement =
      stem.length + (old.length - suffix.length + sharedLength suffix replacement) := by
    have hlength := hsuffix.length_le
    rw [List.length_append]
    omega
  simp only [replaceEnding, isShouted_of_isLower hsmall, isShouted_of_isLower hold, hkept,
    List.take_length_add_append, List.append_assoc]

theorem turns_append {rule : Rule} {old new stem : List Char} {barred : List (List Char)}
    {bare : Bool} (h : rule.turns old new barred bare = true)
    (hsmall : ∀ c ∈ stem ++ old, c.isLower = true) (hbarred : ∀ e ∈ barred, ¬e <:+ stem ++ old)
    (hbare : bare = false → stem ≠ []) :
    rule.applies (stem ++ old) = true ∧ rule.change (stem ++ old) = stem ++ new := by
  cases rule with
  | ending suffix replacement notAfter fallback =>
      rw [turns, Bool.and_eq_true, Bool.and_eq_true, beq_iff_eq] at h
      obtain ⟨⟨hends, hnew⟩, hbefore⟩ := h
      have hsuffix := List.isSuffixOf_iff_suffix.mp hends
      refine ⟨?_, hnew ▸ replaceEnding_append hsuffix hsmall⟩
      rw [applies, Bool.and_eq_true]
      refine ⟨List.isSuffixOf_iff_suffix.mpr (hsuffix.trans (List.suffix_append _ _)), ?_⟩
      cases notAfter with
      | none => rfl
      | some excluded => exact allowsBefore_of_admits hsuffix hbarred hbare hbefore
  | _ => cases h

end Rule

def knownWords (rules : List Rule) : List String := rules.flatMap Rule.words

def turnsEnding (rules : List Rule) (old new : List Char) (barred : List (List Char))
    (bare : Bool) : Bool :=
  (rules.find? (·.meets old barred)).any (·.turns old new barred bare)

theorem inflect_of_turnsEnding {rules : List Rule} {old new stem : List Char}
    {barred : List (List Char)} {bare : Bool} (h : turnsEnding rules old new barred bare = true)
    (hne : stem ++ old ≠ []) (hsmall : ∀ c ∈ stem ++ old, c.isLower = true)
    (hbarred : ∀ e ∈ barred, ¬e <:+ stem ++ old) (hbare : bare = false → stem ≠ [])
    (hwords : ∀ known ∈ knownWords rules, known.toList ≠ stem ++ old) :
    (inflect rules (.ofList (stem ++ old))).word = .ofList (stem ++ new) := by
  obtain ⟨rule, hfind, hturns⟩ := (Option.any_eq_true _ _).mp h
  obtain ⟨happlies, hchange⟩ := Rule.turns_append hturns hsmall hbarred hbare
  obtain ⟨-, before, after, hsplit, hearlier⟩ := List.find?_eq_some_iff_append.mp hfind
  have hselect : selectRule rules (stem ++ old) = some rule := by
    rw [selectRule, List.isEmpty_eq_false_iff.mpr hne, lowerChars_of_isLower hsmall,
      if_neg Bool.false_ne_true, List.find?_eq_some_iff_append]
    refine ⟨happlies, before, after, hsplit, fun earlier hmem => ?_⟩
    -- an earlier rule that applied would be meant for the ending
    have hknown : ∀ known ∈ earlier.words, known.toList ≠ stem ++ old := fun known hword =>
      hwords known (List.mem_flatMap.mpr ⟨earlier, by simp [hsplit, hmem], hword⟩)
    have hmeets := mt (Rule.meets_of_applies (List.suffix_append stem old) hbarred hknown)
      (by simpa using hearlier earlier hmem)
    simpa using hmeets
  rw [inflect, String.toList_ofList, hselect]
  dsimp only
  rw [hchange]

/-! ## Endings of words and of their plurals -/

/-- Words that end in `one` and not in `barred`, and are none of `except`, have a plural in `many`
instead.  Unless `bare`, the ending alone is no such word. -/
structure Shape where
  one : List Char
  many : List Char
  barred : List (List Char)
  except : List String
  bare : Bool

namespace Shape

structure Fits (s : Shape) (word : List Char) : Prop where
  ends : s.one <:+ word
  barred : ∀ e ∈ s.barred, ¬e <:+ word
  except : ∀ w ∈ s.except, w.toList ≠ word
  bare : s.bare = false → s.one ≠ word

instance (s : Shape) (word : List Char) : Decidable (s.Fits word) :=
  decidable_of_iff (s.one.isSuffixOf word = true ∧ (∀ e ∈ s.barred, ¬e.isSuffixOf word = true) ∧
    (∀ w ∈ s.except, w.toList ≠ word) ∧ (s.bare = false → s.one ≠ word)) <| by
    simp only [List.isSuffixOf_iff_suffix]
    exact ⟨fun h => ⟨h.1, h.2.1, h.2.2.1, h.2.2.2⟩, fun h => ⟨h.1, h.2, h.3, h.4⟩⟩

def plural (s : Shape) (word : List Char) : List Char :=
  word.take (word.length - s.one.length) ++ s.many

def singular (s : Shape) (word : List Char) : List Char :=
  word.take (word.length - s.many.length) ++ s.one

def barredMany (s : Shape) : List (List Char) :=
  (s.barred.filter (s.one.isSuffixOf ·)).map s.plural

end Shape

def longEndings : List (String × String) :=
  [("matrix", "matrices"), ("vertex", "vertices"), ("index", "indices"), ("apex", "apices"),
   ("codex", "codices")]

def Shape.own (endings : String × String) : Shape where
  one := endings.1.toList
  many := endings.2.toList
  barred := []
  except := []
  bare := true

def Shape.plain : Shape where
  one := []
  many := "s".toList
  barred := "aefhijoqsuvxyz".toList.map ([·]) ++ ["tum", "ium", "curriculum"].map String.toList
  except := ["men", "women", "children", "oxen", "new"]
  bare := false

def Shape.onY : Shape where
  one := "y".toList
  many := "ies".toList
  barred := "movy".toList :: "aeiou".toList.map ([·, 'y'])
  except := ["zomby", "sery", "specy"]
  bare := false

def Shape.onX : Shape where
  one := "x".toList
  many := "xes".toList
  barred := longEndings.map (·.1.toList)
  except := ["ax"]
  bare := true

def shapes : List Shape :=
  .plain :: .onY :: .onX ::
    ([("ch", "ches"), ("sh", "shes"), ("ss", "sses")] ++ longEndings).map .own

theorem shapes_toMany :
    ∀ s ∈ shapes, turnsEnding pluralRules s.one s.many s.barred s.bare = true := by
  decide +kernel

theorem shapes_toOne :
    ∀ s ∈ shapes, turnsEnding singularRules s.many s.one s.barredMany s.bare = true := by
  decide +kernel

theorem shapes_letters :
    ∀ s ∈ shapes, (s.bare = true → s.one ≠ []) ∧ s.many ≠ [] ∧ s.many.all Char.isLower = true := by
  decide

theorem pluralWords_checked :
    ∀ known ∈ knownWords pluralRules, (∃ s ∈ shapes, s.Fits known.toList) →
      singularize (pluralize known) = known := by
  decide +kernel

theorem singularWords_checked :
    ∀ s ∈ shapes, ∀ known ∈ knownWords singularRules, s.many.isSuffixOf known.toList = true →
      s.Fits (s.singular known.toList) →
        String.ofList (s.singular known.toList) ∈ knownWords pluralRules := by
  decide +kernel

namespace Shape

variable {s : Shape} {stem : List Char}

theorem plural_append (s : Shape) (stem : List Char) : s.plural (stem ++ s.one) = stem ++ s.many := by
  rw [plural, List.length_append, Nat.add_sub_cancel, List.take_left]

theorem singular_append (s : Shape) (stem : List Char) :
    s.singular (stem ++ s.many) = stem ++ s.one := by
  rw [singular, List.length_append, Nat.add_sub_cancel, List.take_left]

theorem Fits.not_barredMany (h : s.Fits (stem ++ s.one)) :
    ∀ e ∈ s.barredMany, ¬e <:+ stem ++ s.many := by
  intro e he hends
  obtain ⟨ending, hending, rfl⟩ := List.mem_map.mp he
  obtain ⟨hbarred, hone⟩ := List.mem_filter.mp hending
  obtain ⟨before, rfl⟩ := List.isSuffixOf_iff_suffix.mp hone
  rw [plural_append, List.suffix_append_self_iff] at hends
  exact h.barred _ hbarred (List.suffix_append_self_iff.mpr hends)

theorem Fits.not_known (hs : s ∈ shapes) (h : s.Fits (stem ++ s.one))
    (hunknown : ∀ known ∈ knownWords pluralRules, known.toList ≠ stem ++ s.one) :
    ∀ known ∈ knownWords singularRules, known.toList ≠ stem ++ s.many := by
  intro known hknown hword
  have hfits : s.Fits (s.singular known.toList) := by rwa [hword, singular_append]
  have hends : s.many.isSuffixOf known.toList = true :=
    List.isSuffixOf_iff_suffix.mpr ⟨stem, hword.symm⟩
  have hmem := singularWords_checked s hs known hknown hends hfits
  rw [hword, singular_append] at hmem
  exact hunknown _ hmem String.toList_ofList

theorem Fits.singular_of_plural (hs : s ∈ shapes) {word : String} (h : s.Fits word.toList)
    (hletters : ∀ c ∈ word.toList, c.isLower = true) : singularize (pluralize word) = word := by
  by_cases hknown : word ∈ knownWords pluralRules
  case pos => exact pluralWords_checked word hknown ⟨s, hs, h⟩
  case neg =>
    obtain ⟨hone, hmany, hsmall⟩ := shapes_letters s hs
    obtain ⟨stem, hword⟩ := h.ends
    obtain rfl : word = .ofList (stem ++ s.one) := String.toList_injective (by simp [hword])
    rw [String.toList_ofList] at h hletters
    have hbare : s.bare = false → stem ≠ [] := by
      rintro hfalse rfl
      exact h.bare hfalse rfl
    have hne : stem ++ s.one ≠ [] := by
      cases hcase : s.bare with
      | false => simp [hbare hcase]
      | true => simp [hone hcase]
    have hunknown : ∀ known ∈ knownWords pluralRules, known.toList ≠ stem ++ s.one :=
      fun known hmem hsame => hknown (hsame ▸ String.ofList_toList ▸ hmem)
    have hplural : ∀ c ∈ stem ++ s.many, c.isLower = true := by
      refine List.forall_mem_append.mpr ⟨fun c hc => ?_, List.all_eq_true.mp hsmall⟩
      exact hletters c (List.mem_append_left _ hc)
    have htoMany : pluralize (.ofList (stem ++ s.one)) = .ofList (stem ++ s.many) :=
      inflect_of_turnsEnding (shapes_toMany s hs) hne hletters h.barred hbare hunknown
    rw [htoMany]
    exact inflect_of_turnsEnding (shapes_toOne s hs) (List.append_ne_nil_of_right_ne_nil _ hmany)
      hplural h.not_barredMany hbare (h.not_known hs hunknown)

end Shape

/-! ## Regular nouns -/

/-- Nouns whose plural is regular, by their last letters. -/
inductive Regular (word : String) : Prop where
  | plain (c : Char) (letter : c ∈ "bcdgklnprtw".toList) (ends : word.toList.getLast? = some c)
      (other : word ∉ ["men", "women", "children", "oxen", "new"])
  | onM (ends : endsWith word "m" = true)
      (other : ∀ ending ∈ ["tum", "ium", "curriculum"], endsWith word ending = false)
  | onY (stem : List Char) (c : Char) (consonant : c ∉ "aeiou".toList)
      (ends : word.toList = stem ++ [c, 'y']) (long : endsWith word "movy" = false)
      (other : word ∉ ["zomby", "sery", "specy"])
  | hissing (ending : String) (sound : ending ∈ ["ch", "sh", "ss"])
      (ends : endsWith word ending = true)
  | onX (ends : endsWith word "x" = true) (other : word ≠ "ax")

theorem toList_ne_of_not_mem {word : String} {words : List String} (h : word ∉ words) :
    ∀ w ∈ words, w.toList ≠ word.toList :=
  fun _ hw hsame => h (String.toList_injective hsame ▸ hw)

section

variable {word : String}

theorem suffix_iff_endsWith {ending : String} :
    ending.toList <:+ word.toList ↔ endsWith word ending = true :=
  List.isSuffixOf_iff_suffix.symm

theorem exists_own (endings : String × String)
    (hmem : endings ∈ [("ch", "ches"), ("sh", "shes"), ("ss", "sses")] ++ longEndings)
    (ends : endings.1.toList <:+ word.toList) : ∃ s ∈ shapes, s.Fits word.toList := by
  refine ⟨.own endings, ?_, ends, List.forall_mem_nil _, List.forall_mem_nil _, nofun⟩
  simp only [shapes, List.mem_cons]
  exact .inr (.inr (.inr (List.mem_map_of_mem hmem)))

theorem getLast?_of_suffix {ending : List Char} (h : ending <:+ word.toList) (hne : ending ≠ []) :
    ending.getLast? = word.toList.getLast? := by
  obtain ⟨before, hword⟩ := h
  rw [← hword, List.getLast?_append_of_ne_nil _ hne]

theorem plain_checked :
    (∀ e ∈ Shape.plain.barred, e ≠ [] ∧ e.getLast?.any "bcdgklnprtw".toList.contains = false ∧
      (e.getLast? = some 'm' → e ∈ ["tum", "ium", "curriculum"].map String.toList)) ∧
    ∀ w ∈ Shape.plain.except, w.toList.getLast? ≠ some 'm' := by
  decide

theorem Regular.exists_shape (h : Regular word) : ∃ s ∈ shapes, s.Fits word.toList := by
  cases h with
  | plain c letter ends other =>
      refine ⟨.plain, List.mem_cons_self, ⟨_, List.append_nil _⟩, fun e he hends => ?_,
        toList_ne_of_not_mem other, fun _ hempty => ?_⟩
      · obtain ⟨hne, hlast, -⟩ := plain_checked.1 e he
        rw [getLast?_of_suffix hends hne, ends, Option.any_some,
          List.contains_iff_mem.mpr letter] at hlast
        cases hlast
      · simp [← hempty, Shape.plain] at ends
  | onM ends other =>
      rw [← suffix_iff_endsWith] at ends
      have hlast : word.toList.getLast? = some 'm' := (getLast?_of_suffix ends (by decide)).symm
      refine ⟨.plain, List.mem_cons_self, ⟨_, List.append_nil _⟩, fun e he hends => ?_,
        fun w hw hsame => ?_, fun _ hempty => ?_⟩
      · obtain ⟨hne, -, hlong⟩ := plain_checked.1 e he
        obtain ⟨ending, hending, rfl⟩ :=
          List.mem_map.mp (hlong ((getLast?_of_suffix hends hne).trans hlast))
        rw [suffix_iff_endsWith, other ending hending] at hends
        cases hends
      · exact plain_checked.2 w hw (hsame ▸ hlast)
      · simp [← hempty, Shape.plain] at hlast
  | onY stem c consonant ends long other =>
      refine ⟨.onY, by simp [shapes], ⟨stem ++ [c], by simp [ends, Shape.onY]⟩, ?_,
        toList_ne_of_not_mem other, fun _ hempty => ?_⟩
      · refine List.forall_mem_cons.mpr ⟨fun hends => ?_, fun e he hends => ?_⟩
        · rw [suffix_iff_endsWith, long] at hends
          cases hends
        · obtain ⟨d, hd, rfl⟩ := List.mem_map.mp he
          obtain ⟨before, hbefore⟩ := hends
          obtain rfl : d = c := by simpa using (List.append_inj' (hbefore.trans ends) rfl).2
          exact consonant hd
      · have hlength := congrArg List.length (hempty.trans ends)
        simp [Shape.onY] at hlength
  | hissing ending sound ends =>
      rw [← suffix_iff_endsWith] at ends
      simp only [List.mem_cons, List.not_mem_nil, or_false] at sound
      rcases sound with rfl | rfl | rfl
      · exact exists_own ("ch", "ches") (by simp) ends
      · exact exists_own ("sh", "shes") (by simp) ends
      · exact exists_own ("ss", "sses") (by simp) ends
  | onX ends other =>
      by_cases hlong : ∃ endings ∈ longEndings, endings.1.toList <:+ word.toList
      case pos =>
        obtain ⟨endings, hmem, hends⟩ := hlong
        exact exists_own endings (List.mem_append_right _ hmem) hends
      case neg =>
        refine ⟨.onX, by simp [shapes], suffix_iff_endsWith.mpr ends, ?_,
          toList_ne_of_not_mem (mt List.mem_singleton.mp other), nofun⟩
        intro e he hends
        obtain ⟨endings, hmem, rfl⟩ := List.mem_map.mp he
        exact hlong ⟨endings, hmem, hends⟩

/-- A regular noun in small letters is the singular of its plural. -/
theorem singularize_pluralize (hletters : ∀ c ∈ word.toList, c.isLower = true)
    (h : Regular word) : singularize (pluralize word) = word := by
  obtain ⟨s, hs, hfits⟩ := h.exists_shape
  exact hfits.singular_of_plural hs hletters

theorem category_singularize_pluralize :
    (∀ c ∈ "category".toList, c.isLower = true) ∧ Regular "category" ∧
      singularize (pluralize "category") = "category" := by
  have hletters : ∀ c ∈ "category".toList, c.isLower = true := by simp
  have hregular : Regular "category" :=
    .onY "catego".toList 'r' (by decide) (by decide) (by decide) (by decide)
  exact ⟨hletters, hregular, singularize_pluralize hletters hregular⟩

end

end RecordLoom.Inflection
