import RecordLoom.Proofs.Casing.Foreign
import RecordLoom.Proofs.Naming.AsciiNames

/-!
# Names that are identifiers

The name of a database is made an identifier last of all.  The names of records and properties are
made identifiers first and then put into their spelling, so that they start as an identifier does
but may hold a character that no identifier holds: a mark from the capital form of the first letter
of a record, or the dot of a dotted capital that a property puts into lower case.
-/

namespace RecordLoom

open RecordLoom.Casing
open RecordLoom.Text

/-! ## Singulars -/

namespace Inflection

theorem foreign_of_spells {cs word : List Char} (h : Spells cs word)
    (hword : ∀ d ∈ word, d.isLower = true) : foreign cs = [] := by
  induction h with
  | nil => rfl
  | cons hc _ ih =>
      obtain ⟨hd, hrest⟩ := List.forall_mem_cons.mp hword
      have hletter := isAlphanumeric_of_isLetter (isLetter_of_lowerOf hc hd)
      rw [foreign_cons_of_identifierChar (by rw [isIdentifierChar, hletter, Bool.true_or]), ih hrest]

theorem foreign_of_isAlpha {cs : List Char} (h : ∀ c ∈ cs, c.isAlpha = true) : foreign cs = [] :=
  foreign_eq_nil_iff.mpr fun c hc => isIdentifierChar_of_isAlpha (h c hc)

theorem foreign_change {cs : List Char} {rule : Rule}
    (h : selectRule singularRules cs = some rule) : foreign (rule.change cs) = foreign cs := by
  obtain ⟨hrule, happlies⟩ := applies_of_selectRule h
  cases rule with
  | uncountable words => rfl
  | keep suffix => rfl
  | ending suffix replacement notAfter fallback =>
      have hsuffix := (singularRules_sought _ hrule suffix (List.mem_singleton_self _)).2
      have hreplacement := singularRules_added _ hrule replacement (List.mem_singleton_self _)
      obtain ⟨before, spelled, added, rfl, hspelled, -, hreplaced, hspells⟩ :=
        exists_replaceEnding h
      have hkept := foreign_of_spells hspells hreplacement
      have hgone := foreign_of_spells hspelled hsuffix
      rw [Rule.change, hreplaced, List.append_assoc, foreign_append, foreign_append before, hkept,
        hgone]
  | irregular forms =>
      obtain ⟨entry, hentry, hword, hchange⟩ := change_irregular happlies
      have hknown : entry.1 ∈ (Rule.irregular forms).sought := List.mem_map_of_mem hentry
      have hform := singularRules_added _ hrule entry.2 (List.mem_map_of_mem hentry)
      have hspells := spells_of_lowerCharsFrom (ascii_of_sought hrule hknown) hword.symm
      rw [hchange, foreign_of_isAlpha (isAlpha_matchSpelling cs hform),
        foreign_of_spells hspells (singularRules_sought _ hrule entry.1 hknown).2]

theorem startsName_change {cs : List Char} {rule : Rule}
    (h : selectRule singularRules cs = some rule) (hcs : StartsName cs) :
    StartsName (rule.change cs) := by
  rcases head?_change h with hsame | ⟨d, hhead, hd⟩
  · exact hcs.of_head? hsame
  · exact ⟨d, hhead, by simp [isLetter_of_isAlpha hd]⟩

section

variable (word : String)

theorem foreign_singularize : foreign (singularize word).toList = foreign word.toList :=
  singularize_induction (P := (foreign · = foreign word.toList)) rfl fun _ => foreign_change

variable {word}

theorem startsName_singularize (h : StartsName word.toList) :
    StartsName (singularize word).toList :=
  singularize_induction h fun _ hrule => startsName_change hrule h

end

end Inflection

namespace Naming

open RecordLoom.Inflection

variable (o : Options)

theorem applyIf_induction {P : String → Prop} {on : Bool} {change : String → String}
    {name : String} (hchange : ∀ name, P name → P (change name)) (h : P name) :
    P (applyIf on change name) := by
  unfold applyIf
  split
  · exact hchange name h
  · exact h

/-! ## Records -/

def Options.cleanedRecord (name : String) : String :=
  toIdentifier (o.replaceCharacters
    (applyIf (o.stripsMark name) (fun name => upperFirst (lowerTail name)) name))

def Options.capitalizedRecord (name : String) : String :=
  applyIf o.capitalizeRecordNames upperFirst (o.cleanedRecord name)

theorem recordName_eq_singularize (name : String) : (o.recordName name).1 =
    applyIf o.singularizeRecordNames singularize
      (applyIf o.camelCaseRecordNames (camelCase ·) (o.capitalizedRecord name)) :=
  recordName_eq name

theorem cleanedRecord_isIdentifier (name : String) : IsIdentifier (o.cleanedRecord name).toList :=
  toIdentifier_isIdentifier _

theorem capitalizedRecord_startsName (name : String) :
    StartsName (o.capitalizedRecord name).toList := by
  refine applyIf_induction (P := fun s => StartsName s.toList) (fun s hs => ?_)
    (isIdentifier_iff.mp (cleanedRecord_isIdentifier o name)).2
  rw [upperFirst, String.toList_ofList]
  exact hs.upperFirstChars

theorem blank_not_mem_capitalizedRecord (name : String) :
    ' ' ∉ (o.capitalizedRecord name).toList := by
  refine applyIf_induction (P := fun s => ' ' ∉ s.toList) (fun s hs => ?_) fun hblank => ?_
  · rw [upperFirst, String.toList_ofList]
    exact blank_not_mem_upperFirstChars hs
  · exact ((cleanedRecord_isIdentifier o name).ne hblank).1 rfl

theorem foreign_capitalizedRecord (name : String) : foreign (o.capitalizedRecord name).toList =
    if o.capitalizeRecordNames then
      foreign (upperChars ((o.cleanedRecord name).toList.take 1)) else [] := by
  have hclean := (isIdentifier_iff.mp (cleanedRecord_isIdentifier o name)).1
  unfold Options.capitalizedRecord applyIf
  split
  case isFalse => exact hclean
  case isTrue =>
    rw [upperFirst, String.toList_ofList]
    cases hcs : (o.cleanedRecord name).toList with
    | nil => rfl
    | cons c rest =>
        have hrest : foreign rest = [] := by
          rw [hcs, foreign_cons, List.append_eq_nil_iff] at hclean
          exact hclean.2
        rw [upperFirstChars_cons, foreign_append, hrest, List.append_nil]
        simp [upperChars]

theorem recordName_startsName (name : String) : StartsName (o.recordName name).1.toList := by
  rw [recordName_eq_singularize]
  refine applyIf_induction (P := fun s => StartsName s.toList)
    (fun _ => startsName_singularize) ?_
  refine applyIf_induction (P := fun s => StartsName s.toList) (fun s hs => ?_)
    (capitalizedRecord_startsName o name)
  rw [camelCase, String.toList_ofList]
  exact hs.camelChars

theorem foreign_recordName (name : String) :
    foreign (o.recordName name).1.toList = foreign (o.capitalizedRecord name).toList := by
  have hcamel : foreign (applyIf o.camelCaseRecordNames (camelCase ·)
      (o.capitalizedRecord name)).toList = foreign (o.capitalizedRecord name).toList := by
    unfold applyIf
    split
    · dsimp only
      rw [camelCase, String.toList_ofList]
      exact foreign_camelChars (blank_not_mem_capitalizedRecord o name)
    · rfl
  rw [recordName_eq_singularize, ← hcamel]
  unfold applyIf
  split
  · exact foreign_singularize _
  · rfl

/-! ## Properties -/

def Options.cleanedProperty (name : String) : String :=
  toIdentifier (o.replaceCharacters (applyIf (o.stripsMark name) lowerTail name))

theorem cleanedProperty_isIdentifier (name : String) :
    IsIdentifier (o.cleanedProperty name).toList :=
  toIdentifier_isIdentifier _

variable {o} in
theorem respelled_induction {P : List Char → Prop} (hfold : ∀ cs, P cs → P (foldRuns [] cs))
    (hlower : ∀ cs, P cs → P (lowerFirstChars cs)) (hcamel : ∀ cs, P cs → P (camelChars false cs))
    {name : String} (h : P name.toList) : P (o.respelled name).toList := by
  have hfolded (s : String) (hs : P s.toList) : P (foldUpperRuns s).toList := by
    rw [foldUpperRuns, String.toList_ofList]
    exact hfold _ hs
  have hlowered (s : String) (hs : P s.toList) : P (lowerFirst s).toList := by
    rw [lowerFirst, String.toList_ofList]
    exact hlower _ hs
  have hspelled : P (applyIf o.decapitalizePropertyNames lowerFirst
      (applyIf o.foldCapitalRuns foldUpperRuns name)).toList :=
    applyIf_induction (P := fun s => P s.toList) hlowered
      (applyIf_induction (P := fun s => P s.toList) hfolded h)
  unfold Options.respelled
  dsimp only
  split
  · refine applyIf_induction (P := fun s => P s.toList) hfolded ?_
    rw [camelCase, String.toList_ofList]
    exact hcamel _ hspelled
  · exact hspelled

theorem propertyName_startsName (name : String) : StartsName (o.propertyName name).toList :=
  respelled_induction (P := StartsName) (fun _ => StartsName.foldRuns)
    (fun _ => StartsName.lowerFirstChars) (fun _ => StartsName.camelChars)
    (isIdentifier_iff.mp (cleanedProperty_isIdentifier o name)).2

theorem dots_propertyName (name : String) :
    dots (o.propertyName name).toList = dots (o.cleanedProperty name).toList := by
  refine respelled_induction (P := fun cs => dots cs = dots (o.cleanedProperty name).toList)
    (fun cs hcs => ?_) (fun cs hcs => ?_) (fun cs hcs => ?_) rfl
  · rw [dots_foldRuns, dots_nil, Nat.zero_add, hcs]
  · rw [dots_lowerFirstChars, hcs]
  · rw [dots_camelChars, hcs]

def IsDottedChar (c : Char) : Prop := isIdentifierChar c = true ∨ c = '\u0307'

theorem isDottedChar_of_mem_lowerOf {c d : Char} (hc : IsDottedChar c) (hd : d ∈ lowerOf c) :
    IsDottedChar d := by
  rcases hc with hc | rfl
  · rcases Bool.or_eq_true_iff.mp hc with halphanumeric | hmark
    · refine (isAlphanumeric_of_mem_lowerOf halphanumeric hd).imp_left fun h => ?_
      rw [isIdentifierChar, h, Bool.true_or]
    · obtain rfl : c = '_' := by simpa using hmark
      exact .inl (List.mem_singleton.mp hd ▸ hc)
  · rw [dotAbove_stays.1, List.mem_singleton] at hd
    exact .inr hd

theorem propertyName_dotted (name : String) :
    ∀ c ∈ (o.propertyName name).toList, IsDottedChar c := by
  have hsigma : IsDottedChar 'Σ' → IsDottedChar 'ς' := fun _ => .inl (by decide +kernel)
  refine respelled_induction (P := fun cs => ∀ c ∈ cs, IsDottedChar c)
    (fun cs hcs => ?_) (fun cs hcs => ?_) (fun cs hcs => ?_)
    fun c hc => .inl ((cleanedProperty_isIdentifier o name).chars c hc)
  · exact forall_mem_foldRuns (fun _ hc _ => isDottedChar_of_mem_lowerOf hc) hsigma
      (List.forall_mem_nil _) hcs
  · cases cs with
    | nil => exact hcs
    | cons c rest =>
        obtain ⟨hc, hrest⟩ := List.forall_mem_cons.mp hcs
        rw [lowerFirstChars_cons]
        exact List.forall_mem_append.mpr ⟨fun _ => isDottedChar_of_mem_lowerOf hc, hrest⟩
  · intro d hd
    rcases List.mem_append.mp hd with hmark | hword
    · exact hcs d ((List.takeWhile_prefix _).mem hmark)
    · obtain ⟨c, hc, -, rfl | ⟨hsmall, rfl⟩⟩ := mem_joinWords hword
      · exact hcs d ((List.dropWhile_suffix _).mem hc)
      · exact .inl (isIdentifierChar_of_isAlpha (upperOf_of_isLower hsmall).2.2.2)

theorem isIdentifierChar_dotAbove : isIdentifierChar '\u0307' = false := by decide +kernel

theorem count_dots_propertyName (name : String) :
    (o.propertyName name).toList.count '\u0307' + (o.propertyName name).toList.count 'İ' =
      (o.cleanedProperty name).toList.count 'İ' := by
  have hnone : (o.cleanedProperty name).toList.count '\u0307' = 0 := by
    refine List.count_eq_zero_of_not_mem fun hmem => ?_
    have hchar := (cleanedProperty_isIdentifier o name).chars _ hmem
    simp [isIdentifierChar_dotAbove] at hchar
  have hdots := dots_propertyName o name
  rwa [dots, dots, hnone, Nat.zero_add] at hdots

theorem foreign_eq_replicate {cs : List Char} (h : ∀ c ∈ cs, IsDottedChar c) :
    foreign cs = List.replicate (cs.count '\u0307') '\u0307' := by
  have hfilter : foreign cs = cs.filter (· == '\u0307') := by
    refine List.filter_congr fun c hc => ?_
    rcases h c hc with hc | rfl
    · have hne : c ≠ '\u0307' := by
        rintro rfl
        exact absurd hc (by simp [isIdentifierChar_dotAbove])
      simp [hc, hne]
    · simp [isIdentifierChar_dotAbove]
  rw [hfilter, List.filter_beq]

/-! ## Derived names -/

/-- How far the names that are derived from a name are identifiers. -/
structure DerivesNames (name : String) : Prop where
  database : o.forcedDatabaseName? = none → IsIdentifier (o.databaseName name).toList
  record_start : StartsName (o.recordName name).1.toList
  record_foreign : foreign (o.recordName name).1.toList =
    if o.capitalizeRecordNames then
      foreign (upperChars ((o.cleanedRecord name).toList.take 1)) else []
  record : IsIdentifier (o.recordName name).1.toList ↔
    (o.capitalizeRecordNames = true →
      ∀ c ∈ (o.cleanedRecord name).toList.head?, ∀ d ∈ upperOf c, isIdentifierChar d = true)
  property_start : StartsName (o.propertyName name).toList
  property_foreign : foreign (o.propertyName name).toList =
    List.replicate ((o.cleanedProperty name).toList.count 'İ' -
      (o.propertyName name).toList.count 'İ') '\u0307'
  property : IsIdentifier (o.propertyName name).toList ↔
    (o.propertyName name).toList.count 'İ' = (o.cleanedProperty name).toList.count 'İ'

/-- Every name that is derived starts as an identifier does.  The one of a database is an
identifier, that of a record is if the capital form of its first character holds no mark, and that
of a property is if it leaves every dotted capital as it is.  -/
theorem derivesNames (name : String) : DerivesNames o name where
  database hforced := by
    rw [databaseName_eq, hforced]
    exact toIdentifier_isIdentifier _
  record_start := recordName_startsName o name
  record_foreign := by rw [foreign_recordName, foreign_capitalizedRecord]
  record := by
    rw [isIdentifier_iff, foreign_recordName, foreign_capitalizedRecord,
      and_iff_left (recordName_startsName o name)]
    cases o.capitalizeRecordNames with
    | false => simp
    | true => cases (o.cleanedRecord name).toList <;> simp [upperChars]
  property_start := propertyName_startsName o name
  property_foreign := by
    have hcount := count_dots_propertyName o name
    rw [foreign_eq_replicate (propertyName_dotted o name), ← hcount, Nat.add_sub_cancel]
  property := by
    have hcount := count_dots_propertyName o name
    rw [isIdentifier_iff, and_iff_left (propertyName_startsName o name),
      foreign_eq_replicate (propertyName_dotted o name), List.replicate_eq_nil_iff]
    omega

example : (Options.default.propertyName "İ").toList = ['i', '\u0307'] := by decide +kernel

end Naming

end RecordLoom
