import RecordLoom.Naming.Names
import RecordLoom.Proofs.Inflection.Singular
import RecordLoom.Proofs.Naming.Dedupe

/-!
# Names that stay

The functions that derive names leave their own results as they are, numbered or not, once the name
is an identifier that no replacement and no mark concerns.
-/

namespace RecordLoom.Naming

open RecordLoom.Casing
open RecordLoom.Inflection
open RecordLoom.Text

/-! ## Names with a number -/

def IsNumbered (wanted name : String) : Prop :=
  ∃ digits : List Char, (∀ c ∈ digits, c.isDigit = true) ∧ name.toList = wanted.toList ++ digits

theorem freeName_isNumbered (name : String) (taken : List String) :
    IsNumbered name (freeName name taken) := by
  rcases freeName_eq name taken with hsame | ⟨i, -, hnumbered⟩
  · exact ⟨[], by simp, by simp [hsame]⟩
  · refine ⟨Nat.toDigits 10 i, ?_, ?_⟩
    · exact fun c hc => Nat.isDigit_of_mem_toDigits (by decide) (by decide) hc
    · rw [hnumbered, numbered, String.toList_append, Nat.toString_eq_ofList_toDigits,
        String.toList_ofList]

theorem digit_spelling {c : Char} (h : c.isDigit = true) :
    upperOf c = [c] ∧ lowerOf c = [c] ∧ isUpper c = false ∧ isSeparator c = false ∧
      c.isLower = false :=
  of_ascii (P := fun c => c.isDigit = true → upperOf c = [c] ∧ lowerOf c = [c] ∧
    isUpper c = false ∧ isSeparator c = false ∧ c.isLower = false) (by decide)
    (lt_of_isDigit h) h

namespace IsNumbered

variable {wanted name : String} (hname : IsNumbered wanted name)

include hname

theorem raised (h : Raised wanted.toList) : Raised name.toList := by
  obtain ⟨digits, hdigits, hsplit⟩ := hname
  exact hsplit ▸ h.append fun c hc => (digit_spelling (hdigits c hc)).1

theorem lowered (h : Lowered wanted.toList) : Lowered name.toList := by
  obtain ⟨digits, hdigits, hsplit⟩ := hname
  exact hsplit ▸ h.append fun c hc => (digit_spelling (hdigits c hc)).2.1

theorem folded (h : Folded false wanted.toList) : Folded false name.toList := by
  obtain ⟨digits, hdigits, hsplit⟩ := hname
  exact hsplit ▸ h.append fun c hc => (digit_spelling (hdigits c hc)).2.2.1

theorem joined (h : Joined wanted.toList) : Joined name.toList := by
  obtain ⟨digits, hdigits, hsplit⟩ := hname
  exact hsplit ▸ h.append fun c hc => (digit_spelling (hdigits c hc)).2.2.2.1

theorem singularize_eq {word : String} (hword : wanted = singularize word)
    (hlate : isLatePlural name = false) : singularize name = name := by
  obtain ⟨digits, hdigits, hsplit⟩ := hname
  rcases List.eq_nil_or_concat digits with rfl | ⟨init, c, rfl⟩
  · obtain rfl : name = wanted := String.toList_injective (by simpa using hsplit)
    subst hword
    exact singularize_singularize hlate
  · have hc := digit_spelling (hdigits c (by simp))
    have hpush : name = (String.ofList (wanted.toList ++ init)).push c :=
      String.toList_injective (by simp [hsplit])
    rw [hpush]
    exact singularize_append hc.2.1 hc.2.2.2.2

end IsNumbered

/-! ## Changes that options turn on -/

theorem applyIf_eq_self {on : Bool} {change : String → String} {name : String}
    (h : on = true → change name = name) : applyIf on change name = name := by
  unfold applyIf
  split
  · exact h ‹_›
  · rfl

variable {o : Options}

/-- A name that replacements and marks leave as it is, with what makes an identifier of it. -/
structure Options.Keeps (o : Options) (name : String) : Prop where
  cleaned : toIdentifier (o.replaceCharacters name) = name
  unmarked : o.stripsMark name = false

instance (name : String) : Decidable (o.Keeps name) :=
  decidable_of_iff (toIdentifier (o.replaceCharacters name) = name ∧ o.stripsMark name = false)
    ⟨fun h => ⟨h.1, h.2⟩, fun h => ⟨h.cleaned, h.unmarked⟩⟩

theorem head?_toIdentifier_ne (s : String) : ' ' ∉ (toIdentifier s).toList.head? :=
  fun h => ((toIdentifier_isIdentifier s).ne (List.mem_of_mem_head? h)).1 rfl

/-! ## Records -/

theorem raised_capitalized {name : String} (hblank : ' ' ∉ name.toList.head?) (camel : Bool) :
    Raised (applyIf camel (camelCase ·) (upperFirst name)).toList := by
  have hraised := raised_upperFirstChars name.toList
  unfold applyIf
  split
  case isTrue =>
    dsimp only
    rw [camelCase, upperFirst, String.toList_ofList, String.toList_ofList, Raised,
      head?_camelChars (head?_upperFirstChars_ne hblank)]
    exact hraised
  case isFalse => rwa [upperFirst, String.toList_ofList]

theorem raised_recordStem (h : o.capitalizeRecordNames = true) (name : String) :
    Raised (o.recordStem name).toList := by
  rw [Options.recordStem, h]
  exact raised_capitalized (head?_toIdentifier_ne _) o.camelCaseRecordNames

theorem joined_recordStem (h : o.camelCaseRecordNames = true) (name : String) :
    Joined (o.recordStem name).toList := by
  unfold Options.recordStem
  simp only [applyIf, h, if_true, camelCase, String.toList_ofList]
  exact joined_camelChars false _

theorem recordName_eq (name : String) : (o.recordName name).1 =
    applyIf o.singularizeRecordNames singularize (o.recordStem name) := by
  unfold Options.recordName applyIf
  split <;> rfl

theorem raised_recordName (h : o.capitalizeRecordNames = true) (name : String) :
    Raised (o.recordName name).1.toList := by
  rw [recordName_eq, applyIf]
  split
  · exact raised_singularize (raised_recordStem h name)
  · exact raised_recordStem h name

theorem joined_recordName (h : o.camelCaseRecordNames = true) (name : String) :
    Joined (o.recordName name).1.toList := by
  rw [recordName_eq, applyIf]
  split
  · exact joined_singularize (joined_recordStem h name)
  · exact joined_recordStem h name

theorem recordName_settled {raw name : String} (hname : IsNumbered (o.recordName raw).1 name)
    (hkeeps : o.Keeps name)
    (hlate : o.singularizeRecordNames = true → isLatePlural name = false) :
    (o.recordName name).1 = name := by
  have hmark : applyIf (o.stripsMark name) (fun n => upperFirst (lowerTail n)) name = name :=
    applyIf_eq_self fun hon => by simp [hkeeps.unmarked] at hon
  have hcapital : applyIf o.capitalizeRecordNames upperFirst name = name :=
    applyIf_eq_self fun hon => upperFirst_of_raised (hname.raised (raised_recordName hon raw))
  have hcamel : applyIf o.camelCaseRecordNames (camelCase ·) name = name :=
    applyIf_eq_self fun hon => camelCase_of_joined (hname.joined (joined_recordName hon raw))
  have hstem : o.recordStem name = name := by
    rw [Options.recordStem, hmark, hkeeps.cleaned, hcapital, hcamel]
  rw [recordName_eq name, hstem]
  refine applyIf_eq_self fun hon => ?_
  have hword : (o.recordName raw).1 = singularize (o.recordStem raw) := by
    rw [recordName_eq, applyIf, if_pos hon]
  exact hname.singularize_eq hword (hlate hon)

/-! ## Properties -/

theorem head?_foldUpperRuns (s : String) : (foldUpperRuns s).toList.head? = s.toList.head? := by
  rw [foldUpperRuns, String.toList_ofList, head?_foldRuns]
  rfl

def Options.respelled (o : Options) (name : String) : String :=
  let name := applyIf o.foldCapitalRuns foldUpperRuns name
  let name := applyIf o.decapitalizePropertyNames lowerFirst name
  if o.camelCasePropertyNames then applyIf o.foldCapitalRuns foldUpperRuns (camelCase name)
  else name

theorem propertyName_eq (name : String) : o.propertyName name =
    o.respelled (toIdentifier (o.replaceCharacters (applyIf (o.stripsMark name) lowerTail name))) :=
  rfl

theorem folded_respelled (h : o.foldCapitalRuns = true) (name : String) :
    Folded false (o.respelled name).toList := by
  unfold Options.respelled
  simp only [h, applyIf, if_true]
  split
  case isTrue => exact folded_foldUpperRuns _
  case isFalse =>
    split
    case isTrue =>
      rw [lowerFirst, String.toList_ofList]
      exact (folded_foldUpperRuns name).lowerFirstChars
    case isFalse => exact folded_foldUpperRuns name

theorem joined_respelled (h : o.camelCasePropertyNames = true) (name : String) :
    Joined (o.respelled name).toList := by
  unfold Options.respelled
  simp only [h, if_true, applyIf]
  split
  case isTrue =>
    rw [foldUpperRuns, String.toList_ofList, camelCase, String.toList_ofList]
    exact joined_foldRuns (joined_camelChars false _)
  case isFalse =>
    rw [camelCase, String.toList_ofList]
    exact joined_camelChars false _

theorem head?_applyIf_foldUpperRuns (on : Bool) (s : String) :
    (applyIf on foldUpperRuns s).toList.head? = s.toList.head? := by
  unfold applyIf
  split
  · exact head?_foldUpperRuns s
  · rfl

theorem lowered_respelled (h : o.decapitalizePropertyNames = true) {name : String}
    (hblank : ' ' ∉ name.toList.head?) : Lowered (o.respelled name).toList := by
  have hfold : ' ' ∉ (applyIf o.foldCapitalRuns foldUpperRuns name).toList.head? := by
    rwa [head?_applyIf_foldUpperRuns]
  unfold Options.respelled
  generalize applyIf o.foldCapitalRuns foldUpperRuns name = folded at hfold ⊢
  have hlowered := lowered_lowerFirstChars folded.toList
  rw [h]
  dsimp only [applyIf]
  split
  case isTrue =>
    have hhead := head?_camelChars (head?_lowerFirstChars_ne hfold)
    have hcamel : (camelCase (lowerFirst folded)).toList.head? =
        (lowerFirstChars folded.toList).head? := by
      rw [camelCase, lowerFirst, String.toList_ofList, String.toList_ofList, hhead]
    rw [← applyIf, Lowered, head?_applyIf_foldUpperRuns, if_pos rfl, hcamel]
    exact hlowered
  case isFalse =>
    rw [if_pos rfl, lowerFirst, String.toList_ofList]
    exact hlowered

theorem propertyName_settled {raw name : String} (hname : IsNumbered (o.propertyName raw) name)
    (hkeeps : o.Keeps name) : o.propertyName name = name := by
  rw [propertyName_eq raw] at hname
  have hfold : applyIf o.foldCapitalRuns foldUpperRuns name = name :=
    applyIf_eq_self fun hon => foldUpperRuns_of_folded (hname.folded (folded_respelled hon _))
  have hlower : applyIf o.decapitalizePropertyNames lowerFirst name = name :=
    applyIf_eq_self fun hon =>
      lowerFirst_of_lowered (hname.lowered (lowered_respelled hon (head?_toIdentifier_ne _)))
  have hmark : applyIf (o.stripsMark name) lowerTail name = name :=
    applyIf_eq_self fun hon => by simp [hkeeps.unmarked] at hon
  rw [propertyName_eq name, hmark, hkeeps.cleaned, Options.respelled, hfold, hlower]
  split
  case isTrue hon =>
    rw [camelCase_of_joined (hname.joined (joined_respelled hon _)), hfold]
  case isFalse => rfl

/-! ## Databases -/

theorem dropExtension_of_isIdentifier {s : String} (h : IsIdentifier s.toList) :
    dropExtension s = s := by
  have hstem : s.toList.takeWhile (· != '.') = s.toList :=
    List.takeWhile_eq_self_iff.mpr fun c hc => by simpa using (h.ne hc).2
  unfold dropExtension
  rw [hstem]
  dsimp only
  split
  · rfl
  · exact String.ofList_toList

variable (o) in
def Options.derivedName (name : String) : String :=
  let name := o.replaceCharacters (applyIf o.dropFileExtension dropExtension name)
  let name := applyIf o.capitalizeDatabaseName upperFirst name
  toIdentifier (applyIf o.camelCaseDatabaseName (camelCase ·) name)

theorem joined_derivedName (h : o.camelCaseDatabaseName = true) (name : String) :
    Joined (o.derivedName name).toList := by
  unfold Options.derivedName
  rw [h, toIdentifier, String.toList_ofList]
  refine joined_identifierChars ?_
  dsimp only [applyIf]
  rw [if_pos rfl, camelCase, String.toList_ofList]
  exact joined_camelChars false _

theorem derivedName_settled {raw : String}
    (hreplaced : o.replaceCharacters (o.derivedName raw) = o.derivedName raw)
    (hcapital : o.capitalizeDatabaseName = true →
      upperFirst (o.derivedName raw) = o.derivedName raw) :
    o.derivedName (o.derivedName raw) = o.derivedName raw := by
  have hidentifier : IsIdentifier (o.derivedName raw).toList := toIdentifier_isIdentifier _
  have hjoined : o.camelCaseDatabaseName = true → Joined (o.derivedName raw).toList :=
    fun hon => joined_derivedName hon raw
  generalize o.derivedName raw = name at *
  have hdrop : applyIf o.dropFileExtension dropExtension name = name :=
    applyIf_eq_self fun _ => dropExtension_of_isIdentifier hidentifier
  have hcamel : applyIf o.camelCaseDatabaseName (camelCase ·) name = name :=
    applyIf_eq_self fun hon => camelCase_of_joined (hjoined hon)
  rw [Options.derivedName, hdrop, hreplaced, applyIf_eq_self hcapital, hcamel,
    toIdentifier_of_isIdentifier hidentifier]

variable (o) in
def Options.forcedDatabaseName? : Option String :=
  o.forceDatabaseName.filter fun forced => !forced.isEmpty

theorem databaseName_eq (name : String) :
    o.databaseName name = o.forcedDatabaseName?.getD (o.derivedName name) := by
  rw [Options.databaseName, ← Options.forcedDatabaseName?]
  cases o.forcedDatabaseName? <;> rfl

theorem databaseName_settled {raw name : String} (hname : name = o.databaseName raw)
    (hreplaced : o.forcedDatabaseName? = none → o.replaceCharacters name = name)
    (hcapital : o.forcedDatabaseName? = none → o.capitalizeDatabaseName = true →
      upperFirst name = name) : o.databaseName name = name := by
  subst hname
  rw [databaseName_eq raw] at hreplaced hcapital ⊢
  rw [databaseName_eq]
  cases hforced : o.forcedDatabaseName? with
  | some forced => rfl
  | none =>
      rw [hforced, Option.getD_none] at hreplaced hcapital
      rw [Option.getD_none, Option.getD_none]
      exact derivedName_settled (hreplaced rfl) (hcapital rfl)

end RecordLoom.Naming
