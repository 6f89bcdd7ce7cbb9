import RecordLoom.Proofs.Naming.StableNames

/-!
# Names in ASCII

Every spelling of an identifier in ASCII is one again.  With options that do nothing to identifiers,
a model with names in ASCII therefore keeps the names that it is given, but for late plurals and a
database name that starts with a small letter.
-/

namespace RecordLoom

open RecordLoom.Casing
open RecordLoom.Catalog
open RecordLoom.Entity
open RecordLoom.Text

namespace Casing

/-! ## Identifiers in ASCII -/

structure IsPlain (c : Char) : Prop where
  ascii : c.toNat < 128
  char : isIdentifierChar c = true

structure IsPlainFirst (c : Char) : Prop where
  ascii : c.toNat < 128
  char : (isLetter c || c = '_') = true

instance (c : Char) : Decidable (IsPlain c) :=
  decidable_of_iff (c.toNat < 128 ∧ isIdentifierChar c = true)
    ⟨fun h => ⟨h.1, h.2⟩, fun h => ⟨h.ascii, h.char⟩⟩

instance (c : Char) : Decidable (IsPlainFirst c) :=
  decidable_of_iff (c.toNat < 128 ∧ (isLetter c || c = '_') = true)
    ⟨fun h => ⟨h.1, h.2⟩, fun h => ⟨h.ascii, h.char⟩⟩

theorem IsPlain.of_isDigit {c : Char} (h : c.isDigit = true) : IsPlain c :=
  of_ascii (P := fun c => c.isDigit = true → IsPlain c) (by decide) (lt_of_isDigit h) h

theorem plain_of_isAlpha {c : Char} (h : c.isAlpha = true) : IsPlain c ∧ IsPlainFirst c :=
  of_ascii (P := fun c => c.isAlpha = true → IsPlain c ∧ IsPlainFirst c) (by decide)
    (lt_of_isAlpha h) h

theorem IsPlain.upperOf {c : Char} (h : IsPlain c) :
    upperOf c = [c.toUpper] ∧ IsPlain c.toUpper ∧ (IsPlainFirst c → IsPlainFirst c.toUpper) := by
  have hupper : Text.upperOf c = [c.toUpper] := if_pos h.ascii
  rcases (asciiForms h.ascii).capital with hsame | ⟨-, hcapital⟩
  · exact ⟨hupper, hsame.symm ▸ h, fun hfirst => hsame.symm ▸ hfirst⟩
  · obtain ⟨hplain, hfirst⟩ := plain_of_isAlpha (Bool.or_eq_true_iff.mpr (.inl hcapital))
    exact ⟨hupper, hplain, fun _ => hfirst⟩

theorem IsPlain.lowerOf {c : Char} (h : IsPlain c) :
    lowerOf c = [c.toLower] ∧ IsPlain c.toLower ∧ (IsPlainFirst c → IsPlainFirst c.toLower) := by
  have hlower : Text.lowerOf c = [c.toLower] := if_pos h.ascii
  rcases (asciiForms h.ascii).small with hsame | ⟨-, -, -, hsmall⟩
  · exact ⟨hlower, hsame.symm ▸ h, fun hfirst => hsame.symm ▸ hfirst⟩
  · obtain ⟨hplain, hfirst⟩ := plain_of_isAlpha (Bool.or_eq_true_iff.mpr (.inr hsmall))
    exact ⟨hlower, hplain, fun _ => hfirst⟩

structure IsPlainName (cs : List Char) : Prop where
  chars : ∀ c ∈ cs, IsPlain c
  first : ∃ c ∈ cs.head?, IsPlainFirst c

theorem identifierChars_isPlainName {cs : List Char} (h : ∀ c ∈ cs, c.toNat < 128) :
    IsPlainName (identifierChars cs) := by
  have hidentifier := identifierChars_isIdentifier cs
  have hascii : ∀ c ∈ identifierChars cs, c.toNat < 128 := by
    unfold identifierChars
    split
    case h_1 => exact List.forall_iff_forall_mem.mp (by decide)
    case h_2 c rest hkept =>
      have hrest : ∀ d ∈ c :: rest, d.toNat < 128 := by
        rw [← hkept]
        exact fun d hd => h d (List.mem_filter.mp hd).1
      split
      case isTrue => exact hrest
      case isFalse => exact List.forall_mem_cons.mpr ⟨by decide, hrest⟩
  refine ⟨fun c hc => ⟨hascii c hc, hidentifier.chars c hc⟩, ?_⟩
  obtain ⟨c, rest, hsplit, hfirst⟩ := hidentifier.first
  exact ⟨c, by rw [hsplit]; rfl, hascii c (by rw [hsplit]; exact List.mem_cons_self), hfirst⟩

namespace IsPlainName

variable {cs : List Char} (h : IsPlainName cs)

include h

theorem isIdentifier : IsIdentifier cs := by
  obtain ⟨c, hc, hfirst⟩ := h.first
  obtain ⟨rest, rfl⟩ := List.head?_eq_some_iff.mp hc
  exact ⟨fun d hd => (h.chars d hd).char, c, rest, rfl, hfirst.char⟩

theorem of_head? {ds : List Char} (hchars : ∀ d ∈ ds, IsPlain d) (hhead : ds.head? = cs.head?) :
    IsPlainName ds :=
  ⟨hchars, hhead ▸ h.first⟩

theorem not_blank : ' ' ∉ cs.head? :=
  fun hblank => (h.isIdentifier.ne (List.mem_of_mem_head? hblank)).1 rfl

theorem upperFirstChars : IsPlainName (upperFirstChars cs) := by
  obtain ⟨c, hc, hfirst⟩ := h.first
  obtain ⟨rest, rfl⟩ := List.head?_eq_some_iff.mp hc
  obtain ⟨hplain, hrest⟩ := List.forall_mem_cons.mp h.chars
  obtain ⟨hupper, hchar, hstarts⟩ := hplain.upperOf
  rw [upperFirstChars_cons, hupper]
  exact ⟨List.forall_mem_cons.mpr ⟨hchar, hrest⟩, _, rfl, hstarts hfirst⟩

theorem lowerFirstChars : IsPlainName (lowerFirstChars cs) := by
  obtain ⟨c, hc, hfirst⟩ := h.first
  obtain ⟨rest, rfl⟩ := List.head?_eq_some_iff.mp hc
  obtain ⟨hplain, hrest⟩ := List.forall_mem_cons.mp h.chars
  obtain ⟨hlower, hchar, hstarts⟩ := hplain.lowerOf
  rw [lowerFirstChars_cons, hlower]
  exact ⟨List.forall_mem_cons.mpr ⟨hchar, hrest⟩, _, rfl, hstarts hfirst⟩

theorem camelChars : IsPlainName (camelChars false cs) := by
  refine h.of_head? ?_ (head?_camelChars h.not_blank)
  intro d hd
  rcases List.mem_append.mp hd with hd | hd
  · exact h.chars d ((List.takeWhile_sublist _).mem hd)
  · obtain ⟨c, hc, -, rfl | ⟨-, rfl⟩⟩ := mem_joinWords hd
    · exact h.chars d ((List.dropWhile_sublist _).mem hc)
    · exact (h.chars c ((List.dropWhile_sublist _).mem hc)).upperOf.2.1

theorem foldRuns : IsPlainName (foldRuns [] cs) := by
  refine h.of_head? ?_ (head?_foldRuns [] cs)
  refine forall_mem_foldRuns ?_ (fun hsigma => ?_) (List.forall_mem_nil _) h.chars
  · intro c hc d hd
    obtain ⟨hlower, hchar, -⟩ := hc.lowerOf
    rw [hlower, List.mem_singleton] at hd
    exact hd ▸ hchar
  · exact absurd hsigma.ascii (by decide)

theorem append {more : List Char} (hmore : ∀ c ∈ more, IsPlain c) : IsPlainName (cs ++ more) := by
  refine h.of_head? (List.forall_mem_append.mpr ⟨h.chars, hmore⟩) ?_
  obtain ⟨c, hc, -⟩ := h.first
  obtain ⟨rest, rfl⟩ := List.head?_eq_some_iff.mp hc
  rfl

end IsPlainName

theorem IsPlainName.upperFirst {s : String} (h : IsPlainName s.toList) :
    IsPlainName (upperFirst s).toList := by
  rw [Casing.upperFirst, String.toList_ofList]
  exact h.upperFirstChars

theorem IsPlainName.lowerFirst {s : String} (h : IsPlainName s.toList) :
    IsPlainName (lowerFirst s).toList := by
  rw [Casing.lowerFirst, String.toList_ofList]
  exact h.lowerFirstChars

theorem IsPlainName.camelCase {s : String} (h : IsPlainName s.toList) :
    IsPlainName (camelCase s).toList := by
  rw [Casing.camelCase, String.toList_ofList]
  exact h.camelChars

theorem IsPlainName.foldUpperRuns {s : String} (h : IsPlainName s.toList) :
    IsPlainName (foldUpperRuns s).toList := by
  rw [Casing.foldUpperRuns, String.toList_ofList]
  exact h.foldRuns

end Casing

/-! ## Singulars -/

namespace Inflection

theorem isPlainName_change {cs : List Char} {rule : Rule}
    (h : selectRule singularRules cs = some rule) (hcs : IsPlainName cs) :
    IsPlainName (rule.change cs) := by
  obtain ⟨count, added, hadded, hchange⟩ := exists_change h
  have hchars : ∀ c ∈ rule.change cs, IsPlain c := by
    rw [hchange]
    refine List.forall_mem_append.mpr ⟨?_, fun c hc => (plain_of_isAlpha (hadded c hc)).1⟩
    exact fun c hc => hcs.chars c (List.mem_of_mem_take hc)
  rcases head?_change h with hsame | ⟨d, hhead, hd⟩
  · exact hcs.of_head? hchars hsame
  · exact ⟨hchars, d, hhead, (plain_of_isAlpha hd).2⟩

theorem isPlainName_singularize {word : String} (h : IsPlainName word.toList) :
    IsPlainName (singularize word).toList :=
  singularize_induction h fun _ hrule => isPlainName_change hrule h

end Inflection

/-! ## Replacements -/

namespace Text

theorem replaceFrom_eq_self {pattern image cs : List Char} {c : Char} (hc : c ∈ pattern)
    (h : c ∉ cs) : replaceFrom pattern image 0 cs = cs := by
  induction cs with
  | nil => rfl
  | cons d rest ih =>
      have hfound : pattern.isPrefixOf (d :: rest) = false := by
        rw [Bool.eq_false_iff]
        exact fun hstart => h ((List.isPrefixOf_iff_prefix.mp hstart).mem hc)
      rw [replaceFrom, hfound, ih fun hmem => h (List.mem_cons_of_mem _ hmem)]
      rfl

theorem replaceChars_eq_self {pattern image cs : List Char} {c : Char} (hc : c ∈ pattern)
    (h : c ∉ cs) : replaceChars pattern image cs = cs := by
  rw [replaceChars, if_neg, replaceFrom_eq_self hc h]
  simpa using List.ne_nil_of_mem hc

theorem mem_replaceFrom {pattern image cs : List Char} {skip : Nat} {d : Char}
    (h : d ∈ replaceFrom pattern image skip cs) : d ∈ image ∨ d ∈ cs := by
  induction cs generalizing skip with
  | nil => cases skip <;> cases h
  | cons c rest ih =>
      have hlater {skip : Nat} (h : d ∈ replaceFrom pattern image skip rest) :
          d ∈ image ∨ d ∈ c :: rest :=
        (ih h).imp_right (List.mem_cons_of_mem c)
      cases skip with
      | succ skip => exact hlater h
      | zero =>
          rw [replaceFrom] at h
          split at h
          case isTrue =>
            rcases List.mem_append.mp h with h | h
            · exact .inl h
            · exact hlater h
          case isFalse =>
            rcases List.mem_cons.mp h with rfl | h
            · exact .inr List.mem_cons_self
            · exact hlater h

theorem mem_replaceChars {pattern image cs : List Char} {d : Char}
    (h : d ∈ replaceChars pattern image cs) : d ∈ image ∨ d ∈ cs := by
  unfold replaceChars at h
  split at h
  case isTrue =>
    rcases List.mem_append.mp h with h | h
    · exact .inl h
    · obtain ⟨c, hc, hd⟩ := List.mem_flatMap.mp h
      rcases List.mem_cons.mp hd with rfl | hd
      · exact .inr hc
      · exact .inl hd
  case isFalse => exact mem_replaceFrom h

end Text

namespace Naming

open RecordLoom.Inflection

variable {o : Options}

def IsAscii (s : String) : Prop := ∀ c ∈ s.toList, c.toNat < 128

theorem isPlainName_applyIf (on : Bool) {change : String → String} {name : String}
    (hchange : ∀ {s : String}, IsPlainName s.toList → IsPlainName (change s).toList)
    (h : IsPlainName name.toList) : IsPlainName (applyIf on change name).toList := by
  unfold applyIf
  split
  · exact hchange h
  · exact h

structure Options.IsPlain (o : Options) : Prop where
  replaced : ∀ r ∈ o.replacements, ∃ c ∈ r.1.toList, isIdentifierChar c = false
  ascii : ∀ r ∈ o.replacements, IsAscii r.2
  unmarked : o.stripCoreDataMark = false
  unforced : o.forcedName = ""

theorem default_isPlain : Options.default.IsPlain where
  replaced := List.forall_iff_forall_mem.mp
    ⟨⟨' ', by decide, by decide⟩, ⟨'-', by decide, by decide⟩, ⟨'/', by decide, by decide⟩⟩
  ascii := by simp [Options.default, IsAscii]
  unmarked := rfl
  unforced := rfl

namespace Options.IsPlain

variable (ho : o.IsPlain)

include ho

theorem replaceCharacters_eq_self {name : String} (h : IsIdentifier name.toList) :
    o.replaceCharacters name = name := by
  rw [Options.replaceCharacters]
  have hreplaced := ho.replaced
  generalize o.replacements = replacements at hreplaced ⊢
  induction replacements with
  | nil => rfl
  | cons r rest ih =>
      obtain ⟨⟨c, hc, hother⟩, hrest⟩ := List.forall_mem_cons.mp hreplaced
      have hnot : c ∉ name.toList := fun hmem => by simp [h.chars c hmem] at hother
      have hsame : replace r.1 r.2 name = name := by
        rw [replace, replaceChars_eq_self hc hnot, String.ofList_toList]
      rw [List.foldl_cons]
      dsimp only
      rw [hsame]
      exact ih hrest

theorem isAscii_replaceCharacters {name : String} (h : IsAscii name) :
    IsAscii (o.replaceCharacters name) := by
  rw [Options.replaceCharacters]
  have hascii := ho.ascii
  generalize o.replacements = replacements at hascii ⊢
  induction replacements generalizing name with
  | nil => exact h
  | cons r rest ih =>
      obtain ⟨hr, hrest⟩ := List.forall_mem_cons.mp hascii
      rw [List.foldl_cons]
      refine ih ?_ hrest
      intro c hc
      dsimp only at hc
      rw [replace, String.toList_ofList] at hc
      rcases mem_replaceChars hc with hc | hc
      · exact hr c hc
      · exact h c hc

theorem not_stripsMark (name : String) : o.stripsMark name = false := by
  rw [Options.stripsMark, ho.unmarked, Bool.false_and, Bool.false_and]

theorem keeps {name : String} (h : IsPlainName name.toList) : o.Keeps name where
  cleaned := by
    rw [ho.replaceCharacters_eq_self h.isIdentifier, toIdentifier_of_isIdentifier h.isIdentifier]
  unmarked := ho.not_stripsMark name

theorem isPlainName_toIdentifier {name : String} (h : IsAscii name) :
    IsPlainName (toIdentifier (o.replaceCharacters name)).toList := by
  rw [toIdentifier, String.toList_ofList]
  exact identifierChars_isPlainName (ho.isAscii_replaceCharacters h)

theorem isPlainName_recordName {name : String} (h : IsAscii name) :
    IsPlainName (o.recordName name).1.toList := by
  have hidentifier := ho.isPlainName_toIdentifier h
  have hstem : IsPlainName (o.recordStem name).toList := by
    rw [Options.recordStem, ho.not_stripsMark name]
    exact isPlainName_applyIf _ .camelCase (isPlainName_applyIf _ .upperFirst hidentifier)
  rw [recordName_eq]
  exact isPlainName_applyIf _ isPlainName_singularize hstem

theorem isPlainName_propertyName {name : String} (h : IsAscii name) :
    IsPlainName (o.propertyName name).toList := by
  have hidentifier := ho.isPlainName_toIdentifier h
  rw [propertyName_eq, ho.not_stripsMark name, Options.respelled]
  have hlower := isPlainName_applyIf o.decapitalizePropertyNames .lowerFirst
    (isPlainName_applyIf o.foldCapitalRuns .foldUpperRuns hidentifier)
  split
  case isTrue => exact isPlainName_applyIf _ .foldUpperRuns hlower.camelCase
  case isFalse => exact hlower

end Options.IsPlain

end Naming

/-! ## Models -/

open RecordLoom.Naming

structure Entity.IsAscii (e : Entity) : Prop where
  name : Naming.IsAscii e.name
  properties : ∀ p ∈ e.properties, Naming.IsAscii p.name

namespace Naming

open RecordLoom.Inflection

variable {o : Options}

theorem keyed_isAscii {entities : List Entity} (h : ∀ e ∈ entities, e.IsAscii) :
    ∀ e ∈ o.keyed entities, e.IsAscii := by
  intro e he
  have hlabels : labels e ∈ (o.keyed entities).map labels := List.mem_map_of_mem he
  rw [labels_keyed] at hlabels
  obtain ⟨before, hbefore, hsame⟩ := List.mem_map.mp hlabels
  have hname : before.name = e.name := congrArg (·.1.name) hsame
  have hproperties : before.properties.map (·.name) = e.properties.map (·.name) :=
    congrArg (·.1.properties) hsame
  refine ⟨hname ▸ (h before hbefore).name, fun p hp => ?_⟩
  have hmem : p.name ∈ before.properties.map (·.name) :=
    hproperties ▸ List.mem_map_of_mem hp
  obtain ⟨q, hq, hqname⟩ := List.mem_map.mp hmem
  exact hqname ▸ (h before hbefore).properties q hq

theorem isPlainName_freeName {wanted : String} (h : IsPlainName wanted.toList)
    (taken : List String) : IsPlainName (freeName wanted taken).toList := by
  obtain ⟨digits, hdigits, hsplit⟩ := freeName_isNumbered wanted taken
  exact hsplit ▸ h.append fun c hc => .of_isDigit (hdigits c hc)

namespace Options.IsPlain

variable (ho : o.IsPlain)

include ho

theorem not_forces (e : Entity) (p : Property) : o.forces e p = false := by
  rw [Options.forces, ho.unforced]
  rfl

theorem chosenName_eq (e : Entity) (taken : List String) (p : Property) (others : List Property) :
    o.chosenName e taken p others = freeName (o.propertyName p.name) taken := by
  rw [Options.chosenName, if_neg]
  rw [takesForcedName_iff, ho.not_forces e p]
  exact fun h => Bool.false_ne_true h.1

theorem isPlainName_renameProperties {e : Entity} (he : e.IsAscii) :
    ∀ p ∈ renameProperties o e [] [] e.properties, IsPlainName p.name.toList := by
  refine forall_mem_renameProperties o (P := (IsPlainName ·.toList))
    (fun p hp taken others => ?_) [] [] (List.forall_mem_nil _)
  rw [ho.chosenName_eq]
  exact isPlainName_freeName (ho.isPlainName_propertyName (he.properties p hp)) taken

theorem keepsEntity_renameEntity {taken : Taken} {e f : Entity} (he : e.IsAscii)
    (hname : f.name = freeName (o.recordName e.name).1 taken.records)
    (hproperties : f.properties = renameProperties o e [] [] e.properties)
    (hlate : o.singularizeRecordNames = true → isLatePlural f.name = false) : o.KeepsEntity f where
  name := by
    rw [hname]
    exact ho.keeps (isPlainName_freeName (ho.isPlainName_recordName he.name) _)
  singular := hlate
  properties := by
    refine ⟨fun p hp => .inr (ho.keeps ?_), fun p hp hforces => ?_⟩
    · rw [hproperties] at hp
      exact ho.isPlainName_renameProperties he p hp
    · exact absurd hforces (by simp [ho.not_forces])

/-- A model with names in ASCII keeps the names that it is given, but for late plurals and a
database name that starts with a small letter. -/
theorem refine_sameNames {db : Database} (hdb : ∀ e ∈ db.entities, e.IsAscii)
    (hcapital : o.forcedDatabaseName? = none → o.capitalizeDatabaseName = true →
      upperFirst (refine o db).name = (refine o db).name)
    (hlate : o.singularizeRecordNames = true →
      ∀ e ∈ (refine o db).entities, isLatePlural e.name = false) :
    (refine o db).SameNames (refine o (refine o db)) := by
  refine Naming.refine_sameNames ⟨fun hforced => ?_, hcapital, fun e he => ?_⟩
  · refine ho.replaceCharacters_eq_self ?_
    have hname : (refine o db).name = o.databaseName db.name := rfl
    rw [hname, databaseName_eq, hforced, Option.getD_none]
    exact toIdentifier_isIdentifier _
  · have hsingular := fun hon => hlate hon e he
    rw [refine_entities] at he
    obtain ⟨before, position, hat, rfl⟩ := mem_attach _ he
    obtain ⟨keyed, hkeyed, taken, rfl⟩ := exists_renameEntity o (List.mem_of_getElem? hat)
    exact ho.keepsEntity_renameEntity (keyed_isAscii hdb keyed hkeyed) rfl rfl hsingular

end Options.IsPlain

/-- Names in ASCII are settled by the first run of the default settings, with the same two
exceptions. -/
theorem default_sameNames {db : Database} (hdb : ∀ e ∈ db.entities, e.IsAscii)
    (hcapital : upperFirst (refine .default db).name = (refine .default db).name)
    (hlate : ∀ e ∈ (refine .default db).entities, isLatePlural e.name = false) :
    (refine .default db).SameNames (refine .default (refine .default db)) :=
  default_isPlain.refine_sameNames hdb (fun _ _ => hcapital) fun _ => hlate

end Naming

end RecordLoom
