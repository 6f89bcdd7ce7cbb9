import RecordLoom.Proofs.Code.QuotableComments
import RecordLoom.Proofs.Naming.Qualifiers

/-!
# Harmless names

Identifiers hold no character that ends a comment or a line, and no spelling of one brings such a
character in.  All names that naming derives are therefore harmless, unless the options force one
that is not.
-/

namespace RecordLoom

open RecordLoom.Casing
open RecordLoom.Entity
open RecordLoom.Text

namespace Text

/-! ## Spellings of harmless characters -/

theorem isHarmless_of {p : Char → Bool} (hstar : p '*' = false) (hslash : p '/' = false)
    (hfeed : p '\n' = false) (hreturn : p '\r' = false) {c : Char} (h : p c = true) :
    isHarmless c = true := by
  simp only [isHarmless, Bool.and_eq_true, bne_iff_ne]
  refine ⟨⟨⟨?_, ?_⟩, ?_⟩, ?_⟩ <;> rintro rfl <;> simp_all

theorem isHarmless_of_ascii {c : Char} (h : c.toNat < 128 → isHarmless c = true) :
    isHarmless c = true := by
  by_cases hascii : c.toNat < 128
  · exact h hascii
  · simp only [isHarmless, Bool.and_eq_true, bne_iff_ne]
    refine ⟨⟨⟨?_, ?_⟩, ?_⟩, ?_⟩ <;> rintro rfl <;> exact hascii (by decide)

theorem isHarmless_of_isIdentifierChar {c : Char} (h : isIdentifierChar c = true) :
    isHarmless c = true :=
  isHarmless_of (by decide) (by decide) (by decide) (by decide) h

theorem isHarmless_of_isAlpha {c : Char} (h : c.isAlpha = true) : isHarmless c = true :=
  isHarmless_of (by decide) (by decide) (by decide) (by decide) h

theorem isHarmless_of_isDigit {c : Char} (h : c.isDigit = true) : isHarmless c = true :=
  isHarmless_of (by decide) (by decide) (by decide) (by decide) h

theorem isHarmless_of_isUpper {c : Char} (h : c.isUpper = true) : isHarmless c = true :=
  isHarmless_of (by decide) (by decide) (by decide) (by decide) h

theorem isHarmless_of_isLower {c : Char} (h : c.isLower = true) : isHarmless c = true :=
  isHarmless_of (by decide) (by decide) (by decide) (by decide) h

theorem upperExpansions_harmless :
    ∀ e ∈ upperExpansions, ∀ code ∈ e.2, isHarmless (Char.ofNat code) = true := by
  decide

theorem isHarmless_toUpper {c : Char} (hc : isHarmless c = true) (hascii : c.toNat < 128) :
    isHarmless c.toUpper = true := by
  rcases (asciiForms hascii).capital with hsame | ⟨-, hcapital⟩
  · rwa [hsame]
  · exact isHarmless_of_isUpper hcapital

theorem isHarmless_of_mem_upperOf {c d : Char} (hc : isHarmless c = true) (hd : d ∈ upperOf c) :
    isHarmless d = true := by
  have hform := upperForm c
  generalize upperOf c = form at hform hd
  cases hform with
  | ascii hascii =>
      obtain rfl := List.mem_singleton.mp hd
      exact isHarmless_toUpper hc hascii
  | @expanded e he =>
      obtain ⟨code, hcode, rfl⟩ := List.mem_map.mp hd
      exact upperExpansions_harmless e he code hcode
  | moved _ hs hcovers =>
      obtain rfl := List.mem_singleton.mp hd
      have hcapital := Shift.capital hs hcovers
      exact isHarmless_of_ascii fun hascii => isHarmless_of_isUpper (hcapital.ascii hascii)
  | same =>
      obtain rfl := List.mem_singleton.mp hd
      exact hc

theorem isHarmless_of_mem_lowerOf {c d : Char} (hc : isHarmless c = true) (hd : d ∈ lowerOf c) :
    isHarmless d = true := by
  refine isHarmless_of_ascii fun hascii => ?_
  rcases isLower_of_mem_lowerOf hd hascii with rfl | hlower
  · exact hc
  · exact isHarmless_of_isLower hlower

end Text

namespace Casing

theorem harmless_toIdentifier (s : String) : Harmless (toIdentifier s) := fun c hc =>
  isHarmless_of_isIdentifierChar ((toIdentifier_isIdentifier s).chars c hc)

end Casing

namespace Text.Harmless

variable {s : String} (h : Harmless s)

include h

theorem upperFirst : Harmless (upperFirst s) := by
  rw [Harmless, Casing.upperFirst, String.toList_ofList]
  unfold Harmless at h
  cases hchars : s.toList with
  | nil => exact List.forall_mem_nil _
  | cons c rest =>
      rw [hchars] at h
      obtain ⟨hc, hrest⟩ := List.forall_mem_cons.mp h
      rw [upperFirstChars_cons]
      exact List.forall_mem_append.mpr ⟨fun d => isHarmless_of_mem_upperOf hc, hrest⟩

theorem lowerFirst : Harmless (lowerFirst s) := by
  rw [Harmless, Casing.lowerFirst, String.toList_ofList]
  unfold Harmless at h
  cases hchars : s.toList with
  | nil => exact List.forall_mem_nil _
  | cons c rest =>
      rw [hchars] at h
      obtain ⟨hc, hrest⟩ := List.forall_mem_cons.mp h
      rw [lowerFirstChars_cons]
      exact List.forall_mem_append.mpr ⟨fun d => isHarmless_of_mem_lowerOf hc, hrest⟩

theorem camelCase : Harmless (camelCase s) := by
  intro d hd
  rw [Casing.camelCase, String.toList_ofList] at hd
  rcases List.mem_append.mp hd with hd | hd
  · exact h d ((List.takeWhile_sublist _).mem hd)
  · obtain ⟨c, hc, -, rfl | ⟨hsmall, rfl⟩⟩ := mem_joinWords hd
    · exact h d ((List.dropWhile_sublist _).mem hc)
    · exact isHarmless_toUpper (isHarmless_of_isLower hsmall) (lt_of_isLower hsmall)

theorem foldUpperRuns : Harmless (foldUpperRuns s) := by
  rw [Harmless, Casing.foldUpperRuns, String.toList_ofList]
  refine forall_mem_foldRuns ?_ (fun _ => by decide) (List.forall_mem_nil _) h
  exact fun c hc d => isHarmless_of_mem_lowerOf hc

theorem singularize : Harmless (Inflection.singularize s) := by
  cases hrule : Inflection.selectRule Inflection.singularRules s.toList with
  | none => rwa [Inflection.singularize_of_none hrule]
  | some rule =>
      obtain ⟨count, added, hadded, hchange⟩ := Inflection.exists_change hrule
      rw [Harmless, Inflection.singularize_of_some hrule, String.toList_ofList, hchange]
      refine List.forall_mem_append.mpr ⟨fun c hc => h c (List.mem_of_mem_take hc), ?_⟩
      exact fun c hc => isHarmless_of_isAlpha (hadded c hc)

theorem dropLast (count : Nat) : Harmless (dropLast s count) := by
  rw [Harmless, Text.dropLast, String.toList_ofList]
  exact fun c hc => h c (List.mem_of_mem_take hc)

theorem applyIf (on : Bool) {change : String → String}
    (hchange : ∀ {t : String}, Harmless t → Harmless (change t)) :
    Harmless (Naming.applyIf on change s) := by
  unfold Naming.applyIf
  split
  · exact hchange h
  · exact h

theorem freeName (taken : List String) : Harmless (Naming.freeName s taken) := by
  obtain ⟨digits, hdigits, hsplit⟩ := Naming.freeName_isNumbered s taken
  rw [Harmless, hsplit]
  exact List.forall_mem_append.mpr ⟨h, fun c hc => isHarmless_of_isDigit (hdigits c hc)⟩

end Text.Harmless

/-! ## Derived names -/

structure Database.HarmlessNames (db : Database) : Prop where
  name : Harmless db.name
  records : ∀ e ∈ db.entities, Harmless e.name
  properties : ∀ e ∈ db.entities, ∀ p ∈ e.properties, Harmless p.name
  toOne : ∀ e ∈ db.entities, ∀ r ∈ e.toOne, Harmless r.name

namespace Naming

/-- The names that the options force are harmless. -/
structure Options.ForcesHarmless (o : Options) : Prop where
  database : ∀ name ∈ o.forceDatabaseName, Harmless name
  primaryKey : ∀ name ∈ o.forcePrimaryKeyName, Harmless name

variable {o : Options}

theorem harmless_recordName (name : String) : Harmless (o.recordName name).1 := by
  have hstem : Harmless (o.recordStem name) :=
    ((harmless_toIdentifier _).applyIf _ .upperFirst).applyIf _ .camelCase
  rw [recordName_eq]
  exact hstem.applyIf _ .singularize

theorem harmless_propertyName (name : String) : Harmless (o.propertyName name) := by
  rw [propertyName_eq, Options.respelled]
  have hlower := ((harmless_toIdentifier (o.replaceCharacters
    (applyIf (o.stripsMark name) lowerTail name))).applyIf o.foldCapitalRuns .foldUpperRuns).applyIf
      o.decapitalizePropertyNames .lowerFirst
  split
  · exact hlower.camelCase.applyIf _ .foldUpperRuns
  · exact hlower

theorem harmless_relationshipName {p : Property} (h : Harmless p.name) :
    Harmless (o.relationshipName p) := by
  unfold Options.relationshipName
  dsimp only
  split
  · unfold stripSuffix
    split
    · exact List.forall_mem_nil _
    · exact h.upperFirst.dropLast _
  · exact h.upperFirst

namespace Options.ForcesHarmless

variable (ho : o.ForcesHarmless)

include ho

theorem databaseName (name : String) : Harmless (o.databaseName name) := by
  unfold Options.databaseName
  split
  case h_1 forced hforced =>
    exact ho.database forced (Option.filter_eq_some_iff.mp hforced).1
  case h_2 => exact harmless_toIdentifier _

theorem chosenName (e : Entity) (taken : List String) (p : Property) (others : List Property) :
    Harmless (o.chosenName e taken p others) := by
  unfold Options.chosenName
  split
  · cases hforced : o.forcePrimaryKeyName with
    | none =>
        rw [Options.forcedName, hforced]
        exact List.forall_mem_nil _
    | some forced =>
        rw [Options.forcedName, hforced]
        exact ho.primaryKey forced hforced
  · exact (harmless_propertyName p.name).freeName taken

theorem named (entities : List Entity) :
    ∀ e ∈ o.named entities, Harmless e.name ∧ ∀ p ∈ e.properties, Harmless p.name := by
  intro e he
  obtain ⟨before, -, taken, rfl⟩ := exists_renameEntity o he
  exact ⟨(harmless_recordName before.name).freeName taken.records,
    forall_mem_renameProperties o
      (fun p _ taken others => ho.chosenName before taken p others) [] [] (List.forall_mem_nil _)⟩

end Options.ForcesHarmless

theorem exists_property_of_outgoing {entities : List Entity} {x : Edge}
    (hx : x ∈ (relateAll o entities).1) (hmany : x.relationship.toMany = false) :
    ∃ e ∈ entities, ∃ p ∈ e.properties, x.relationship.source = p.column ∧
      ∃ taken, x.relationship.name = freeName (o.relationshipName p) taken := by
  obtain ⟨edges, hedges, hx⟩ := List.mem_flatMap.mp hx
  obtain ⟨⟨e, position⟩, he, rfl⟩ := List.mem_map.mp hedges
  obtain ⟨state, ⟨p, key⟩, hkeyed, destination, place, target, hx⟩ := mem_relateKeys o entities hx
  have hp : p ∈ e.properties := by
    obtain ⟨q, hq, hkey⟩ := List.mem_filterMap.mp hkeyed
    obtain ⟨key, -, hsame⟩ := Option.map_eq_some_iff.mp hkey
    obtain rfl : q = p := congrArg Prod.fst hsame
    exact hq
  refine ⟨e, List.fst_mem_of_mem_zipIdx he, p, hp, ?_⟩
  rcases List.mem_cons.mp hx with rfl | hx
  · exact ⟨rfl, state.names, rfl⟩
  · split at hx
    · rw [List.mem_singleton.mp hx] at hmany
      cases hmany
    · cases hx

theorem exists_property_of_toOne {db : Database} {e : Entity} (he : e ∈ (refine o db).entities)
    {r : Relationship} (hr : r ∈ e.toOne) :
    ∃ source ∈ o.named db.entities, ∃ p ∈ source.properties, r.source = p.column ∧
      ∃ taken, r.name = freeName (o.relationshipName p) taken := by
  rw [refine_entities] at he
  obtain ⟨before, position, -, rfl⟩ := mem_attach _ he
  rw [toOne_attached] at hr
  obtain ⟨x, hx, rfl⟩ := List.mem_map.mp hr
  obtain ⟨hx, hmany⟩ := List.mem_filter.mp (List.mem_filter.mp hx).1
  unfold Options.edges at hx
  split at hx
  · exact exists_property_of_outgoing hx (by simpa using hmany)
  · cases hx

theorem refine_harmlessNames (ho : o.ForcesHarmless) (db : Database) :
    (refine o db).HarmlessNames where
  name := ho.databaseName db.name
  records := by
    intro e he
    rw [refine_entities] at he
    obtain ⟨before, position, hat, rfl⟩ := mem_attach _ he
    exact (ho.named db.entities before (List.mem_of_getElem? hat)).1
  properties := by
    intro e he
    rw [refine_entities] at he
    obtain ⟨before, position, hat, rfl⟩ := mem_attach _ he
    exact (ho.named db.entities before (List.mem_of_getElem? hat)).2
  toOne := by
    intro e he r hr
    obtain ⟨source, hsource, p, hp, -, taken, hname⟩ := exists_property_of_toOne he hr
    rw [hname]
    exact (harmless_relationshipName ((ho.named db.entities source hsource).2 p hp)).freeName taken

end Naming

end RecordLoom
