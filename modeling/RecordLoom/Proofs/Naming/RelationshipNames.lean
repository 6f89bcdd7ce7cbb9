import RecordLoom.Proofs.Naming.Primary
import RecordLoom.Proofs.Naming.ValidNames
import RecordLoom.Settings.Sections

/-!
# Names of relationships

A relationship to many is called after the plural of a record, which is never empty.  Those to one
record are named in a row: each key that leads somewhere wants the shortened name of its property
and gets it, or its first free number.  So an entity has a relationship without a name exactly if
one of these keys wants none, and that takes the empty suffix.
-/

namespace RecordLoom

open RecordLoom.Casing
open RecordLoom.Catalog
open RecordLoom.Entity
open RecordLoom.Text

/-! ## Plurals -/

namespace Inflection

theorem upperChars_ne_nil {cs : List Char} (h : cs ≠ []) : upperChars cs ≠ [] := by
  obtain ⟨c, rest, rfl⟩ := List.exists_cons_of_ne_nil h
  exact List.append_ne_nil_of_left_ne_nil (upperOf_ne_nil c) _

namespace Rule

theorem replaceEnding_ne_nil {suffix replacement word : List Char} (hword : word ≠ [])
    (hreplacement : replacement ≠ []) : replaceEnding suffix replacement word ≠ [] := by
  have hlong : 0 < word.length := List.length_pos_iff.mpr hword
  have hpositive : 0 < replacement.length := List.length_pos_iff.mpr hreplacement
  unfold replaceEnding
  dsimp only
  generalize sharedLength suffix replacement = shared
  by_cases hshared : shared < replacement.length
  case pos =>
    have hadded : replacement.drop shared ≠ [] := by simpa using hshared
    refine List.append_ne_nil_of_right_ne_nil _ ?_
    split
    · exact upperChars_ne_nil hadded
    · exact hadded
  case neg =>
    refine List.append_ne_nil_of_left_ne_nil (fun hnone => ?_) _
    have hlength := congrArg List.length hnone
    rw [List.length_take, List.length_nil] at hlength
    omega

theorem change_ne_nil {rule : Rule} {word : List Char} (hword : word ≠ [])
    (hadded : ∀ text ∈ rule.added, text.toList ≠ []) : rule.change word ≠ [] := by
  cases rule with
  | uncountable words => exact hword
  | keep suffix => exact hword
  | ending suffix replacement notAfter fallback =>
      exact replaceEnding_ne_nil hword (hadded replacement (List.mem_singleton_self _))
  | irregular forms =>
      rw [change]
      split
      case h_1 known form hfind =>
        have hform := List.mem_map_of_mem (f := (·.2)) (List.mem_of_find?_eq_some hfind)
        exact matchSpelling_ne_nil word (hadded form hform)
      case h_2 => exact hword

end Rule

theorem pluralForms_ne_nil : ∀ rule ∈ pluralRules, ∀ text ∈ rule.added, text.toList ≠ [] := by
  decide +kernel

theorem pluralize_ne_empty {word : String} (h : word ≠ "") : pluralize word ≠ "" := by
  unfold pluralize inflect
  split
  case h_1 rule hselect =>
    obtain ⟨hword, hfind⟩ := selectRule_eq_some hselect
    have hadded := pluralForms_ne_nil rule (List.mem_of_find?_eq_some hfind)
    intro hempty
    refine Rule.change_ne_nil hword hadded ?_
    simpa using congrArg String.toList hempty
  case h_2 => exact h

end Inflection

namespace Naming

/-! ## Names in a row -/

theorem empty_mem_freeNames_iff {taken wanted : List String} (h : "" ∉ taken) :
    "" ∈ freeNames taken wanted ↔ "" ∈ wanted := by
  induction wanted generalizing taken with
  | nil => simp [freeNames]
  | cons first rest ih =>
      rw [freeNames, List.mem_cons, List.mem_cons]
      by_cases hfirst : first = ""
      case pos =>
        subst hfirst
        simp [dedupe, freeName_of_not_mem h]
      case neg =>
        have hchosen : "" ≠ (dedupe first taken).1 := (freeName_ne_empty hfirst taken).symm
        have hfree : "" ∉ (dedupe first taken).2 := by
          rw [dedupe, mem_claim, not_or]
          exact ⟨hchosen, h⟩
        rw [ih hfree, or_iff_right hchosen, or_iff_right (Ne.symm hfirst)]

variable (o : Options)

/-- The properties of an entity that relationships follow, in order. -/
def Options.followed (db : Database) (e : Entity) : List Property :=
  if o.deriveRelationships then e.properties.filter fun p => (db.linkOf? e p).isSome else []

theorem property_keyReferences {db : Database} {edges : List Edge} {entities : List Entity}
    (hdb : db.entities = attach edges entities) (e : Entity) :
    (keyReferences entities (keyedProperties e)).map (·.property) =
      e.properties.filter fun p => (db.linkOf? e p).isSome := by
  unfold keyReferences keyedProperties
  rw [List.filterMap_filterMap, List.map_filterMap, ← List.filterMap_eq_filter]
  refine List.filterMap_congr fun p _ => ?_
  simp only [Option.guard, linkOf?_attach hdb]
  cases p.foreignKey with
  | none => rfl
  | some key =>
      rw [Option.map_some, Option.bind_some, Option.bind_some]
      cases resolve entities key <;> rfl

variable {o}

/-! ## The named model -/

section

variable {schema : Schema} {name : String} {e : Entity}
  (he : e ∈ (fancify o schema name).entities)

include he

theorem fancify_record_ne_empty : e.name ≠ "" := by
  rw [fancify, refine_entities] at he
  obtain ⟨before, position, hat, rfl⟩ := mem_attach _ he
  obtain ⟨keyed, -, taken, rfl⟩ := exists_renameEntity o (List.mem_of_getElem? hat)
  have hwanted : (o.recordName keyed.name).1 ≠ "" := by
    obtain ⟨c, hc, -⟩ := recordName_startsName o keyed.name
    intro hempty
    simp [hempty] at hc
  exact freeName_ne_empty hwanted taken.records

theorem fancify_upperFirst_ne_empty : ∀ p ∈ e.properties, upperFirst p.name ≠ "" :=
  fun p hp => upperFirst_ne_empty (refine_property_ne_empty he p hp)

theorem fancify_sources :
    e.toOne.map (·.source) = (o.followed (fancify o schema name) e).map (·.column) := by
  unfold Options.followed
  cases hderive : o.deriveRelationships with
  | false => simp [Entity.toOne, fancify_withoutRelationships hderive he]
  | true =>
      have hlinks := congrArg (List.map Link.column) (fancify_toOne hderive he)
      have hsources : (e.toOne.map (Link.of e)).map Link.column = e.toOne.map (·.source) := by
        rw [List.map_map]
        refine List.map_congr_left fun r hr => ?_
        rw [Function.comp_apply, Link.of_toOne (mem_toOne.mp hr).2]
      rw [hsources] at hlinks
      rw [hlinks, if_pos rfl, List.map_filterMap, ← List.filterMap_eq_filter, List.map_filterMap]
      refine List.filterMap_congr fun p _ => ?_
      cases hlink : (fancify o schema name).linkOf? e p with
      | none => simp [hlink, Option.guard]
      | some link =>
          obtain ⟨destination, -, target, -, hends⟩ := Database.linkOf?_eq_some hlink
          have hcolumn : link.column = p.column := congrArg Link.column hends
          simp [hlink, hcolumn, Option.guard]

theorem fancify_toOne_names : e.toOne.map (·.name) =
    freeNames [] ((o.followed (fancify o schema name) e).map o.relationshipName) := by
  unfold Options.followed
  cases hderive : o.deriveRelationships with
  | false => simp [Entity.toOne, fancify_withoutRelationships hderive he, freeNames]
  | true =>
      have hentities : (fancify o schema name).entities = _ := fancify_entities hderive
      have hproperties := property_keyReferences hentities e
      rw [hentities] at he
      obtain ⟨before, position, hat, rfl⟩ := mem_attach _ he
      have hnames := outgoing_names o (o.namedSchema schema name)
        ⟨before, position, keyedProperties before⟩ ⟨[], [], []⟩ (keyedProperties before)
      rw [if_pos rfl, ← hproperties, toOne_attached, outgoing_owned o _ hat, List.map_map,
        List.map_map]
      exact hnames

theorem fancify_toMany_names {r : Relationship} (hr : r ∈ e.toMany) :
    ∃ source ∈ (fancify o schema name).entities, source.raw = r.destination ∧
      r.name = upperFirst (Inflection.pluralize source.name) ∧ r.name ≠ "" := by
  obtain ⟨source, hsource, hraw, hname, -⟩ := refine_toMany he hr
  refine ⟨source, hsource, hraw, hname, hname ▸ ?_⟩
  exact upperFirst_ne_empty (Inflection.pluralize_ne_empty (fancify_record_ne_empty hsource))

theorem fancify_unnamed_iff : (∃ r ∈ e.relationships, r.name = "") ↔
    ∃ p ∈ o.followed (fancify o schema name) e,
      Erases o.relationshipSuffixes (upperFirst p.name) := by
  have hfollowed : ∀ p ∈ o.followed (fancify o schema name) e, p ∈ e.properties := by
    intro p hp
    unfold Options.followed at hp
    split at hp
    · exact (List.mem_filter.mp hp).1
    · cases hp
  have htoOne : (∃ r ∈ e.relationships, r.name = "") ↔ "" ∈ e.toOne.map (·.name) := by
    rw [List.mem_map]
    constructor
    · rintro ⟨r, hr, hname⟩
      cases hmany : r.toMany with
      | false => exact ⟨r, mem_toOne.mpr ⟨hr, hmany⟩, hname⟩
      | true =>
          obtain ⟨-, -, -, -, hne⟩ := fancify_toMany_names he (mem_toMany.mpr ⟨hr, hmany⟩)
          exact absurd hname hne
    · rintro ⟨r, hr, hname⟩
      exact ⟨r, (mem_toOne.mp hr).1, hname⟩
  rw [htoOne, fancify_toOne_names he, empty_mem_freeNames_iff List.not_mem_nil, List.mem_map]
  refine exists_congr fun p => and_congr_right fun hp => ?_
  exact relationshipName_eq_empty_iff (fancify_upperFirst_ne_empty he p (hfollowed p hp))

end

end Naming

/-! ## Suffixes from settings -/

namespace Settings

theorem collect_map_ok {α : Type} (values : List α) : collect (values.map .ok) = .ok values := by
  induction values with
  | nil => rfl
  | cons value rest ih => simp only [List.map_cons, collect, ih]

theorem list_read_texts (texts : List String) :
    (Kind.list Kind.text).read (.arr (texts.map .str)) = .ok texts := by
  have hread : ((texts.map Json.str).zipIdx.map fun x =>
      under (.index x.2) (Kind.text.read x.1)) = texts.map .ok := by
    rw [List.zipIdx_map, List.map_map]
    conv => rhs; rw [← List.zipIdx_map_fst 0 texts, List.map_map]
    rfl
  rw [← collect_map_ok texts, ← hread]
  rfl

theorem readSection_singleton {Section : Type} {model key : String} {fields : List (Field Section)}
    {field : Field Section} {default : Section} {value : Json} {change : Section → Section}
    (hfield : fields.filter (·.key == key) = [field]) (hread : field.read value = .ok change) :
    readSection model fields default (.obj [(key, value)]) = .ok (change default) := by
  have hchanges : (fields.filterMap fun field =>
      (List.lookup field.key [(key, value)]).map fun value =>
        under (.key field.key) (field.read value)) =
      (fields.filter (·.key == key)).map fun field => under (.key field.key) (field.read value) := by
    rw [← List.filterMap_eq_filter, List.map_filterMap]
    refine List.filterMap_congr fun field _ => ?_
    cases hkey : field.key == key <;> simp [hkey, Option.guard, List.lookup_cons]
  rw [readSection, hchanges, hfield, List.map_singleton, hread]
  rfl

def suffixSettings (suffixes : List String) : Json :=
  .obj [("relationship_strip_suffixes", .arr (suffixes.map .str))]

theorem readNaming_suffixSettings (suffixes : List String) :
    readNaming (suffixSettings suffixes) =
      .ok { Naming.Options.default with relationshipSuffixes := suffixes } := by
  let field : Field Naming.Options := .of "relationship_strip_suffixes" (.list .text)
    (·.relationshipSuffixes) fun o v => { o with relationshipSuffixes := v }
  have hfield : namingFields.filter (·.key == "relationship_strip_suffixes") = [field] := rfl
  have hread : field.read (.arr (suffixes.map .str)) =
      .ok fun o => { o with relationshipSuffixes := suffixes } := by
    change ((Kind.list Kind.text).read (.arr (suffixes.map .str))).map _ = _
    rw [list_read_texts]
    rfl
  exact readSection_singleton hfield hread

end Settings

/-! ## The names of a model -/

/-- How the relationships of a model get their names: those to one record in a row, from properties
that are shortened by a suffix, and those to many from plurals.  None is without a name unless the
empty suffix takes off the whole of one. -/
structure Database.NamesRelationships (db : Database) (o : Naming.Options) : Prop where
  sources : ∀ e ∈ db.entities, e.toOne.map (·.source) = (o.followed db e).map (·.column)
  toOne : ∀ e ∈ db.entities,
    e.toOne.map (·.name) = Naming.freeNames [] ((o.followed db e).map o.relationshipName)
  shortened : ∀ e ∈ db.entities, ∀ p ∈ e.properties,
    ¬Naming.Erases o.relationshipSuffixes (upperFirst p.name) →
      Naming.Shortens o.relationshipSuffixes (upperFirst p.name) (o.relationshipName p) ∧
        o.relationshipName p ≠ ""
  erased : ∀ e ∈ db.entities, ∀ p ∈ e.properties,
    Naming.Erases o.relationshipSuffixes (upperFirst p.name) → o.relationshipName p = ""
  toMany : ∀ e ∈ db.entities, ∀ r ∈ e.toMany, ∃ source ∈ db.entities,
    source.raw = r.destination ∧ r.name = upperFirst (Inflection.pluralize source.name) ∧
      r.name ≠ ""
  unnamed : ∀ e ∈ db.entities, (∃ r ∈ e.relationships, r.name = "") ↔
    ∃ p ∈ o.followed db e, Naming.Erases o.relationshipSuffixes (upperFirst p.name)
  named : "" ∉ o.relationshipSuffixes → ∀ e ∈ db.entities, ∀ r ∈ e.relationships, r.name ≠ ""

theorem Naming.fancify_namesRelationships (o : Options) (schema : Schema) (name : String) :
    (fancify o schema name).NamesRelationships o where
  sources _ he := fancify_sources he
  toOne _ he := fancify_toOne_names he
  shortened _ he p hp herases :=
    have hshortens := shortens_relationshipName herases
    ⟨hshortens, hshortens.ne_empty (fancify_upperFirst_ne_empty he p hp)⟩
  erased _ he p hp := relationshipName_of_erases (fancify_upperFirst_ne_empty he p hp)
  toMany _ he _ hr := fancify_toMany_names he hr
  unnamed _ he := fancify_unnamed_iff he
  named hsuffixes e he r hr hname := by
    obtain ⟨p, -, herases⟩ := (fancify_unnamed_iff he).mp ⟨r, hr, hname⟩
    exact not_erases hsuffixes _ herases

end RecordLoom
