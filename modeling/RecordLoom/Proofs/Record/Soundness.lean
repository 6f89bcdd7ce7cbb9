import RecordLoom.Proofs.Naming.Ends
import RecordLoom.Proofs.Record.Build

/-!
# From a schema to printed code

After a schema has been read, nothing can go wrong but a default without a double, or a number with
more digits than a text may have.  Naming keeps only relationships whose ends are found again, so
that building and printing have what they need.
-/

namespace RecordLoom.Record

open RecordLoom.Catalog
open RecordLoom.Code
open RecordLoom.Naming

section

variable (o : Output) {db : Database} {u : CompilationUnit} (h : o.unit db = .ok u)

include h

theorem holds_userVersion :
    u.Holds (.expression (.intLiteral db.userVersion)) := by
  obtain ⟨accessors, records, -, -, rfl⟩ := exists_assemble o h
  refine ⟨_, ?_, .refl⟩
  simp [assemble, CompilationUnit.parts, Output.databaseType, TypeDef.parts, Variable.parts,
    Output.constant]

theorem holds_columnCount {e : Entity} (he : e ∈ db.entities) :
    u.Holds (.expression (.intLiteral e.properties.length)) := by
  obtain ⟨accessors, records, -, hrecords, rfl⟩ := exists_assemble o h
  obtain ⟨d, hd, hrecord⟩ := Entity.exists_of_forall₂ (forall₂_of_mapM hrecords).flip he
  obtain ⟨initializer, -, hrecord⟩ := bind_eq_ok hrecord
  refine ⟨_, List.mem_append_left _ (List.mem_flatMap.mpr ⟨d, List.mem_cons_of_mem _ hd, ?_⟩),
    .refl⟩
  cases hrecord
  simp [TypeDef.parts, nestedParts, Output.schemaType, Output.schemaTypeVariables, Variable.parts,
    Output.constant]

/-- A unit is printed exactly if neither the user version nor a number of columns is too long, as
long as no default is. -/
theorem render_iff_hasShortNumbers
    (hdefaults : ∀ e ∈ db.entities, ∀ p ∈ e.properties, ∀ n, p.default = some (.integer n) →
      Number.isLong n = false) (style : Style) :
    (∃ text, u.render style .swift = .ok text) ↔
      Number.isLong db.userVersion = false ∧
        ∀ e ∈ db.entities, Number.isLong e.properties.length = false := by
  constructor
  · intro hprinted
    rw [← faultOf_eq_none_iff, CompilationUnit.faultOf_render,
      CompilationUnit.fault?_eq_none_iff, ← CompilationUnit.spelledIn_iff] at hprinted
    have hshort := hprinted.2.integers
    exact ⟨hshort _ (holds_userVersion o h) _ List.mem_cons_self,
      fun e he => hshort _ (holds_columnCount o h he) _ List.mem_cons_self⟩
  · rintro ⟨hversion, hcolumns⟩
    exact exists_render o ⟨hversion, hcolumns, hdefaults⟩ h style

end

theorem fancify_endsFound {schema : Schema} {options : Options} {name : String}
    (hnames : schema.objectNames.Nodup) : EndsFound (fancify options schema name) := by
  intro e he r hr
  obtain ⟨destination, -, hfound, -, hsource, htarget⟩ := fancify_ends hnames he hr
  exact requireEnds_ok hfound hsource htarget

theorem fancify_default {schema : Schema} {options : Options} {name : String} {e : Entity}
    (he : e ∈ (fancify options schema name).entities) :
    ∃ before ∈ (Database.ofSchema schema name).entities,
      before.properties.length = e.properties.length ∧
        ∀ p ∈ e.properties, ∃ q ∈ before.properties, q.default = p.default := by
  obtain ⟨before, hbefore, hrefines⟩ :=
    (refine_refined options (Database.ofSchema schema name)).exists_before he
  refine ⟨before, hbefore, hrefines.properties.length_eq, fun p hp => ?_⟩
  have hdefaults : e.properties.map (·.default) = before.properties.map (·.default) :=
    Entity.map_eq_of_forall₂ (fun _ _ h => h.default) hrefines.properties
  have hmem : p.default ∈ before.properties.map (·.default) :=
    hdefaults ▸ List.mem_map_of_mem hp
  exact List.mem_map.mp hmem

theorem hasShortNumbers_of_default {db : Database} (hversion : Number.isLong db.userVersion = false)
    (hcolumns : ∀ e ∈ db.entities, Number.isLong e.properties.length = false)
    (hdefault : ∀ e ∈ db.entities, ∀ p ∈ e.properties, p.default = none) :
    db.HasShortNumbers where
  userVersion := hversion
  columns := hcolumns
  defaults e he p hp n hinteger := by
    rw [hdefault e he p hp] at hinteger
    cases hinteger

theorem fancify_hasShortNumbers {schema : Schema} {options : Options} {name : String}
    (h : (Database.ofSchema schema name).HasShortNumbers) :
    (fancify options schema name).HasShortNumbers where
  userVersion := h.userVersion
  columns e he := by
    obtain ⟨before, hbefore, hlength, -⟩ := fancify_default he
    exact hlength ▸ h.columns before hbefore
  defaults e he p hp n hdefault := by
    obtain ⟨before, hbefore, -, hproperties⟩ := fancify_default he
    obtain ⟨q, hq, hsame⟩ := hproperties p hp
    exact h.defaults before hbefore q hq n (hsame.trans hdefault)

/-- Every relationship of a named model leads to an entity of the model, and the unit of the model
is built, with no variable left undeclared, unless a default has no double.  It is then printed, or
the spelling has no text for something in it; that of Swift has one for everything but integers with
too many digits. -/
theorem fancify_unit_sound (schema : Schema) (options : Options) (name : String) (output : Output)
    (style : Code.Style) (spelling : Code.Spelling) (hnames : schema.objectNames.Nodup) :
    (∀ e ∈ (fancify options schema name).entities, ∀ r ∈ e.relationships,
      ∃ destination ∈ (fancify options schema name).entities,
        (fancify options schema name).entity? r.destination = some destination ∧
        destination.raw = r.destination) ∧
    if (fancify options schema name).overflows then
      output.unit (fancify options schema name) = .error (.conversion .beyondDouble)
    else ∃ u, output.unit (fancify options schema name) = .ok u ∧
      (∀ v ∈ u.stored, v.isTyped = true) ∧
      ((∃ text, u.render style spelling = .ok text) ∨
        ∃ f, u.render style spelling = .error f ∧ u.Unspelled spelling f) ∧
      ((Database.ofSchema schema name).HasShortNumbers →
        ∃ text, u.render style .swift = .ok text) := by
  have hends : EndsFound (fancify options schema name) := fancify_endsFound hnames
  constructor
  · intro e he r hr
    obtain ⟨destination, hmem, hfound, hraw, -⟩ := fancify_ends hnames he hr
    exact ⟨destination, hmem, hfound, hraw⟩
  · have hfault := faultOf_unit_of_endsFound output hends
    cases hunit : output.unit (fancify options schema name) with
    | error failure =>
        rw [hunit, Code.faultOf_error] at hfault
        split at hfault
        case isTrue hoverflows => rw [if_pos hoverflows, Option.some.inj hfault]
        case isFalse => cases hfault
    | ok u =>
        rw [hunit, Code.faultOf_ok] at hfault
        split at hfault
        case isTrue => cases hfault
        case isFalse hfits =>
          rw [if_neg hfits]
          exact ⟨u, rfl, unit_isTyped output hunit,
            (unit_wellFormed output hunit).render_or_unspelled style spelling,
            fun hshort => exists_render output (fancify_hasShortNumbers hshort) hunit style⟩

theorem fancify_fits {schema : Schema} {options : Options} {name : String}
    (h : ∀ e ∈ (Database.ofSchema schema name).entities, ∀ p ∈ e.properties, p.default = none) :
    (fancify options schema name).overflows = false := by
  rw [Bool.eq_false_iff]
  intro hoverflows
  obtain ⟨e, he, hoverflows⟩ := List.any_eq_true.mp hoverflows
  obtain ⟨p, hp, hoverflows⟩ := List.any_eq_true.mp hoverflows
  obtain ⟨n, hdefault, -⟩ := overflows_iff.mp hoverflows
  obtain ⟨before, hbefore, -, hproperties⟩ := fancify_default he
  obtain ⟨q, hq, hsame⟩ := hproperties p hp
  rw [← hsame, h before hbefore q hq] at hdefault
  cases hdefault

theorem exists_fancify_unit {schema : Schema} {options : Options} {name : String}
    (output : Output) (hnames : schema.objectNames.Nodup)
    (h : ∀ e ∈ (Database.ofSchema schema name).entities, ∀ p ∈ e.properties, p.default = none) :
    ∃ u, output.unit (fancify options schema name) = .ok u := by
  have hends : EndsFound (fancify options schema name) := fancify_endsFound hnames
  have hfault := faultOf_unit_of_endsFound output hends
  rwa [fancify_fits h, if_neg Bool.false_ne_true, Code.faultOf_eq_none_iff] at hfault

theorem albumSchema_hasShortNumbers :
    (Database.ofSchema albumSchema "albums").HasShortNumbers :=
  hasShortNumbers_of_default (by decide) (by decide) (by decide)

theorem albumSchema_unit_sound :
    albumSchema.objectNames.Nodup ∧
      ∃ u text, Output.default.unit (fancify .default albumSchema "albums") = .ok u ∧
        u.render .default .swift = .ok text ∧ ∀ v ∈ u.stored, v.isTyped = true := by
  have hnames : albumSchema.objectNames.Nodup := by decide
  have hfits : (fancify .default albumSchema "albums").overflows = false :=
    fancify_fits (by decide)
  have hsound := fancify_unit_sound albumSchema .default "albums" .default .default .swift hnames
  rw [hfits, if_neg Bool.false_ne_true] at hsound
  obtain ⟨-, u, hunit, htyped, -, hprinted⟩ := hsound
  obtain ⟨text, htext⟩ := hprinted albumSchema_hasShortNumbers
  exact ⟨hnames, u, text, hunit, htext, htyped⟩

end RecordLoom.Record
