import RecordLoom.Proofs.Code.References
import RecordLoom.Proofs.Record.TypeNames

/-!
# Spelling of the types of a unit

The declaration of a type puts a reserved word in quotes, and a type reference does not.  Every
record is named in a type reference, and so is the database in the head of its extension.  Records
are spelled alike throughout as long as their names are capitalized, since no reserved word starts
with a capital.
-/

namespace RecordLoom

open RecordLoom.Casing
open RecordLoom.Catalog
open RecordLoom.Code
open RecordLoom.Entity
open RecordLoom.Naming

namespace Naming

theorem fancify_raised {options : Options} (h : options.capitalizeRecordNames = true)
    (schema : Schema) (name : String) :
    ∀ e ∈ (fancify options schema name).entities, Raised e.name.toList := by
  intro e he
  have hmem : e.name ∈ (fancify options schema name).entities.map (·.name) :=
    List.mem_map_of_mem he
  rw [fancify_names] at hmem
  obtain ⟨wanted, hwanted, hnumbered⟩ := exists_wanted (renameEntities_numbered options _ _) hmem
  obtain ⟨keyed, -, rfl⟩ := List.mem_map.mp hwanted
  exact hnumbered.raised (raised_recordName h keyed.name)

end Naming

namespace Record

theorem not_isReserved_of_raised {name : String} (h : Raised name.toList) :
    Spelling.swift.isReserved name = false := by
  rw [Bool.eq_false_iff]
  intro hreserved
  obtain ⟨c, hc, hlower⟩ := Spelling.exists_of_isReserved hreserved
  exact Text.upperOf_ne_of_isLower hlower (h c hc)

variable {o : Output} {db : Database} {u : CompilationUnit}

theorem holds_recordNode (h : o.unit db = .ok u) {e : Entity} (he : e ∈ db.entities) :
    u.Holds (.type (recordNode e)) := by
  obtain ⟨accessors, records, -, -, rfl⟩ := exists_assemble o h
  let listed := db.entities.map fun e => Node.typeExpression (recordNode e)
  refine ⟨.expression (.arrayExpression listed), ?_, ?_⟩
  · simp [assemble, CompilationUnit.parts, Output.databaseType, TypeDef.parts, Variable.parts,
      Output.constant, listed]
  · exact .head (b := .expression (.typeExpression (recordNode e)))
      (List.mem_map_of_mem (List.mem_map_of_mem he)) (.single List.mem_cons_self)

theorem holds_database (h : o.unit db = .ok u) (hextensions : u.extensions ≠ []) :
    u.Holds (.type (.named db.name)) := by
  obtain ⟨accessors, records, -, -, rfl⟩ := exists_assemble o h
  have haccessors : accessors.isEmpty = false := by
    rw [Bool.eq_false_iff]
    intro hempty
    exact hextensions (by simp [assemble, Output.extensions, hempty])
  refine ⟨.type (.named db.name), ?_, .refl⟩
  simp [assemble, CompilationUnit.parts, Output.extensions, haccessors, Extension.parts]

theorem spellsAlike_iff_of_holds {p : Printer} {text : String} (h : u.Spelled p text)
    {d : TypeDef} (hheld : u.Holds (.type (.named d.name))) :
    u.SpellsAlike p d ↔ p.spelling.isReserved d.name = false := by
  rw [h.alike, ← Bool.not_eq_true]
  exact ⟨fun hfree hreserved => hfree hreserved [] hheld, fun hplain hreserved =>
    absurd hreserved hplain⟩

/-- A unit is printed, unless one of its integers is too long.  In its text, declarations and
expressions put the names of types in quotes if they are reserved words, and type references never
do.  A record is therefore spelled alike throughout exactly if its name is no reserved word, which
holds if record names are capitalized; and so is the database if the unit has an extension. -/
theorem fancify_typeSpelling (schema : Schema) (options : Options) (raw : String) (output : Output)
    (style : Style) {u : CompilationUnit}
    (hunit : output.unit (fancify options schema raw) = .ok u) :
    ((∃ text, u.render style .swift = .ok text) ∨
      ∃ f, u.render style .swift = .error f ∧ u.Unspelled .swift f) ∧
    ∀ text, u.render style .swift = .ok text →
      u.Spelled ⟨style, .swift⟩ text ∧
      (∀ e ∈ (fancify options schema raw).entities, ∀ d ∈ u.structures, d.name = e.name →
        (u.SpellsAlike ⟨style, .swift⟩ d ↔ Spelling.swift.isReserved e.name = false) ∧
        (options.capitalizeRecordNames = true → u.SpellsAlike ⟨style, .swift⟩ d)) ∧
      (u.extensions ≠ [] → ∀ d ∈ u.structures, d.name = options.databaseName raw →
        (u.SpellsAlike ⟨style, .swift⟩ d ↔
          Spelling.swift.isReserved (options.databaseName raw) = false)) := by
  refine ⟨(unit_wellFormed output hunit).render_or_unspelled style .swift, fun text htext => ?_⟩
  have hspelled := CompilationUnit.render_spelled htext
  refine ⟨hspelled, fun e he d _ hname => ?_, fun hextensions d _ hname => ?_⟩
  · have hheld : u.Holds (.type (.named d.name)) := hname ▸ holds_recordNode hunit he
    have halike := spellsAlike_iff_of_holds hspelled hheld
    rw [hname] at halike
    exact ⟨halike, fun hcapital =>
      halike.mpr (not_isReserved_of_raised (fancify_raised hcapital schema raw e he))⟩
  · have hheld : u.Holds (.type (.named d.name)) := hname ▸ holds_database hunit hextensions
    have halike := spellsAlike_iff_of_holds hspelled hheld
    rwa [hname] at halike

/-! ## A record with the name of a reserved word -/

def caseSchema : Schema :=
  { Schema.empty with
    tables :=
      [{ name := "case"
         sql := "CREATE TABLE \"case\" (id INTEGER PRIMARY KEY, title TEXT)"
         columns :=
           [⟨0, "id", some .integer, false, none, true⟩,
            ⟨1, "title", some .text, false, none, false⟩]
         foreignKeys := [] }] }

def smallOptions : Options := { Options.default with capitalizeRecordNames := false }

theorem caseSchema_names :
    (fancify smallOptions caseSchema "court").entities.map (·.name) = ["case"] := by
  decide +kernel

theorem caseSchema_hasShortNumbers : (Database.ofSchema caseSchema "court").HasShortNumbers :=
  hasShortNumbers_of_default (by decide) (by decide) (by decide)

theorem caseSchema_typeSpelling :
    ∃ u text, Output.default.unit (fancify smallOptions caseSchema "court") = .ok u ∧
      u.render .default .swift = .ok text ∧ u.Spelled ⟨.default, .swift⟩ text ∧
      ∃ d ∈ u.structures, d.name = "case" ∧ ¬u.SpellsAlike ⟨.default, .swift⟩ d := by
  have hends : EndsFound (fancify smallOptions caseSchema "court") := fancify_endsFound (by decide)
  have hfault := faultOf_unit_of_endsFound Output.default hends
  rw [fancify_fits (by decide), if_neg Bool.false_ne_true] at hfault
  obtain ⟨u, hunit⟩ := faultOf_eq_none_iff.mp hfault
  obtain ⟨text, htext⟩ := exists_render Output.default
    (fancify_hasShortNumbers caseSchema_hasShortNumbers) hunit .default
  obtain ⟨hspelled, hrecords, -⟩ :=
    (fancify_typeSpelling caseSchema smallOptions "court" .default .default hunit).2 text htext
  refine ⟨u, text, hunit, htext, hspelled, ?_⟩
  have hmem : "case" ∈ (fancify smallOptions caseSchema "court").entities.map (·.name) := by
    simp [caseSchema_names]
  obtain ⟨d, hd, hname⟩ : ∃ d ∈ u.structures, d.name = "case" := by
    rw [← List.mem_map, structures_names hunit]
    exact List.mem_cons_of_mem _ hmem
  obtain ⟨e, he, hcase⟩ := List.mem_map.mp hmem
  refine ⟨d, hd, hname, ?_⟩
  rw [(hrecords e he d hd (hname.trans hcase.symm)).1, hcase]
  decide

end Record

end RecordLoom
