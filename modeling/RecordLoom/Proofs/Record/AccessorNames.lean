import RecordLoom.Proofs.Naming.RelationshipNames
import RecordLoom.Proofs.Record.Overloads

/-!
# Names of accessors

A function that follows a relationship is called `find` or `fetch` and after the relationship.  A
relationship without a name leaves it the bare verb.
-/

namespace RecordLoom.Record

open RecordLoom.Catalog
open RecordLoom.Code
open RecordLoom.Entity
open RecordLoom.Naming

def accessorVerbs : List String := ["find", "fetch"]

def IsAccessorName (name : String) : Prop :=
  ∃ verb ∈ accessorVerbs, ∃ relationship, relationship ≠ "" ∧ name = verb ++ relationship

theorem verb_append_inj {verb other name relationship : String} (hverb : verb ∈ accessorVerbs)
    (hother : other ∈ accessorVerbs) (h : verb ++ name = other ++ relationship) :
    name = relationship := by
  have hsecond := congrArg (·.toList[1]?) h
  have hverbs : verb = other := by
    simp only [accessorVerbs, List.mem_cons, List.not_mem_nil, or_false] at hverb hother
    rcases hverb with rfl | rfl <;> rcases hother with rfl | rfl
    · rfl
    · simp at hsecond
    · simp at hsecond
    · rfl
  rw [hverbs] at h
  exact (String.append_right_inj other).mp h

theorem isAccessorName_append_iff {verb name : String} (hverb : verb ∈ accessorVerbs) :
    IsAccessorName (verb ++ name) ↔ name ≠ "" := by
  constructor
  · rintro ⟨other, hother, relationship, hne, hsame⟩
    exact verb_append_inj hverb hother hsame ▸ hne
  · exact fun hne => ⟨verb, hverb, name, hne, rfl⟩

variable {output : Output} {db : Database} {functions : List Function}

theorem names_accessorFunctions (h : output.accessorFunctions db = .ok functions) :
    functions.map (·.signature.name) =
      (db.entities.flatMap fun e => e.toOne.map ("find" ++ ·.name)) ++
        db.entities.flatMap fun e => e.toMany.map ("fetch" ++ ·.name) := by
  have hforms := congrArg (List.map CallForm.name) (map_callForm_accessorFunctions h)
  simpa [List.map_flatMap, Function.comp_def, Function.callForm, findForm, fetchForm] using hforms

theorem forall_isAccessorName_iff (h : output.accessorFunctions db = .ok functions) :
    (∀ f ∈ functions, IsAccessorName f.signature.name) ↔
      ∀ e ∈ db.entities, ∀ r ∈ e.relationships, r.name ≠ "" := by
  have hnames : (∀ f ∈ functions, IsAccessorName f.signature.name) ↔
      ∀ name ∈ functions.map (·.signature.name), IsAccessorName name :=
    List.forall_mem_map.symm
  have hfind : "find" ∈ accessorVerbs := List.mem_cons_self
  have hfetch : "fetch" ∈ accessorVerbs := List.mem_cons_of_mem _ List.mem_cons_self
  rw [hnames, names_accessorFunctions h, List.forall_mem_append]
  simp only [List.forall_mem_flatMap, List.forall_mem_map, isAccessorName_append_iff hfind,
    isAccessorName_append_iff hfetch, ← forall₂_and, forall_mem_relationships]

/-- Relationships are named after their properties and after plurals, and accessors after them.  The
empty suffix, which settings may list, is all that leaves one without a name. -/
theorem fancify_relationshipNames (schema : Schema) (o : Options) (name : String)
    (output : Output) :
    let db := fancify o schema name
    db.NamesRelationships o ∧
      (schema.objectNames.Nodup → ∃ functions, output.accessorFunctions db = .ok functions) ∧
      (∀ functions, output.accessorFunctions db = .ok functions →
        (∀ u, output.unit db = .ok u →
          (u.extensions.flatMap (·.functions)) = if output.accessors then functions else []) ∧
        functions.map (·.signature.name) =
          (db.entities.flatMap fun e => e.toOne.map ("find" ++ ·.name)) ++
            (db.entities.flatMap fun e => e.toMany.map ("fetch" ++ ·.name)) ∧
        ((∀ f ∈ functions, IsAccessorName f.signature.name) ↔
          ∀ e ∈ db.entities, ∀ p ∈ o.followed db e,
            ¬Erases o.relationshipSuffixes (Casing.upperFirst p.name))) ∧
      ∀ suffixes, Settings.readNaming (Settings.suffixSettings suffixes) =
        .ok { Options.default with relationshipSuffixes := suffixes } := by
  intro db
  have hnames : db.NamesRelationships o := fancify_namesRelationships o schema name
  refine ⟨hnames, fun hdistinct => ?built, fun functions hfunctions => ⟨?units, ?listed, ?named⟩,
    Settings.readNaming_suffixSettings⟩
  case built =>
    exact Code.faultOf_eq_none_iff.mp ((accessorFunctions_ok_iff output).mpr
      (fancify_endsFound hdistinct))
  case units => exact fun u hunit => extensions_functions hunit hfunctions
  case listed => exact names_accessorFunctions hfunctions
  case named =>
    rw [forall_isAccessorName_iff hfunctions]
    refine forall₂_congr fun e he => ?_
    have hunnamed := not_congr (hnames.unnamed e he)
    simpa only [not_exists, not_and] using hunnamed

def ownerSchema : Schema :=
  let column (id : Int) (name : String) (primaryKey : Bool) : Column :=
    ⟨id, name, none, false, none, primaryKey⟩
  { Schema.empty with
    tables :=
      [⟨"person", "", [column 0 "id" true], []⟩,
       ⟨"dog", "", [column 0 "owner_id" false],
        [⟨0, 0, "owner_id", "person", "id", .noAction, .noAction, .none⟩]⟩] }

theorem ownerSchema_relationshipNames :
    ownerSchema.objectNames.Nodup ∧ "" ∉ Options.default.relationshipSuffixes ∧
      ∃ functions,
        Output.default.accessorFunctions (fancify .default ownerSchema "pets") = .ok functions ∧
          ∀ f ∈ functions, IsAccessorName f.signature.name := by
  have hdistinct : ownerSchema.objectNames.Nodup := by decide
  have hsuffixes : "" ∉ Options.default.relationshipSuffixes := by decide
  obtain ⟨-, hbuilt, hcalled, -⟩ := fancify_relationshipNames ownerSchema .default "pets" .default
  obtain ⟨functions, hfunctions⟩ := hbuilt hdistinct
  refine ⟨hdistinct, hsuffixes, functions, hfunctions, (hcalled functions hfunctions).2.2.mpr ?_⟩
  exact fun e _ p _ => not_erases hsuffixes _

/-- The empty suffix leaves the way from a dog to its owner without a name. -/
example : ((fancify { Options.default with relationshipSuffixes := [""] } ownerSchema
    "pets").entities.map fun e => e.relationships.map (·.name)) = [["Dogs"], [""]] := by
  decide +kernel

end RecordLoom.Record
