import RecordLoom.Proofs.Naming.Qualifiers
import RecordLoom.Proofs.Record.Soundness

/-!
# Functions of one name

A call tells functions apart by their name, the labels of their parameters and the types of these.
The functions that follow relationships to one record are always told apart.  Those that follow
relationships to many are called after the plural of a record, and two records can share it.
-/

namespace RecordLoom

open RecordLoom.Catalog
open RecordLoom.Code
open RecordLoom.Entity
open RecordLoom.Naming

namespace Code

def Param.callLabel? (p : Param) : Option String :=
  if p.unlabeled then none else some (p.label.getD p.name)

/-- What a call says of the function that it wants. -/
structure CallForm where
  name : String
  parameters : List (Option String × Node)

def Function.callForm (f : Function) : CallForm :=
  ⟨f.signature.name, f.signature.parameters.map fun p => (p.callLabel?, p.type)⟩

end Code

namespace Record

/-! ## Calls of accessors -/

def findForm (owner : Entity) (r : Relationship) : CallForm :=
  ⟨"find" ++ r.name, [(some (findLabel r), recordNode owner)]⟩

def fetchForm (owner : Entity) (r : Relationship) : CallForm :=
  ⟨"fetch" ++ r.name,
    [(some (fetchLabel r), recordNode owner), (some "limit", .optionalType intNode)]⟩

variable {output : Output} {db : Database}

theorem findFunction_callForm {e : Entity} {r : Relationship} {f : Function}
    (h : output.findFunction db e r = .ok f) : f.callForm = findForm e r := by
  obtain ⟨ends, -, h⟩ := bind_eq_ok h
  cases h
  rfl

theorem fetchFunction_callForm {e : Entity} {r : Relationship} {f : Function}
    (h : output.fetchFunction db e r = .ok f) : f.callForm = fetchForm e r := by
  obtain ⟨ends, -, h⟩ := bind_eq_ok h
  cases h
  rfl

theorem map_callForm_accessorFunctions {functions : List Function}
    (h : output.accessorFunctions db = .ok functions) :
    functions.map (·.callForm) =
      (db.entities.flatMap fun e => e.toOne.map (findForm e)) ++
        db.entities.flatMap fun e => e.toMany.map (fetchForm e) := by
  obtain ⟨finds, hfinds, h⟩ := bind_eq_ok h
  obtain ⟨fetches, hfetches, h⟩ := bind_eq_ok h
  cases h
  have hfinds := map_of_mapM hfinds fun e functions he =>
    map_of_mapM he fun r f hf => findFunction_callForm hf
  have hfetches := map_of_mapM hfetches fun e functions he =>
    map_of_mapM he fun r f hf => fetchFunction_callForm hf
  rw [List.map_append, List.map_flatten, List.map_flatten, hfinds, hfetches]
  rfl

theorem nodup_forms_iff (hrecords : (db.entities.map (·.name)).Nodup)
    {relationships : Entity → List Relationship} {form : Entity → Relationship → CallForm}
    (howner : ∀ e f r s, form e r = form f s → e.name = f.name) :
    (db.entities.flatMap fun e => (relationships e).map (form e)).Nodup ↔
      ∀ e ∈ db.entities, ((relationships e).map (form e)).Nodup := by
  refine List.pairwise_flatMap.trans (and_iff_left ?_)
  refine (List.pairwise_map.mp hrecords).imp fun {e f} hne => ?_
  intro x hx y hy hsame
  obtain ⟨r, -, rfl⟩ := List.mem_map.mp hx
  obtain ⟨s, -, rfl⟩ := List.mem_map.mp hy
  exact hne (howner e f r s hsame)

theorem recordNode_inj {e f : Entity} (h : recordNode e = recordNode f) : e.name = f.name := by
  simpa [recordNode, Node.named] using h

theorem findForm_inj {e f : Entity} {r s : Relationship} (h : findForm e r = findForm f s) :
    e.name = f.name ∧ r.name = s.name := by
  simp only [findForm, CallForm.mk.injEq, String.append_right_inj, List.cons.injEq,
    Prod.mk.injEq] at h
  exact ⟨recordNode_inj h.2.1.2, h.1⟩

theorem fetchForm_inj {e f : Entity} {r s : Relationship} (h : fetchForm e r = fetchForm f s) :
    e.name = f.name ∧ r.name = s.name ∧ fetchLabel r = fetchLabel s := by
  simp only [fetchForm, CallForm.mk.injEq, String.append_right_inj, List.cons.injEq,
    Prod.mk.injEq, Option.some.injEq] at h
  exact ⟨recordNode_inj h.2.1.2, h.1, h.2.1.1⟩

theorem findForm_ne_fetchForm (e f : Entity) (r s : Relationship) :
    findForm e r ≠ fetchForm f s := by
  intro h
  have hname := congrArg (fun form => form.name.toList[1]?) h
  simp [findForm, fetchForm] at hname

/-- What a call says of a relationship to many, if its owner is known. -/
def fetchKey (r : Relationship) : String × String := (r.name, fetchLabel r)

theorem nodup_fetchForms_iff (e : Entity) :
    (e.toMany.map (fetchForm e)).Nodup ↔ (e.toMany.map fetchKey).Nodup := by
  have hfetch : ∀ r s, fetchForm e r = fetchForm e s ↔ fetchKey r = fetchKey s := by
    intro r s
    constructor
    · exact fun h => Prod.ext (fetchForm_inj h).2.1 (fetchForm_inj h).2.2
    · intro h
      obtain ⟨hname, hlabel⟩ := Prod.mk.inj h
      rw [fetchForm, fetchForm, hname, hlabel]
  unfold List.Nodup
  simp only [List.pairwise_map, ne_eq, hfetch]

theorem nodup_callForms_iff {functions : List Function}
    (hfunctions : output.accessorFunctions db = .ok functions)
    (hrecords : (db.entities.map (·.name)).Nodup)
    (htoOne : ∀ e ∈ db.entities, (e.toOne.map (·.name)).Nodup) :
    (functions.map (·.callForm)).Nodup ↔
      ∀ e ∈ db.entities, (e.toMany.map fetchKey).Nodup := by
  have hfinds : (db.entities.flatMap fun e => e.toOne.map (findForm e)).Nodup := by
    refine (nodup_forms_iff hrecords fun e f r s h => (findForm_inj h).1).mpr fun e he => ?_
    refine List.pairwise_map.mpr ((List.pairwise_map.mp (htoOne e he)).imp ?_)
    exact fun hne h => hne (findForm_inj h).2
  have hfetches : (db.entities.flatMap fun e => e.toMany.map (fetchForm e)).Nodup ↔
      ∀ e ∈ db.entities, (e.toMany.map fetchKey).Nodup := by
    rw [nodup_forms_iff hrecords fun e f r s h => (fetchForm_inj h).1]
    simp only [nodup_fetchForms_iff]
  rw [map_callForm_accessorFunctions hfunctions, List.nodup_append, hfetches]
  refine ⟨fun h => h.2.1, fun h => ⟨hfinds, h, ?_⟩⟩
  intro x hx y hy
  obtain ⟨e, -, hx⟩ := List.mem_flatMap.mp hx
  obtain ⟨r, -, rfl⟩ := List.mem_map.mp hx
  obtain ⟨f, -, hy⟩ := List.mem_flatMap.mp hy
  obtain ⟨s, -, rfl⟩ := List.mem_map.mp hy
  exact findForm_ne_fetchForm e f r s

/-! ## Accessors of a named model -/

def backName (e : Entity) : String := Casing.upperFirst (Inflection.pluralize e.name)

theorem extensions_functions {u : CompilationUnit} {functions : List Function}
    (hunit : output.unit db = .ok u) (hfunctions : output.accessorFunctions db = .ok functions) :
    (u.extensions.flatMap (·.functions)) = if output.accessors then functions else [] := by
  obtain ⟨accessors, records, haccessors, -, rfl⟩ := exists_assemble output hunit
  have hsame : accessors = if output.accessors then functions else [] := by
    split at haccessors
    case isTrue hwanted =>
      rw [if_pos hwanted]
      exact Except.ok.inj (haccessors.symm.trans hfunctions)
    case isFalse hunwanted =>
      rw [if_neg hunwanted]
      exact (Except.ok.inj haccessors).symm
  rw [← hsame]
  cases accessors <;> simp [assemble, Output.extensions]

theorem fetchLabel_inj {r s : Relationship} (hr : r.qualifier ≠ some "")
    (hs : s.qualifier ≠ some "") (h : fetchLabel r = fetchLabel s) : r.qualifier = s.qualifier := by
  have hgetD : r.qualifier.getD "" = s.qualifier.getD "" := by
    simpa [fetchLabel] using h
  cases hqr : r.qualifier with
  | none =>
      cases hqs : s.qualifier with
      | none => rfl
      | some t => simp_all
  | some q =>
      cases hqs : s.qualifier with
      | none => simp_all
      | some t => simp_all

variable {schema : Schema} {options : Options} {name : String}

theorem ofSchema_columns
    (hcolumns : ∀ columns ∈ schema.tables.map (·.columns) ++ schema.views.map (·.columns),
      columns.length ≤ 1001) :
    ∀ e ∈ (Database.ofSchema schema name).entities, e.properties.length ≤ 1001 := by
  obtain ⟨htables, hviews⟩ := List.forall_mem_append.mp hcolumns
  refine List.forall_mem_append.mpr ⟨fun e he => ?_, fun e he => ?_⟩
  · obtain ⟨t, ht, rfl⟩ := List.mem_map.mp he
    simpa [Entity.ofObject] using htables _ (List.mem_map_of_mem ht)
  · obtain ⟨v, hv, rfl⟩ := List.mem_map.mp he
    simpa [Entity.ofObject] using hviews _ (List.mem_map_of_mem hv)

/-- Two calls for many records are told apart unless they lead to entities of one plural. -/
theorem fancify_fetchKeys_apart (hnames : schema.objectNames.Nodup)
    (hcolumns : ∀ e ∈ (Database.ofSchema schema name).entities, e.properties.length ≤ 1001)
    (hsuffixes : "" ∉ options.relationshipSuffixes) :
    ∀ e ∈ (fancify options schema name).entities, e.toMany.Pairwise fun r s =>
      fetchKey r = fetchKey s →
        ∃ source ∈ (fancify options schema name).entities,
          ∃ other ∈ (fancify options schema name).entities,
            source.raw = r.destination ∧ other.raw = s.destination ∧ source.raw ≠ other.raw ∧
              backName source = backName other := by
  intro e he
  have hraws : ((Database.ofSchema schema name).entities.map (·.raw)).Nodup := by
    rw [← (refine_refined options (.ofSchema schema name)).raws]
    exact (fancify_raws options schema name).symm ▸ hnames
  refine (refine_toMany_apart hraws hcolumns e he).imp_of_mem fun {r s} hr hs hapart hkey => ?_
  obtain ⟨source, hsource, hdestination, hname, hqualifier⟩ := refine_toMany he hr
  obtain ⟨other, hother, hdestination', hname', hqualifier'⟩ := refine_toMany he hs
  obtain ⟨hsame, hlabel⟩ := Prod.mk.inj hkey
  refine ⟨source, hsource, other, hother, hdestination, hdestination', fun hraw => ?_,
    hname.symm.trans (hsame.trans hname')⟩
  refine hapart (hdestination.symm.trans (hraw.trans hdestination')) ?_
  exact fetchLabel_inj (hqualifier hsuffixes) (hqualifier' hsuffixes) hlabel

/-- The accessors of a named schema are all built, and those to one record are told apart by their
calls.  All are, exactly if no entity has two relationships to many records of one name and label;
two of them come from entities that share a plural, unless the empty suffix is taken off names. -/
theorem fancify_accessors (schema : Schema) (options : Options) (name : String) (output : Output)
    (hnames : schema.objectNames.Nodup)
    (hfew : schema.tables.length + schema.views.length ≤ 500)
    (hcolumns : ∀ columns ∈ schema.tables.map (·.columns) ++ schema.views.map (·.columns),
      columns.length ≤ 1001) :
    let db := fancify options schema name
    ∃ functions, output.accessorFunctions db = .ok functions ∧
      (∀ u, output.unit db = .ok u →
        (u.extensions.flatMap (·.functions)) = if output.accessors then functions else []) ∧
      (∀ e ∈ db.entities, (e.toOne.map (·.name)).Nodup) ∧
      ((functions.map (·.callForm)).Nodup ↔ ∀ e ∈ db.entities, (e.toMany.map fetchKey).Nodup) ∧
      ("" ∉ options.relationshipSuffixes →
        (∀ e ∈ db.entities, e.toMany.Pairwise fun r s => fetchKey r = fetchKey s →
          ∃ source ∈ db.entities, ∃ other ∈ db.entities,
            source.raw = r.destination ∧ other.raw = s.destination ∧ source.raw ≠ other.raw ∧
              backName source = backName other) ∧
        ((db.entities.map backName).Nodup → (functions.map (·.callForm)).Nodup)) := by
  intro db
  obtain ⟨functions, hfunctions⟩ : ∃ functions, output.accessorFunctions db = .ok functions :=
    faultOf_eq_none_iff.mp ((accessorFunctions_ok_iff output).mpr (fancify_endsFound hnames))
  have hcolumns : ∀ e ∈ (Database.ofSchema schema name).entities, e.properties.length ≤ 1001 :=
    ofSchema_columns hcolumns
  have hentities : (Database.ofSchema schema name).entities.length ≤ 500 := by
    simpa [Database.ofSchema] using hfew
  have hdistinct : db.DistinctNames := refine_distinctNames options hentities hcolumns
  have hiff := nodup_callForms_iff hfunctions hdistinct.records hdistinct.toOne
  refine ⟨functions, hfunctions, fun u hunit => extensions_functions hunit hfunctions,
    hdistinct.toOne, hiff, fun hsuffixes => ?_⟩
  have hapart := fancify_fetchKeys_apart hnames hcolumns hsuffixes
  refine ⟨hapart, fun hplurals => hiff.mpr fun e he => ?_⟩
  refine List.pairwise_map.mpr ((hapart e he).imp fun h hkey => ?_)
  obtain ⟨source, hsource, other, hother, -, -, hne, hplural⟩ := h hkey
  exact hne (congrArg (·.raw) (List.inj_on_of_nodup_map hplurals hsource hother hplural))

def baseSchema : Schema :=
  let column (id : Int) (name : String) (primaryKey : Bool) : Column :=
    ⟨id, name, none, false, none, primaryKey⟩
  let key : ForeignKey := ⟨0, 0, "project_id", "project", "id", .noAction, .noAction, .none⟩
  { Schema.empty with
    tables :=
      [⟨"project", "", [column 0 "id" true], []⟩,
       ⟨"base", "", [column 0 "project_id" false], [key]⟩,
       ⟨"basis", "", [column 0 "project_id" false], [key]⟩] }

def keepingPlurals : Options := { Options.default with singularizeRecordNames := false }

theorem baseSchema_shared :
    ¬∀ e ∈ (fancify keepingPlurals baseSchema "works").entities,
      (e.toMany.map fetchKey).Nodup := by
  decide +kernel

/-- A project leads to its bases, of either kind, by two functions that no call tells apart. -/
theorem baseSchema_accessors :
    baseSchema.objectNames.Nodup ∧ baseSchema.tables.length + baseSchema.views.length ≤ 500 ∧
      (∀ columns ∈ baseSchema.tables.map (·.columns) ++ baseSchema.views.map (·.columns),
        columns.length ≤ 1001) ∧
      ∃ functions,
        Output.default.accessorFunctions (fancify keepingPlurals baseSchema "works") =
          .ok functions ∧
          (∀ e ∈ (fancify keepingPlurals baseSchema "works").entities,
            (e.toOne.map (·.name)).Nodup) ∧
          ¬(functions.map (·.callForm)).Nodup := by
  have hnames : baseSchema.objectNames.Nodup := by decide
  have hfew : baseSchema.tables.length + baseSchema.views.length ≤ 500 := by decide
  have hcolumns : ∀ columns ∈ baseSchema.tables.map (·.columns) ++
      baseSchema.views.map (·.columns), columns.length ≤ 1001 := by decide
  obtain ⟨functions, hfunctions, -, htoOne, hiff, -⟩ :=
    fancify_accessors baseSchema keepingPlurals "works" .default hnames hfew hcolumns
  exact ⟨hnames, hfew, hcolumns, functions, hfunctions, htoOne,
    fun hnodup => baseSchema_shared (hiff.mp hnodup)⟩

end Record

end RecordLoom
