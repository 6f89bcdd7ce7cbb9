import RecordLoom.Proofs.Code.Visibility
import RecordLoom.Proofs.Record.Soundness

/-!
# One visibility for a unit

Everything that a unit declares is as visible as its output asks for.  The parts of a unit are built
one by one, and every one of them states its visibility anew.
-/

namespace RecordLoom.Record

open RecordLoom.Code
open RecordLoom.Entity
open RecordLoom.Naming

variable (o : Output)

/-! ## Records -/

theorem statementVariables_visibility (e : Entity) (s : Statements) :
    ∀ v ∈ o.statementVariables e s, v.visibility = o.visibility := by
  have hselect : ∀ v ∈ o.selectVariables e s, v.visibility = o.visibility := by
    simp [Output.selectVariables, Output.indexConstant, Output.constant]
  have hupdate : ∀ v ∈ o.updateVariables e s, v.visibility = o.visibility :=
    forall_mem_withStatement fun sql => by
      simp [Output.rowStatement, Output.parameterIndices, Output.indexConstant, Output.constant]
  have hinsert : ∀ v ∈ o.insertVariables e s, v.visibility = o.visibility :=
    forall_mem_withStatement fun sql => forall_mem_withStatement fun returning => by
      simp [Output.rowStatement, Output.parameterIndices, Output.indexConstant, Output.constant]
  have hdelete : ∀ v ∈ o.deleteVariables e s, v.visibility = o.visibility :=
    forall_mem_withStatement fun sql => by
      simp [Output.rowStatement, Output.parameterIndices, Output.indexConstant, Output.constant]
  exact forall_mem_statementVariables o hselect hupdate hinsert hdelete

theorem schemaTypeVariables_visibility (e : Entity) :
    ∀ v ∈ o.schemaTypeVariables e, v.visibility = o.visibility := by
  have hcreation : ∀ v ∈ o.creationVariables e, v.visibility = o.visibility :=
    forall_mem_withStatement fun sql => by simp [Output.constant]
  intro v hv
  simp only [Output.schemaTypeVariables, List.mem_append, List.mem_cons, List.not_mem_nil,
    or_false] at hv
  rcases hv with ((rfl | rfl) | hv) | hv
  · rfl
  · rfl
  · exact hcreation v hv
  · exact statementVariables_visibility o e _ v hv

theorem schemaType_isUniform (e : Entity) : (o.schemaType e).IsUniform o.visibility where
  visibility := rfl
  nested := nofun
  typeVariables := schemaTypeVariables_visibility o e
  instanceVariables := by
    intro v hv
    obtain ⟨slot, -, rfl⟩ := List.mem_map.mp hv
    rfl
  computed := nofun
  functions := by simp [Output.schemaType]

theorem initializer_visibility {e : Entity} {f : Function} (h : o.initializer e = .ok f) :
    f.signature.visibility = o.visibility := by
  obtain ⟨parameters, -, h⟩ := bind_eq_ok h
  cases h
  rfl

theorem recordType_isUniform {db : Database} {e : Entity} {d : TypeDef}
    (h : o.recordType db e = .ok d) : d.IsUniform o.visibility := by
  obtain ⟨initializer, hinitializer, h⟩ := bind_eq_ok h
  cases h
  constructor
  case visibility => rfl
  case nested =>
    intro inner hinner
    rw [List.mem_singleton.mp hinner]
    exact TypeDef.isUniform_iff.mp (schemaType_isUniform o e)
  case typeVariables => simp [Output.recordTypeVariables, Output.constant]
  case instanceVariables =>
    intro v hv
    obtain ⟨p, -, rfl⟩ := List.mem_map.mp hv
    rfl
  case computed =>
    dsimp only [Output.idProperty]
    split
    · split <;> simp
    · simp
  case functions =>
    intro f hf
    simp only [List.mem_append, List.mem_cons, List.not_mem_nil, or_false] at hf
    rcases hf with (rfl | rfl) | hf
    · exact initializer_visibility o hinitializer
    · rfl
    · split at hf
      · cases hf
      · rw [List.mem_singleton.mp hf]
        rfl

theorem databaseType_isUniform (db : Database) : (o.databaseType db).IsUniform o.visibility where
  visibility := rfl
  nested := nofun
  typeVariables := by simp [Output.databaseType, Output.constant]
  instanceVariables := by simp [Output.databaseType]
  computed := nofun
  functions := by simp [Output.databaseType, Output.databaseInitializer]

/-! ## Accessors -/

theorem findFunction_visibility {db : Database} {owner : Entity} {r : Relationship} {f : Function}
    (h : o.findFunction db owner r = .ok f) : f.signature.visibility = o.visibility := by
  obtain ⟨ends, -, h⟩ := bind_eq_ok h
  cases h
  rfl

theorem fetchFunction_visibility {db : Database} {owner : Entity} {r : Relationship} {f : Function}
    (h : o.fetchFunction db owner r = .ok f) : f.signature.visibility = o.visibility := by
  obtain ⟨ends, -, h⟩ := bind_eq_ok h
  cases h
  rfl

theorem accessorFunctions_visibility {db : Database} {accessors : List Function}
    (h : o.accessorFunctions db = .ok accessors) :
    ∀ f ∈ accessors, f.signature.visibility = o.visibility := by
  intro f hf
  rcases accessor_cases o h hf with ⟨e, -, r, -, hfind⟩ | ⟨e, -, r, -, hfetch⟩
  · exact findFunction_visibility o hfind
  · exact fetchFunction_visibility o hfetch

/-! ## Units -/

theorem assemble_visibility {db : Database} {accessors : List Function} {records : List TypeDef}
    (haccessors : ∀ f ∈ accessors, f.signature.visibility = o.visibility)
    (hrecords : ∀ d ∈ records, d.IsUniform o.visibility) :
    ∀ v ∈ (assemble o db accessors records).visibilities, v = o.visibility := by
  intro v hv
  obtain ⟨declaration, hdeclaration, hv⟩ := List.mem_flatMap.mp hv
  simp only [CompilationUnit.declarations, assemble, List.map_nil, List.nil_append,
    List.mem_append, List.mem_map, List.mem_cons] at hdeclaration
  rcases hdeclaration with ⟨d, rfl | hd, rfl⟩ | ⟨e, he, rfl⟩
  · exact TypeDef.isUniform_iff.mp (databaseType_isUniform o db) v hv
  · exact TypeDef.isUniform_iff.mp (hrecords d hd) v hv
  · obtain rfl := mem_extensions o he
    simp only [Declaration.visibilities, Extension.visibilities, nestedVisibilities,
      List.cons_append, List.nil_append, List.mem_cons, List.mem_map] at hv
    rcases hv with rfl | ⟨f, hf, rfl⟩
    · rfl
    · exact haccessors f hf

theorem visibilities_of_unit {db : Database} {u : CompilationUnit} (h : o.unit db = .ok u) :
    ∀ v ∈ u.visibilities, v = o.visibility := by
  obtain ⟨accessors, records, haccessors, hrecords, rfl⟩ := exists_assemble o h
  apply assemble_visibility
  case haccessors => exact forall_mem_wanted o haccessors (accessorFunctions_visibility o)
  case hrecords =>
    intro d hd
    obtain ⟨e, -, he⟩ := mem_of_mapM hrecords hd
    exact recordType_isUniform o he

/-- A unit is built unless a default has no double, and all of its declarations are public or all
are internal, as the output asks for.  It is printed unless one of its integers is too long.  A word
that the text had of a visibility or of inlining would change with its spelling: an internal unit
has the same text under all spellings of these words.  For what is internal there is no word at all.
-/
theorem unit_visibility (db : Database) (style : Style) (hends : EndsFound db) :
    (db.overflows = true → o.unit db = .error (.conversion .beyondDouble)) ∧
      (db.overflows = false → ∃ u, o.unit db = .ok u ∧
        (∀ v ∈ u.visibilities, v = if o.isPublic then .isPublic else .isInternal) ∧
        ((∃ text, u.render style .swift = .ok text) ∨
          ∃ f, u.render style .swift = .error f ∧ u.Unspelled .swift f) ∧
        (o.isPublic = false →
          ∀ m : Marks, u.render style (Spelling.swift.marking m) = u.render style .swift)) := by
  have hfault := faultOf_unit_of_endsFound o hends
  constructor
  · intro hoverflows
    rw [if_pos hoverflows, faultOf_eq_some_iff] at hfault
    exact hfault
  · intro hfits
    rw [hfits, if_neg Bool.false_ne_true, faultOf_eq_none_iff] at hfault
    obtain ⟨u, hu⟩ := hfault
    have hvisible := visibilities_of_unit o hu
    refine ⟨u, hu, ?_, (unit_wellFormed o hu).render_or_unspelled style .swift,
      fun hinternal m => ?_⟩
    · rwa [Output.visibility] at hvisible
    · have hwanted : o.visibility = .isInternal := by simp [Output.visibility, hinternal]
      exact CompilationUnit.render_marking (hwanted ▸ hvisible) style .swift m

theorem albumSchema_visibility :
    EndsFound (fancify .default albumSchema "albums") ∧
      ∃ u, Output.unit { Output.default with isPublic := false }
          (fancify .default albumSchema "albums") = .ok u ∧
        (∀ v ∈ u.visibilities, v = .isInternal) ∧
        ∃ text, u.render .default .swift = .ok text ∧
          ∀ m : Marks, u.render .default (Spelling.swift.marking m) = .ok text := by
  have hends : EndsFound (fancify .default albumSchema "albums") :=
    fancify_endsFound (by decide)
  have hfits : (fancify .default albumSchema "albums").overflows = false :=
    fancify_fits (by decide)
  obtain ⟨u, hu, hvisible, -, hsame⟩ := (unit_visibility { Output.default with isPublic := false }
    (fancify .default albumSchema "albums") .default hends).2 hfits
  obtain ⟨text, htext⟩ := exists_render { Output.default with isPublic := false }
    (fancify_hasShortNumbers albumSchema_hasShortNumbers) hu .default
  exact ⟨hends, u, hu, hvisible, text, htext, fun m => (hsame rfl m).trans htext⟩

end RecordLoom.Record
