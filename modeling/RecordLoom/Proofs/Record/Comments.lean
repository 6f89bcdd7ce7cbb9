import RecordLoom.Proofs.Naming.HarmlessNames
import RecordLoom.Proofs.Record.Soundness

/-!
# Comments of a unit

The comments of a unit say derived names, which are harmless, and quote the texts of the schema as
they are.  So they are enclosed if these texts may be quoted: names, declared types and defaults on
one line, statements in several.
-/

namespace RecordLoom

open RecordLoom.Catalog
open RecordLoom.Code
open RecordLoom.Entity
open RecordLoom.Naming
open RecordLoom.Text

/-! ## Texts of a schema -/

structure Catalog.Column.IsQuotable (c : Column) : Prop where
  name : Quotable c.name
  type : ∀ type ∈ c.type, Quotable type.spelling
  default : Quotable (Record.defaultNote c.default)

/-- The texts of a schema that comments quote. -/
structure Catalog.Schema.IsQuotable (schema : Schema) : Prop where
  names : ∀ name ∈ schema.objectNames, Quotable name
  tables : ∀ t ∈ schema.tables, Passage t.sql ∧ ∀ c ∈ t.columns, c.IsQuotable
  views : ∀ v ∈ schema.views, Passage v.sql ∧ ∀ c ∈ v.columns, c.IsQuotable
  indices : ∀ entry ∈ schema.indices, ∀ index ∈ entry.2, Passage index.sql
  triggers : ∀ entry ∈ schema.triggers, ∀ trigger ∈ entry.2, Passage trigger.sql

structure Entity.Property.IsQuotable (p : Property) : Prop where
  column : Quotable p.column
  type : ∀ type ∈ p.columnType, Quotable type.spelling
  default : Quotable (Record.defaultNote p.default)

/-- The texts of an entity that comments quote. -/
structure Entity.IsQuotable (e : Entity) : Prop where
  raw : Quotable e.raw
  sql : Passage e.sql
  indexSql : ∀ sql ∈ e.indexSql, Passage sql
  triggerSql : ∀ sql ∈ e.triggerSql, Passage sql
  properties : ∀ p ∈ e.properties, p.IsQuotable

theorem Entity.Property.Refines.isQuotable {before after : Property} (h : before.Refines after)
    (hbefore : before.IsQuotable) : after.IsQuotable where
  column := h.column ▸ hbefore.column
  type := h.columnType ▸ hbefore.type
  default := h.default ▸ hbefore.default

theorem Entity.Refines.isQuotable {before after : Entity} (h : before.Refines after)
    (hbefore : before.IsQuotable) : after.IsQuotable where
  raw := h.raw ▸ hbefore.raw
  sql := h.sql ▸ hbefore.sql
  indexSql := h.indexSql ▸ hbefore.indexSql
  triggerSql := h.triggerSql ▸ hbefore.triggerSql
  properties := by
    intro p hp
    obtain ⟨i, hi, rfl⟩ := List.mem_iff_getElem.mp hp
    have hlength := h.properties.length_eq
    exact (h.properties.get (by omega) hi).isQuotable
      (hbefore.properties _ (List.getElem_mem (by omega)))

theorem Catalog.Groups.exists_of_mem {α : Type} {groups : Groups α} {key : String} {value : α}
    (h : value ∈ groups.group key) : ∃ entry ∈ groups, value ∈ entry.2 := by
  unfold Groups.group at h
  cases hlookup : groups.lookup key with
  | none => simp [hlookup] at h
  | some values =>
      rw [hlookup] at h
      exact ⟨_, lookup_mem hlookup, h⟩

namespace Catalog.Schema.IsQuotable

variable {schema : Schema} (h : schema.IsQuotable)

include h

theorem ofObject {kind : Kind} {name sql : String} {columns : List Column}
    {keys : List ForeignKey} (hname : Quotable name) (hsql : Passage sql)
    (hcolumns : ∀ c ∈ columns, c.IsQuotable) :
    (Entity.ofObject schema kind name sql columns keys).IsQuotable where
  raw := hname
  sql := hsql
  indexSql := by
    intro text htext
    obtain ⟨index, hindex, rfl⟩ := List.mem_map.mp (List.mem_filter.mp htext).1
    obtain ⟨entry, hentry, hindex⟩ := Groups.exists_of_mem hindex
    exact h.indices entry hentry index hindex
  triggerSql := by
    intro text htext
    obtain ⟨trigger, htrigger, rfl⟩ := List.mem_map.mp (List.mem_filter.mp htext).1
    obtain ⟨entry, hentry, htrigger⟩ := Groups.exists_of_mem htrigger
    exact h.triggers entry hentry trigger htrigger
  properties := by
    intro p hp
    obtain ⟨c, hc, rfl⟩ := List.mem_map.mp hp
    exact ⟨(hcolumns c hc).name, (hcolumns c hc).type, (hcolumns c hc).default⟩

theorem ofSchema (name : String) :
    ∀ e ∈ (Database.ofSchema schema name).entities, e.IsQuotable := by
  intro e he
  rcases List.mem_append.mp he with he | he
  · obtain ⟨t, ht, rfl⟩ := List.mem_map.mp he
    have hname := h.names t.name (List.mem_append_left _ (List.mem_map_of_mem ht))
    exact h.ofObject hname (h.tables t ht).1 (h.tables t ht).2
  · obtain ⟨v, hv, rfl⟩ := List.mem_map.mp he
    have hname := h.names v.name (List.mem_append_right _ (List.mem_map_of_mem hv))
    exact h.ofObject hname (h.views v hv).1 (h.views v hv).2

end Catalog.Schema.IsQuotable

/-! ## Named models -/

structure Entity.IsDocumented (e : Entity) : Prop extends e.IsQuotable where
  name : Harmless e.name
  names : ∀ p ∈ e.properties, Harmless p.name

structure Database.IsDocumented (db : Database) : Prop where
  name : Harmless db.name
  entities : ∀ e ∈ db.entities, e.IsDocumented
  toOne : ∀ e ∈ db.entities, ∀ r ∈ e.toOne, Harmless r.name ∧ Quotable r.source

theorem Naming.Refined.isQuotable {before after : List Entity} (h : Refined before after)
    (hbefore : ∀ e ∈ before, e.IsQuotable) : ∀ e ∈ after, e.IsQuotable := by
  intro e he
  obtain ⟨e₀, he₀, hrefines⟩ := h.exists_before he
  exact hrefines.isQuotable (hbefore e₀ he₀)

theorem Naming.fancify_isDocumented {o : Options} (ho : o.ForcesHarmless) {schema : Schema}
    (hschema : schema.IsQuotable) (name : String) : (fancify o schema name).IsDocumented := by
  have hnames := refine_harmlessNames ho (Database.ofSchema schema name)
  have hquotable := (refine_refined o (Database.ofSchema schema name)).isQuotable
    (hschema.ofSchema name)
  refine ⟨hnames.name, fun e he => ?_, fun e he r hr => ⟨hnames.toOne e he r hr, ?_⟩⟩
  · exact ⟨hquotable e he, hnames.records e he, hnames.properties e he⟩
  · obtain ⟨source, hsource, p, hp, hcolumn, -⟩ := exists_property_of_toOne he hr
    have hnamed := (named_refined o _).isQuotable (hschema.ofSchema name) source hsource
    exact hcolumn ▸ (hnamed.properties p hp).column

namespace Record

/-! ## Sentences -/

theorem phrase_ticked {s : String} (h : Quotable s) : Phrase (ticked s) where
  toQuotable :=
    (Quotable.ofList_append (by decide) h).append (.ofList (by decide)) (.inr (by decide))
  head := by simp [ticked]

theorem phrase_symbol {s : String} (h : Quotable s) : Phrase (symbol s) where
  toQuotable :=
    (Quotable.ofList_append (by decide) h).append (.ofList (by decide)) (.inr (by decide))
  head := by simp [symbol]

theorem quotable_path {owner path : String} (howner : Harmless owner) (hpath : Quotable path) :
    Quotable (owner ++ path) :=
  howner.phrase.toQuotable.append hpath (.inl (getLast?_ne_of_harmless howner))

theorem quotable_slash {s : String} (h : Quotable s) : Quotable ("/" ++ s) := by
  have hslash : Quotable "/" := ⟨⟨by decide, by decide⟩, by decide⟩
  exact hslash.append h (.inl (by decide))

theorem phrase_kindName (kind : Kind) : Phrase kind.name := by
  cases kind with
  | table => exact .ofList (by decide)
  | view => exact .ofList (by decide)

theorem phrase_defaultNote {default : Option Literal} (h : Quotable (defaultNote default)) :
    Phrase (defaultNote default) where
  toQuotable := h
  head := by
    unfold defaultNote
    split <;> simp

theorem phrase_propertyComment {p : Property} (h : p.IsQuotable) : Phrase (propertyComment p) := by
  have hrole : Phrase (if p.primaryKey then "Primary key" else "Column") := by
    split <;> exact .ofList (by decide)
  have htype : Quotable (p.columnType.elim "ANY" (·.spelling)) := by
    cases hdeclared : p.columnType with
    | none => exact .ofList (by decide)
    | some type => exact h.type type hdeclared
  have hoptional : Phrase (if p.isOptional then "optional" else "required") := by
    split <;> exact .ofList (by decide)
  exact ((((hrole.append (.ofList (by decide))).andThen (phrase_ticked h.column)
    (by decide)).andThen (phrase_ticked htype) (by decide)).append hoptional).andThen
      (phrase_defaultNote h.default) (by decide)

/-! ## Comments of types -/

variable {e : Entity} (h : e.IsDocumented)

include h

theorem path_isQuotable {p : Property} (hp : p ∈ e.properties) :
    Quotable (e.name ++ "/" ++ p.name) := by
  rw [String.append_assoc]
  exact quotable_path h.name (quotable_slash (h.names p hp).phrase.toQuotable)

theorem phrase_columnComment {p : Property} (hp : p ∈ e.properties) :
    Phrase (columnComment e p) := by
  have hpath := phrase_symbol (path_isQuotable h hp)
  have hcolumn := phrase_ticked (h.properties p hp).column
  exact (hpath.within (by decide) (by decide)).andThen hcolumn (by decide)

theorem propertyDocs_isQuotable : ∀ d ∈ propertyDocs e, d.IsQuotable := by
  intro d hd
  obtain ⟨p, hp, rfl⟩ := List.mem_map.mp hd
  exact ⟨(h.names p hp).phrase.toQuotable, (phrase_propertyComment (h.properties p hp)).toQuotable⟩

theorem readExample_isQuotable : (readExample e).IsQuotable where
  headline := by
    have hselect : Quotable "/select" := ⟨⟨by decide, by decide⟩, by decide⟩
    have hpath : Quotable (Runtime.schemaName ++ "/select") :=
      quotable_path (.ofList (by decide)) hselect
    exact ((phrase_symbol h.name.phrase.toQuotable).within (by decide) (by decide)).andThen
      (phrase_symbol hpath) (by decide) |>.toQuotable
  code := (h.name.phrase.within (by decide) (by decide)).toPassage
  language := nofun

theorem sqlExamples_isQuotable : ∀ listing ∈ sqlExamples e, listing.IsQuotable := by
  intro listing hlisting
  rcases List.mem_cons.mp (List.mem_filter.mp hlisting).1 with rfl | hlisting
  · refine ⟨?_, h.sql, nofun⟩
    exact ((phrase_kindName e.kind).within (by decide) (by decide)).toQuotable
  · rcases List.mem_append.mp hlisting with hlisting | hlisting
    · obtain ⟨sql, hsql, rfl⟩ := List.mem_map.mp hlisting
      exact ⟨.ofList (by decide), h.indexSql sql hsql, nofun⟩
    · obtain ⟨sql, hsql, rfl⟩ := List.mem_map.mp hlisting
      exact ⟨.ofList (by decide), h.triggerSql sql hsql, nofun⟩

omit h in
theorem relationshipExamples_isQuotable {db : Database} (hdb : db.IsDocumented) (o : Output)
    (he : e ∈ db.entities) :
    ∀ listing ∈ relationshipExamples db o e, listing.IsQuotable := by
  intro listing hlisting
  unfold relationshipExamples at hlisting
  split at hlisting
  case h_1 r _ _ hone =>
    obtain ⟨destination, hfound, rfl⟩ := List.mem_map.mp hlisting
    have hdestination := hdb.entities destination (mem_of_findNamed (Option.mem_toList.mp hfound))
    have hname := (hdb.toOne e he r (hone ▸ List.mem_cons_self)).1.phrase
    have hlabel : Phrase (findLabel r) := by
      unfold findLabel
      split
      · exact .ofList (by decide)
      · exact (Phrase.ofList (by decide)).append hname
    refine ⟨?_, ?_, nofun⟩
    · exact ((phrase_symbol hdestination.name.phrase.toQuotable).within (by decide)
        (by decide)).toQuotable
    · exact ((hname.within (by decide) (by decide)).andThen hlabel (by decide)).toPassage
  case h_2 => cases hlisting

theorem recordComment_isQuotable {db : Database} (hdb : db.IsDocumented) (o : Output)
    (he : e ∈ db.entities) : (recordComment db o e).IsQuotable where
  headline := by
    exact ((phrase_ticked h.raw).within (by decide) (by decide)).andThen (phrase_kindName e.kind)
      (by decide) |>.toQuotable
  info := by
    rintro _ ⟨⟩
    have hbound :
        Phrase ("Record bound to the SQL " ++ e.kind.name ++ " " ++ ticked e.raw ++ ".") :=
      ((phrase_kindName e.kind).within (by decide) (by decide)).andThen (phrase_ticked h.raw)
        (by decide)
    refine hbound.toPassage.append ?_ ?_
    · split
      · exact ⟨by decide, by decide⟩
      · exact (Phrase.ofList (by decide)).toPassage
    · split <;> exact .inr (by decide)
  examples := List.forall_mem_cons.mpr
    ⟨readExample_isQuotable h, relationshipExamples_isQuotable hdb o he⟩
  sql := sqlExamples_isQuotable h

theorem schemaComment_isQuotable : (schemaComment e).IsQuotable where
  headline := by
    exact (((phrase_symbol h.name.phrase.toQuotable).within (by decide) (by decide)).andThen
      (phrase_ticked h.raw) (by decide)).andThen (phrase_kindName e.kind) (by decide) |>.toQuotable
  info := nofun
  examples := List.forall_mem_nil _
  sql := List.forall_mem_nil _

omit h in
theorem databaseComment_isQuotable (db : Database) : (databaseComment db).IsQuotable where
  headline := .ofList (by decide)
  info := by
    have hnumber : ∀ n : Nat, Phrase (toString n) := by
      intro n
      refine Harmless.phrase fun c hc => isHarmless_of_isDigit ?_
      rw [Nat.toString_eq_ofList_toDigits, String.toList_ofList] at hc
      exact Nat.isDigit_of_mem_toDigits (by decide) (by decide) hc
    rintro _ ⟨⟩
    exact ((hnumber db.tables.length).within (by decide) (by decide)).andThen
      (hnumber db.views.length) (by decide) |>.toPassage
  examples := List.forall_mem_nil _
  sql := List.forall_mem_nil _

/-! ## Comments of members -/

omit h in
theorem variable_isQuotable {v : Variable} (hv : ∀ text ∈ v.comment, Passage text) :
    ∀ c ∈ v.comments, c.IsQuotable := by
  intro c hc
  obtain ⟨text, htext, rfl⟩ := Option.map_eq_some_iff.mp (Option.mem_toList.mp hc)
  exact hv text htext

omit h in
theorem function_isQuotable {f : Function} (hf : ∀ c ∈ f.comment, c.IsQuotable) :
    ∀ c ∈ f.comments, c.IsQuotable := by
  intro c hc
  obtain ⟨own, hown, rfl⟩ := Option.map_eq_some_iff.mp (Option.mem_toList.mp hc)
  exact hf own hown

variable (o : Output)

omit h in
theorem constant_isQuotable {name : String} {value : Node} {type : Option Node}
    {comment : Option String} (hcomment : ∀ text ∈ comment, Phrase text) :
    ∀ c ∈ (o.constant name value type comment).comments, c.IsQuotable :=
  variable_isQuotable fun text htext => (hcomment text htext).toPassage

omit h in
theorem parameterIndices_isQuotable {statement : String} (hstatement : Quotable statement)
    (indices : List Int) :
    ∀ c ∈ (o.parameterIndices statement indices).comments, c.IsQuotable := by
  refine constant_isQuotable o ?_
  rintro _ ⟨⟩
  exact (phrase_symbol hstatement).within (by decide) (by decide)

theorem rowStatement_isQuotable {verb : String} (hverb : Quotable verb) (name sql : String) :
    ∀ c ∈ (o.rowStatement name verb e sql).comments, c.IsQuotable := by
  refine constant_isQuotable o ?_
  rintro _ ⟨⟩
  exact ((phrase_ticked hverb).append (.ofList (by decide))).andThen (phrase_ticked h.raw)
    (by decide)

theorem statementVariables_isQuotable (s : Statements) :
    ∀ v ∈ o.statementVariables e s, ∀ c ∈ v.comments, c.IsQuotable := by
  have hselect : ∀ v ∈ o.selectVariables e s, ∀ c ∈ v.comments, c.IsQuotable := by
    simp only [Output.selectVariables, List.forall_mem_cons]
    refine ⟨constant_isQuotable o ?_, constant_isQuotable o forall_mem_none,
      constant_isQuotable o ?_, List.forall_mem_nil _⟩
    · rintro _ ⟨⟩
      exact ((phrase_ticked (.ofList (by decide))).append (.ofList (by decide))).andThen
        (phrase_ticked h.raw) (by decide)
    · rintro _ ⟨⟩
      exact (phrase_symbol (.ofList (by decide))).within (by decide) (by decide)
  have hupdate : ∀ v ∈ o.updateVariables e s, ∀ c ∈ v.comments, c.IsQuotable :=
    forall_mem_withStatement fun sql => by
      simp only [List.forall_mem_cons]
      exact ⟨rowStatement_isQuotable h o (.ofList (by decide)) _ sql,
        parameterIndices_isQuotable o (.ofList (by decide)) _, List.forall_mem_nil _⟩
  have hinsert : ∀ v ∈ o.insertVariables e s, ∀ c ∈ v.comments, c.IsQuotable :=
    forall_mem_withStatement fun sql => forall_mem_withStatement fun returning => by
      simp only [List.forall_mem_cons]
      exact ⟨rowStatement_isQuotable h o (.ofList (by decide)) _ sql,
        constant_isQuotable o forall_mem_none,
        parameterIndices_isQuotable o (.ofList (by decide)) _, List.forall_mem_nil _⟩
  have hdelete : ∀ v ∈ o.deleteVariables e s, ∀ c ∈ v.comments, c.IsQuotable :=
    forall_mem_withStatement fun sql => by
      simp only [List.forall_mem_cons]
      exact ⟨rowStatement_isQuotable h o (.ofList (by decide)) _ sql,
        parameterIndices_isQuotable o (.ofList (by decide)) _, List.forall_mem_nil _⟩
  exact forall_mem_statementVariables o hselect hupdate hinsert hdelete

theorem schemaTypeVariables_isQuotable :
    ∀ v ∈ o.schemaTypeVariables e, ∀ c ∈ v.comments, c.IsQuotable := by
  have hcreation : ∀ v ∈ o.creationVariables e, ∀ c ∈ v.comments, c.IsQuotable :=
    forall_mem_withStatement fun sql => by
      refine List.forall_mem_singleton.mpr (constant_isQuotable o ?_)
      rintro _ ⟨⟩
      exact ((phrase_ticked h.raw).within (by decide) (by decide)).andThen
        (phrase_kindName e.kind) (by decide)
  intro v hv
  simp only [Output.schemaTypeVariables, List.mem_append, List.mem_cons, List.not_mem_nil,
    or_false] at hv
  rcases hv with ((rfl | rfl) | hv) | hv
  · refine constant_isQuotable o ?_
    rintro _ ⟨⟩
    exact ((phrase_kindName e.kind).within (by decide) (by decide)).andThen
      (phrase_symbol h.name.phrase.toQuotable) (by decide)
  · exact constant_isQuotable o forall_mem_none
  · exact hcreation v hv
  · exact statementVariables_isQuotable h o _ v hv

theorem column_isQuotable {slot : Slot} (hslot : slot.1 ∈ e.properties) :
    ∀ c ∈ (o.column e slot).comments, c.IsQuotable := by
  refine constant_isQuotable o ?_
  rintro _ ⟨⟩
  exact phrase_columnComment h hslot

theorem schemaType_isQuotable : ∀ c ∈ (o.schemaType e).comments, c.IsQuotable := by
  apply TypeDef.forall_mem_comments
  case hcomment =>
    rintro _ ⟨⟩
    exact schemaComment_isQuotable h
  case hnested => nofun
  case htypeVariables => exact schemaTypeVariables_isQuotable h o
  case hinstanceVariables =>
    intro v hv
    obtain ⟨slot, hslot, rfl⟩ := List.mem_map.mp hv
    exact column_isQuotable h o (List.fst_mem_of_mem_zipIdx hslot)
  case hcomputed => nofun
  case hfunctions => exact List.forall_mem_singleton.mpr (function_isQuotable nofun)

/-! ## Comments of functions -/

theorem initializer_isQuotable {f : Function} (hf : o.initializer e = .ok f) :
    ∀ c ∈ f.comments, c.IsQuotable := by
  obtain ⟨parameters, -, hf⟩ := bind_eq_ok hf
  cases hf
  refine function_isQuotable ?_
  rintro _ ⟨⟩
  refine ⟨?_, nofun, nofun, propertyDocs_isQuotable h, nofun, nofun⟩
  exact ((phrase_symbol h.name.phrase.toQuotable).within (by decide) (by decide)).toQuotable

theorem rowInitializer_isQuotable : ∀ c ∈ (o.rowInitializer e).comments, c.IsQuotable := by
  refine function_isQuotable ?_
  rintro _ ⟨⟩
  constructor
  case headline =>
    exact ((phrase_symbol h.name.phrase.toQuotable).within (by decide) (by decide)).toQuotable
  case info => nofun
  case sample => nofun
  case parameters =>
    simp only [List.forall_mem_cons]
    exact ⟨⟨.ofList (by decide), .ofList (by decide)⟩, ⟨.ofList (by decide), .ofList (by decide)⟩,
      nofun⟩
  case throwsInfo =>
    rintro _ ⟨⟩
    exact .ofList (by decide)
  case returnInfo => nofun

omit h in
theorem bindFunction_isQuotable : ∀ c ∈ (o.bindFunction e).comments, c.IsQuotable := by
  refine function_isQuotable ?_
  rintro _ ⟨⟩
  constructor
  case headline => exact .ofList (by decide)
  case info =>
    have hindices : Quotable "/insertParameterIndices" := ⟨⟨by decide, by decide⟩, by decide⟩
    have hpath : Quotable (Runtime.schemaName ++ "/insertParameterIndices") :=
      quotable_path (.ofList (by decide)) hindices
    rintro _ ⟨⟩
    exact ((((phrase_symbol (.ofList (by decide))).append (.ofList (by decide))).andThen
      (phrase_symbol (.ofList (by decide))) (by decide)).andThen (phrase_symbol hpath)
        (by decide)).toPassage
  case sample => nofun
  case parameters =>
    simp only [List.forall_mem_cons]
    exact ⟨⟨.ofList (by decide), .ofList (by decide)⟩, ⟨.ofList (by decide), .ofList (by decide)⟩,
      nofun⟩
  case throwsInfo =>
    rintro _ ⟨⟩
    exact .ofList (by decide)
  case returnInfo => nofun

theorem idProperty_isQuotable : ∀ v ∈ o.idProperty e, ∀ c ∈ v.comments, c.IsQuotable := by
  unfold Output.idProperty
  split
  case h_1 key hkey =>
    split
    · nofun
    · refine List.forall_mem_singleton.mpr fun c hc => ?_
      obtain rfl := Option.mem_some_iff.mp (Option.mem_toList.mp hc)
      have hkey : key ∈ e.properties := by
        unfold Entity.primaryKey? at hkey
        split at hkey
        case h_1 only honly =>
          obtain rfl := Option.some.inj hkey
          exact (List.mem_filter.mp (honly ▸ List.mem_singleton_self only)).1
        case h_2 => cases hkey
      exact ((phrase_symbol (h.names key hkey).phrase.toQuotable).within (by decide)
        (by decide)).toPassage
  case h_2 => nofun

theorem recordType_isQuotable {db : Database} (hdb : db.IsDocumented) (he : e ∈ db.entities)
    {d : TypeDef} (hd : o.recordType db e = .ok d) : ∀ c ∈ d.comments, c.IsQuotable := by
  obtain ⟨initializer, hinitializer, hd⟩ := bind_eq_ok hd
  cases hd
  apply TypeDef.forall_mem_comments
  case hcomment =>
    rintro _ ⟨⟩
    exact recordComment_isQuotable h hdb o he
  case hnested => exact List.forall_mem_singleton.mpr (schemaType_isQuotable h o)
  case htypeVariables =>
    simp only [Output.recordTypeVariables, List.forall_mem_cons]
    refine ⟨constant_isQuotable o ?_, constant_isQuotable o ?_,
      constant_isQuotable o forall_mem_none, List.forall_mem_nil _⟩
    · rintro _ ⟨⟩
      exact .ofList (by decide)
    · rintro _ ⟨⟩
      exact .ofList (by decide)
  case hinstanceVariables =>
    intro v hv
    obtain ⟨p, hp, rfl⟩ := List.mem_map.mp hv
    refine variable_isQuotable ?_
    rintro _ ⟨⟩
    exact (phrase_propertyComment (h.properties p hp)).toPassage
  case hcomputed => exact idProperty_isQuotable h o
  case hfunctions =>
    intro f hf
    simp only [List.mem_append, List.mem_cons, List.not_mem_nil, or_false] at hf
    rcases hf with (rfl | rfl) | hf
    · exact initializer_isQuotable h o hinitializer
    · exact rowInitializer_isQuotable h o
    · split at hf
      · cases hf
      · rw [List.mem_singleton.mp hf]
        exact bindFunction_isQuotable o

omit h in
theorem databaseType_isQuotable {db : Database} (hdb : db.IsDocumented) :
    ∀ c ∈ (o.databaseType db).comments, c.IsQuotable := by
  apply TypeDef.forall_mem_comments
  case hcomment =>
    rintro _ ⟨⟩
    exact databaseComment_isQuotable db
  case hnested => exact List.forall_mem_nil _
  case htypeVariables =>
    simp only [Output.databaseType, List.forall_mem_cons]
    refine ⟨constant_isQuotable o ?_, constant_isQuotable o ?_, List.forall_mem_nil _⟩
    · rintro _ ⟨⟩
      exact (phrase_ticked (.ofList (by decide))).within (by decide) (by decide)
    · rintro _ ⟨⟩
      exact .ofList (by decide)
  case hinstanceVariables =>
    exact List.forall_mem_singleton.mpr (variable_isQuotable forall_mem_none)
  case hcomputed => exact List.forall_mem_nil _
  case hfunctions =>
    refine List.forall_mem_singleton.mpr (function_isQuotable ?_)
    rintro _ ⟨⟩
    refine ⟨?_, forall_mem_none, forall_mem_none, ?_, forall_mem_none, forall_mem_none⟩
    · exact ((phrase_symbol hdb.name.phrase.toQuotable).within (by decide) (by decide)).toQuotable
    · exact List.forall_mem_singleton.mpr ⟨.ofList (by decide), .ofList (by decide)⟩

/-! ## Comments of accessors -/

theorem recordDoc_isQuotable : (recordDoc e).IsQuotable where
  name := .ofList (by decide)
  info := ((phrase_symbol h.name.phrase.toQuotable).within (by decide) (by decide)).toQuotable

omit h in
theorem mem_of_requireEnds {db : Database} {r : Relationship} {ends : Ends}
    (hends : requireEnds db e r = .ok ends) : ends.destination ∈ db.entities := by
  unfold requireEnds at hends
  split at hends
  case h_1 found hfound =>
    obtain rfl := Except.ok.inj hends
    obtain ⟨destination, hdestination, hfound⟩ := Option.bind_eq_some_iff.mp hfound
    obtain ⟨source, -, hfound⟩ := Option.bind_eq_some_iff.mp hfound
    obtain ⟨target, -, hfound⟩ := Option.bind_eq_some_iff.mp hfound
    obtain rfl := Option.some.inj hfound
    exact mem_of_findNamed hdestination
  case h_2 => cases hends

theorem findFunction_isQuotable {db : Database} (hdb : db.IsDocumented) {r : Relationship}
    (hr : Quotable r.source) {f : Function} (hf : o.findFunction db e r = .ok f) :
    ∀ c ∈ f.comments, c.IsQuotable := by
  obtain ⟨ends, hends, hf⟩ := bind_eq_ok hf
  cases hf
  have hdestination := (hdb.entities _ (mem_of_requireEnds hends)).name.phrase.toQuotable
  refine function_isQuotable ?_
  rintro _ ⟨⟩
  constructor
  case headline =>
    exact (((phrase_symbol hdestination).within (by decide) (by decide)).andThen
      (phrase_symbol h.name.phrase.toQuotable) (by decide)).andThen (phrase_ticked hr) (by decide)
        |>.toQuotable
  case info => nofun
  case sample => nofun
  case parameters => exact List.forall_mem_singleton.mpr (recordDoc_isQuotable h)
  case throwsInfo => nofun
  case returnInfo =>
    rintro _ ⟨⟩
    exact ((phrase_symbol hdestination).within (by decide) (by decide)).toQuotable

theorem fetchFunction_isQuotable {db : Database} (hdb : db.IsDocumented) {r : Relationship}
    {f : Function} (hf : o.fetchFunction db e r = .ok f) : ∀ c ∈ f.comments, c.IsQuotable := by
  obtain ⟨ends, hends, hf⟩ := bind_eq_ok hf
  cases hf
  have hdestination := (hdb.entities _ (mem_of_requireEnds hends)).name.phrase.toQuotable
  refine function_isQuotable ?_
  rintro _ ⟨⟩
  constructor
  case headline =>
    exact ((phrase_symbol hdestination).within (by decide) (by decide)).andThen
      (phrase_symbol h.name.phrase.toQuotable) (by decide) |>.toQuotable
  case info => nofun
  case sample => nofun
  case parameters =>
    simp only [List.forall_mem_cons]
    exact ⟨recordDoc_isQuotable h, ⟨.ofList (by decide), .ofList (by decide)⟩, nofun⟩
  case throwsInfo => nofun
  case returnInfo =>
    rintro _ ⟨⟩
    exact ((phrase_symbol hdestination).within (by decide) (by decide)).toQuotable

omit h in
theorem accessorFunctions_isQuotable {db : Database} (hdb : db.IsDocumented)
    {accessors : List Function} (haccessors : o.accessorFunctions db = .ok accessors) :
    ∀ f ∈ accessors, ∀ c ∈ f.comments, c.IsQuotable := by
  intro f hf
  rcases accessor_cases o haccessors hf with ⟨e, he, r, hr, hfind⟩ | ⟨e, he, r, -, hfetch⟩
  · exact findFunction_isQuotable (hdb.entities e he) o hdb (hdb.toOne e he r hr).2 hfind
  · exact fetchFunction_isQuotable (hdb.entities e he) o hdb hfetch

/-! ## Comments of a unit -/

omit h in
/-- The unit of a model whose texts may be quoted has comments that quote such texts only. -/
theorem unit_isQuotable {db : Database} (hdb : db.IsDocumented) {u : CompilationUnit}
    (hunit : o.unit db = .ok u) : ∀ c ∈ u.comments, c.IsQuotable := by
  obtain ⟨accessors, records, haccessors, hrecords, rfl⟩ := exists_assemble o hunit
  have hfunctions : ∀ f ∈ accessors, ∀ c ∈ f.comments, c.IsQuotable :=
    forall_mem_wanted o haccessors (accessorFunctions_isQuotable o hdb)
  intro c hc
  simp only [CompilationUnit.comments, List.mem_append, List.mem_flatMap] at hc
  rcases hc with (⟨d, hd, hc⟩ | ⟨f, hf, hc⟩) | ⟨extension, hextension, hc⟩
  · rcases List.mem_cons.mp hd with rfl | hd
    · exact databaseType_isQuotable o hdb c hc
    · obtain ⟨e, he, hd⟩ := mem_of_mapM hrecords hd
      exact recordType_isQuotable (hdb.entities e he) o hdb he hd c hc
  · cases hf
  · obtain rfl := mem_extensions o hextension
    simp only [Extension.comments, List.flatMap_nil, List.nil_append, List.mem_flatMap] at hc
    obtain ⟨f, hf, hc⟩ := hc
    exact hfunctions f hf c hc

/-! ## Statements that end a comment -/

omit h in
theorem recordType_comment {db : Database} {d : TypeDef} (hd : o.recordType db e = .ok d) :
    .ofType (recordComment db o e) ∈ d.comments := by
  obtain ⟨initializer, -, hd⟩ := bind_eq_ok hd
  cases hd
  exact List.mem_append_left _ (List.mem_append_left _ List.mem_cons_self)

omit h in
theorem recordComment_mem {db : Database} {u : CompilationUnit} (hunit : o.unit db = .ok u)
    (he : e ∈ db.entities) : .ofType (recordComment db o e) ∈ u.comments := by
  obtain ⟨accessors, records, -, hrecords, rfl⟩ := exists_assemble o hunit
  obtain ⟨i, rfl⟩ := List.get_of_mem he
  have hforall := forall₂_of_mapM hrecords
  have hi : i.1 < records.length := hforall.length_eq ▸ i.2
  have hown := recordType_comment o (hforall.get i.2 hi)
  refine List.mem_append_left _ (List.mem_append_left _ (List.mem_flatMap.mpr ⟨_, ?_, hown⟩))
  exact List.mem_cons_of_mem _ (List.get_mem records ⟨i.1, hi⟩)

omit h in
theorem exists_line_of_creation {p : Printer} (db : Database)
    (hsql : terminator <:+: e.sql.toList) :
    ∃ line ∈ p.commentLines (.ofType (recordComment db o e)), terminator <:+: line.toList := by
  obtain ⟨line, hline, hfound⟩ := exists_line_codeBlock hsql "sql"
  let creation : CodeExample := ⟨"The SQL used to create the " ++ e.kind.name ++ ":", e.sql, none⟩
  have hne : e.sql.isEmpty = false := by
    rw [Bool.eq_false_iff]
    intro hempty
    rw [String.isEmpty_iff.mp hempty] at hsql
    exact absurd hsql (by decide)
  have hcreation : creation ∈ sqlExamples e :=
    List.mem_filter.mpr ⟨List.mem_cons_self, by simp [creation, hne]⟩
  have hsaid : line ∈ creation.lines "sql" := List.mem_cons_of_mem _ (List.mem_cons_of_mem _ hline)
  refine ⟨line, List.mem_append_right _ ?_, hfound⟩
  rw [TypeComment.sqlLines, if_neg]
  · exact List.mem_append_right _ (List.mem_flatMap.mpr ⟨creation, hcreation, hsaid⟩)
  · intro hempty
    exact List.ne_nil_of_mem hcreation (List.isEmpty_iff.mp hempty)

omit h in
theorem exists_entity_of_creation {schema : Schema} {sql : String}
    (hsql : sql ∈ schema.tables.map (·.sql) ++ schema.views.map (·.sql)) (options : Options)
    (name : String) : ∃ e ∈ (fancify options schema name).entities, e.sql = sql := by
  have hsqls : (fancify options schema name).entities.map (·.sql) =
      (Database.ofSchema schema name).entities.map (·.sql) :=
    Entity.map_eq_of_forall₂ (fun _ _ h => h.sql)
      (refine_refined options (Database.ofSchema schema name))
  refine List.mem_map.mp (hsqls ▸ ?_)
  simpa [Database.ofSchema, Entity.ofObject] using hsql

omit h in
/-- The text of a unit is its comments with code around them.  A comment is enclosed by its marks
exactly if every line that it says may stand in it as it is; nothing else sees to that, since what
is quoted is neither changed nor always split into lines.  So the comments for a schema are enclosed
if its texts may be quoted, names that naming derives being harmless; and in the style of blocks, a
statement that holds a terminator ends the comment that quotes it. -/
theorem fancify_comments {p : Printer} (hlined : p.style.Lined) {schema : Schema} {o : Options}
    {name : String} {output : Output} {u : CompilationUnit}
    (hunit : output.unit (fancify o schema name) = .ok u) :
    (∀ text, u.render p.style p.spelling = .ok text → p.Interleaved u.comments text) ∧
      (∀ c level, (p.commentStyle c).Encloses p.style.eol (p.commentText level c) ↔
        ∀ line ∈ p.commentLines c, (p.commentStyle c).Carries line) ∧
      (p.IsQuotable → o.ForcesHarmless → schema.IsQuotable → ∀ c ∈ u.comments, ∀ level,
        (p.commentStyle c).Encloses p.style.eol (p.commentText level c)) ∧
      (p.style.typeComment.isBlock = true →
        ∀ sql ∈ schema.tables.map (·.sql) ++ schema.views.map (·.sql), terminator <:+: sql.toList →
          ∃ c ∈ u.comments, ∀ level,
            ¬(p.commentStyle c).Encloses p.style.eol (p.commentText level c)) := by
  refine ⟨fun text => CompilationUnit.interleaved_render, fun c level => ?_, ?_, ?_⟩
  · exact Printer.encloses_iff hlined level (p.commentStyle c) (p.commentLines c)
  · intro hp ho hschema c hc level
    have hdb := fancify_isDocumented ho hschema name
    exact Printer.encloses_of_quotable hlined hp (unit_isQuotable output hdb hunit c hc) level
  · intro hblock sql hsql hfound
    obtain ⟨e, he, rfl⟩ := exists_entity_of_creation hsql o name
    refine ⟨_, recordComment_mem output hunit he, ?_⟩
    exact Printer.not_encloses_of_terminator hlined hblock
      (exists_line_of_creation output _ hfound)

def jobsSchema : Schema :=
  let sql := "CREATE TABLE jobs (schedule TEXT DEFAULT '*/5 * * * *')"
  { Schema.empty with
    tables := [⟨"jobs", sql, [⟨0, "schedule", none, false, none, false⟩], []⟩] }

omit h in
theorem default_lined : Style.default.Lined where
  indent := List.all_eq_true.mp rfl
  eol := List.all_eq_true.mp rfl
  ends := List.any_eq_true.mp rfl

omit h in
theorem exists_jobsUnit :
    ∃ u, Output.default.unit (fancify .default jobsSchema "jobs.db") = .ok u :=
  exists_fancify_unit .default (by decide) (by decide)

omit h in
/-- In the default style a comment about these jobs ends at the schedule in its statement. -/
theorem jobsSchema_comments :
    ∃ u, Style.default.Lined ∧
      Output.default.unit (fancify .default jobsSchema "jobs.db") = .ok u ∧
      (∀ text, u.render .default .swift = .ok text →
        Printer.Interleaved ⟨.default, .swift⟩ u.comments text) ∧
      ∃ c ∈ u.comments, ∀ level, ¬(Printer.commentStyle ⟨.default, .swift⟩ c).Encloses
        Style.default.eol (Printer.commentText ⟨.default, .swift⟩ level c) := by
  obtain ⟨u, hunit⟩ := exists_jobsUnit
  obtain ⟨hinterleaved, -, -, hbroken⟩ :=
    fancify_comments (p := ⟨.default, .swift⟩) default_lined hunit
  have hfound : terminator <:+: (jobsSchema.tables.map (·.sql))[0].toList := by decide
  exact ⟨u, default_lined, hunit, hinterleaved,
    hbroken rfl _ (List.mem_append_left _ (List.getElem_mem _)) hfound⟩

end Record

end RecordLoom
