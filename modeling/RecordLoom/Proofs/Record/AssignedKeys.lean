import RecordLoom.Catalog.Fetch
import RecordLoom.Proofs.Code.Fault
import RecordLoom.Proofs.Naming.Additions
import RecordLoom.Proofs.Record.Placeholders

/-!
# Values that an insertion leaves out

An insertion leaves a value to the engine if it is that of the only declared key of a table, and an
integer by its declared type as by the type of its property.  The declared type is an integer if it
is the word `INTEGER` in any case, and no less if it is the word `INT`.
-/

namespace RecordLoom

open RecordLoom.Catalog
open RecordLoom.Code
open RecordLoom.Entity
open RecordLoom.Naming
open RecordLoom.Record

/-! ## Declared integers -/

namespace Catalog

/-- Whether a declared type is read as an integer. -/
def IsIntegerWord (declared : String) : Prop :=
  Text.upper declared = "INT" ∨ Text.upper declared = "INTEGER"

theorem lookup_keywords_iff {word : String} :
    ColumnType.keywords.lookup word = some .integer ↔ word = "INT" ∨ word = "INTEGER" := by
  constructor
  · intro h
    obtain ⟨before, after, hsplit, -⟩ := List.lookup_eq_some_iff.mp h
    have hmem : (word, ColumnType.integer) ∈ ColumnType.keywords := by simp [hsplit]
    simpa [ColumnType.keywords] using hmem
  · rintro (rfl | rfl) <;> rfl

theorem parse_eq_integer_iff {declared : String} :
    ColumnType.parse declared = .ok (some .integer) ↔ IsIntegerWord declared := by
  rw [IsIntegerWord, ← lookup_keywords_iff]
  unfold ColumnType.parse
  split
  case isTrue hempty =>
    rw [String.isEmpty_iff.mp hempty]
    decide
  case isFalse =>
    split
    case h_1 type htype => simp [htype]
    case h_2 hnone =>
      refine iff_of_false ?_ (by simp [hnone])
      split
      · split <;> simp
      · simp

theorem parse?_eq_integer_iff {declared : Option String} :
    ColumnType.parse? declared = .ok (some .integer) ↔ ∃ text ∈ declared, IsIntegerWord text := by
  cases declared with
  | none => simp [ColumnType.parse?]
  | some text => simp [ColumnType.parse?, parse_eq_integer_iff]

structure ColumnRow.Reads (row : ColumnRow) (c : Column) : Prop where
  name : c.name = row.name
  type : ColumnType.parse? row.type = .ok c.type
  primaryKey : c.primaryKey = (row.key != 0)

theorem ColumnRow.reads_of_toColumn {row : ColumnRow} {c : Column} (h : row.toColumn = .ok c) :
    row.Reads c := by
  unfold toColumn at h
  obtain ⟨type, htype, h⟩ := bind_eq_ok h
  obtain ⟨default, -, h⟩ := bind_eq_ok h
  cases h
  exact ⟨rfl, htype, rfl⟩

/-- Whether a row is about the only column of the key. -/
def ColumnRow.IsLoneKey (row : ColumnRow) (rows : List ColumnRow) : Prop :=
  row.key ≠ 0 ∧ rows.countP (·.key != 0) = 1

end Catalog

namespace Record

/-! ## Insertions -/

/-- Whether the insertion of an entity has no value for the property at a position. -/
def LeavesOut (e : Entity) (position : Nat) : Prop :=
  (Statements.ofEntity e).insert.isSome = true ∧
    (Statements.ofEntity e).insertIndices[position]? = some unbound

section

variable {e : Entity} {position : Nat} {p : Property}

theorem leavesOut_iff (hp : e.properties[position]? = some p) :
    LeavesOut e position ↔ isAssigned e p = true := by
  have hslot : (∀ q, (q, position) ∉ insertedSlots e) ↔ isAssigned e p = true := by
    have hmem : ∀ q, (q, position) ∈ insertedSlots e ↔ p = q ∧ isAssigned e q = false := by
      intro q
      rw [insertedSlots, List.mem_filter, slots, List.mk_mem_zipIdx_iff_getElem?, hp,
        Option.some.injEq, Bool.not_eq_true']
    simp only [hmem, not_and, Bool.not_eq_false, forall_eq']
  have hinsert : (Statements.ofEntity e).insert.isSome = e.supports .insert := by
    simp only [Statements.ofEntity, Statements.when]
    cases e.supports .insert <;> rfl
  rw [LeavesOut, hinsert]
  cases hsupports : e.supports .insert with
  | true =>
      simp only [Statements.ofEntity, Statements.indicesWhen, hsupports, if_true,
        getElem?_placeholders hp, Option.some.injEq, placeholderOf_eq_unbound_iff, hslot, true_and]
  | false =>
      have htable : e.kind ≠ .table := by
        intro hkind
        simp [Entity.supports, hkind] at hsupports
      simp [isAssigned, htable]

theorem kind_of_leavesOut (h : LeavesOut e position) : e.kind = .table := by
  have hlength : (Statements.ofEntity e).insertIndices.length = e.properties.length := by
    simp only [Statements.ofEntity, Statements.indicesWhen]
    cases e.supports .insert <;> simp [placeholders, allUnbound]
  obtain ⟨hlt, -⟩ := List.getElem?_eq_some_iff.mp h.2
  rw [hlength] at hlt
  have hassigned := (leavesOut_iff (List.getElem?_eq_getElem hlt)).mp h
  simp only [isAssigned, Bool.and_eq_true, beq_iff_eq] at hassigned
  exact hassigned.1.1.1.2

end

/-- Whether the text of an insertion lists other columns than this one. -/
def OmitsColumn (e : Entity) (column : String) : Prop :=
  ∃ sql, (Statements.ofEntity e).insert = some sql ∧ column ∉ Sql.listedNames (Sql.tokens sql)

theorem leavesOut_iff_omitsColumn {e : Entity} (hcolumns : (e.properties.map (·.column)).Nodup)
    {position : Nat} {p : Property} (hp : e.properties[position]? = some p) :
    LeavesOut e position ↔ OmitsColumn e p.column := by
  have hlisted : p.column ∈ (insertedSlots e).map (·.1.column) ↔ ¬isAssigned e p = true := by
    rw [List.mem_map, Bool.not_eq_true]
    constructor
    · rintro ⟨⟨q, other⟩, hslot, hcolumn⟩
      obtain ⟨hslot, hassigned⟩ := List.mem_filter.mp hslot
      have hq : q ∈ e.properties := List.fst_mem_of_mem_zipIdx hslot
      obtain rfl : q = p :=
        List.inj_on_of_nodup_map hcolumns hq (List.mem_of_getElem? hp) hcolumn
      simpa using hassigned
    · intro hassigned
      refine ⟨(p, position), List.mem_filter.mpr ⟨?_, by simp [hassigned]⟩, rfl⟩
      exact List.mk_mem_zipIdx_iff_getElem?.mpr hp
  have htext : ∀ sql, (Statements.ofEntity e).insert = some sql →
      sql = Statements.insertText e := by
    intro sql hsql
    simp only [Statements.ofEntity, Statements.when, Option.ite_none_right_eq_some,
      Option.some.injEq] at hsql
    exact hsql.2.symm
  constructor
  · intro hleft
    obtain ⟨sql, hsql⟩ := Option.isSome_iff_exists.mp hleft.1
    refine ⟨sql, hsql, ?_⟩
    rw [htext sql hsql, listedNames_insertText, hlisted, not_not]
    exact (leavesOut_iff hp).mp hleft
  · rintro ⟨sql, hsql, hnot⟩
    rw [htext sql hsql, listedNames_insertText, hlisted, not_not] at hnot
    exact (leavesOut_iff hp).mpr hnot

/-! ## Keys of a table -/

section

variable {schema : Schema} {t : Table} {rows : List ColumnRow} {entities : List Entity}
  {e : Entity}

variable (schema) in
theorem forall₂_properties (hrows : rows.mapM ColumnRow.toColumn = .ok t.columns) :
    List.Forall₂ (fun (row : ColumnRow) (p : Property) => p.column = row.name ∧
        ColumnType.parse? row.type = .ok p.columnType ∧ p.mark = (row.key != 0, false))
      rows (Entity.ofObject schema .table t.name t.sql t.columns t.foreignKeys).properties := by
  refine List.forall₂_map_right_iff.mpr ((forall₂_of_mapM hrows).imp fun row c h => ?_)
  obtain ⟨hname, htype, hkey⟩ := ColumnRow.reads_of_toColumn h
  exact ⟨hname, htype, by rw [← hkey]; rfl⟩

theorem length_primaryKeys_of_marks
    (h : e.properties.map Property.mark = rows.map fun row => (row.key != 0, false)) :
    e.primaryKeys.length = rows.countP (·.key != 0) := by
  have hmarks := congrArg List.length (primaryKeys_marks e)
  rw [h, List.filter_map, List.length_map, List.length_map] at hmarks
  rw [hmarks, List.countP_eq_length_filter]
  rfl

theorem forall₂_at {α β : Type} {R : α → β → Prop} {before : List α} {after : List β}
    (h : List.Forall₂ R before after) {i : Nat} {a : α} {b : β} (ha : before[i]? = some a)
    (hb : after[i]? = some b) : R a b := by
  obtain ⟨hi, rfl⟩ := List.getElem?_eq_some_iff.mp ha
  obtain ⟨hj, rfl⟩ := List.getElem?_eq_some_iff.mp hb
  exact h.get hi hj

theorem isSoleKey_iff {before : Entity} (hgains : Entity.Gains entities before e)
    (hmarks : before.properties.map Property.mark = rows.map fun row => (row.key != 0, false))
    {i : Nat} {row : ColumnRow} {p : Property} (hrow : rows[i]? = some row)
    (hp : e.properties[i]? = some p) :
    e.isSoleKey p = true ∧ p.primaryKeyDetected = false ↔ row.IsLoneKey rows := by
  have hlength := length_primaryKeys_of_marks hmarks
  rw [Entity.isSoleKey, Bool.and_eq_true, beq_iff_eq, ColumnRow.IsLoneKey]
  by_cases hkeyless : before.primaryKeys = []
  case pos =>
    -- Without a declared key whatever key there is has been detected.
    rw [hkeyless, List.length_nil] at hlength
    refine iff_of_false ?_ (by omega)
    rintro ⟨⟨hkey, -⟩, hdeclared⟩
    have hmem : p ∈ e.primaryKeys := List.mem_filter.mpr ⟨List.mem_of_getElem? hp, hkey⟩
    rw [(hgains.keyless hkeyless).2 p hmem] at hdeclared
    cases hdeclared
  case neg =>
    have hkept := (hgains.keyed hkeyless).trans hmarks
    have hmark : p.mark = (row.key != 0, false) := by
      have hat := congrArg (·[i]?) hkept
      simpa [hp, hrow] using hat
    obtain ⟨hkey, hdetected⟩ := Prod.mk.inj hmark
    rw [length_primaryKeys_of_marks hkept, hkey, hdetected, bne_iff_ne]
    exact and_iff_left rfl

theorem isAssigned_iff {before : Entity} (hkind : before.kind = .table)
    (hrefines : before.Refines e) (hgains : Entity.Gains entities before e)
    (hread : List.Forall₂ (fun (row : ColumnRow) (p : Property) => p.column = row.name ∧
        ColumnType.parse? row.type = .ok p.columnType ∧ p.mark = (row.key != 0, false))
      rows before.properties)
    {i : Nat} {row : ColumnRow} {p : Property} (hrow : rows[i]? = some row)
    (hp : e.properties[i]? = some p) :
    isAssigned e p = true ↔ row.IsLoneKey rows ∧ p.valueType = .integer ∧
      ∃ declared ∈ row.type, IsIntegerWord declared := by
  have hmarks : before.properties.map Property.mark =
      rows.map fun row => (row.key != 0, false) := map_eq_of_forall₂ (fun _ _ h => h.2.2) hread
  have htypes : List.Forall₂ (fun (row : ColumnRow) (p : Property) =>
      ColumnType.parse? row.type = .ok p.columnType) rows e.properties :=
    forall₂_trans hread hrefines.properties fun _ _ _ h h' => h'.columnType ▸ h.2.1
  have htype : (∃ declared ∈ row.type, IsIntegerWord declared) ↔ p.columnType = some .integer := by
    rw [← parse?_eq_integer_iff, forall₂_at htypes hrow hp, Except.ok.injEq]
  rw [← isSoleKey_iff hgains hmarks hrow hp, htype, isAssigned, hrefines.kind, hkind]
  simp only [Bool.and_eq_true, beq_iff_eq, Bool.not_eq_true']
  tauto

end

/-- What the insertions of a named model leave out, and that their texts do not list it. -/
theorem fancify_leavesOut (schema : Schema) (o : Options) (name : String)
    (answers : List (List ColumnRow))
    (hanswers : List.Forall₂ (fun rows t => rows.mapM ColumnRow.toColumn = .ok t.columns) answers
      schema.tables) :
    (∀ e ∈ (fancify o schema name).entities, ∀ i, LeavesOut e i → e.kind = .table) ∧
      List.Forall₂ (fun rows e => e.properties.map (·.column) = rows.map (·.name) ∧
        ∀ (i : Nat) (row : ColumnRow) (p : Property), rows[i]? = some row →
          e.properties[i]? = some p →
          (LeavesOut e i ↔ row.IsLoneKey rows ∧ p.valueType = .integer ∧
            ∃ declared ∈ row.type, IsIntegerWord declared) ∧
          ((rows.map (·.name)).Nodup → (LeavesOut e i ↔ OmitsColumn e row.name)))
        answers (fancify o schema name).tables := by
  refine ⟨fun e _ i => kind_of_leavesOut, ?_⟩
  obtain ⟨-, hrefined, hgained⟩ := refine_gains o (.ofSchema schema name)
  have hboth := hrefined.mp (fun _ _ => And.intro) hgained
  have htables := forall₂_tables (fun _ _ h => h.1.kind) hboth
  refine forall₂_trans hanswers htables fun rows t e hrows h => ?_
  obtain ⟨hrefines, hgains⟩ := h
  have hread := forall₂_properties schema hrows
  have hcolumns : e.properties.map (·.column) = rows.map (·.name) := by
    rw [hrefines.columns]
    exact map_eq_of_forall₂ (fun _ _ h => h.1) hread
  refine ⟨hcolumns, fun i row p hrow hp => ⟨?_, fun hnames => ?_⟩⟩
  · rw [leavesOut_iff hp]
    exact isAssigned_iff rfl hrefines hgains hread hrow hp
  · have hname : p.column = row.name := by
      have hat := congrArg (·[i]?) hcolumns
      simpa [hp, hrow] using hat
    rw [← hname]
    exact leavesOut_iff_omitsColumn (hcolumns ▸ hnames) hp

def tagRows : List ColumnRow :=
  [⟨0, "id", some "INT", 0, none, 1⟩, ⟨1, "label", some "TEXT", 0, none, 0⟩]

def tagSchema : Schema :=
  { Schema.empty with
    tables :=
      [⟨"tag", "",
        [⟨0, "id", some .integer, false, none, true⟩,
         ⟨1, "label", some .text, false, none, false⟩], []⟩] }

theorem tagSchema_leavesOut :
    List.Forall₂ (fun rows t => rows.mapM ColumnRow.toColumn = .ok t.columns) [tagRows]
        tagSchema.tables ∧
      List.Forall₂ (fun rows e => e.properties.map (·.column) = rows.map (·.name) ∧
        ∀ (i : Nat) (row : ColumnRow) (p : Property), rows[i]? = some row →
          e.properties[i]? = some p →
          (LeavesOut e i ↔ row.IsLoneKey rows ∧ p.valueType = .integer ∧
            ∃ declared ∈ row.type, IsIntegerWord declared) ∧
          ((rows.map (·.name)).Nodup → (LeavesOut e i ↔ OmitsColumn e row.name)))
        [tagRows] (fancify .default tagSchema "tags").tables :=
  have hread : List.Forall₂ (fun rows t => rows.mapM ColumnRow.toColumn = .ok t.columns) [tagRows]
      tagSchema.tables := .cons rfl .nil
  ⟨hread, (fancify_leavesOut tagSchema .default "tags" [tagRows] hread).2⟩

example : (fancify .default tagSchema "tags").tables.map (fun e => (Statements.ofEntity e).insert) =
    [some "INSERT INTO \"tag\" ( \"label\" ) VALUES ( ? )"] := by
  decide +kernel

end Record

end RecordLoom
