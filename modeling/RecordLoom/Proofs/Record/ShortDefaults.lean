import RecordLoom.Proofs.Catalog.Account
import RecordLoom.Proofs.Inputs.Acquisition
import RecordLoom.Proofs.Record.IntegerDefaults
import RecordLoom.Proofs.Record.Soundness

/-!
# Defaults of an acquired schema

What is acquired has been fetched, so that every default in it has been read from a text.  A number
that is read has no more digits than a number may have, and its default can be printed.
-/

namespace RecordLoom

open RecordLoom.Catalog

namespace Catalog

def HasShortDefaults (columns : List Column) : Prop :=
  ∀ c ∈ columns, ∀ n, c.default = some (.integer n) → Number.isLong n = false

theorem toColumn_short {row : ColumnRow} {c : Column} (h : row.toColumn = .ok c) {n : Int}
    (hdefault : c.default = some (.integer n)) : Number.isLong n = false := by
  obtain ⟨type, -, h⟩ := Code.bind_eq_ok h
  obtain ⟨literal, hliteral, h⟩ := Code.bind_eq_ok h
  cases h
  cases htext : row.default with
  | none =>
      rw [htext] at hliteral
      cases hliteral
      cases hdefault
  | some text =>
      rw [htext, Literal.parse?, Option.elim_some] at hliteral
      obtain ⟨read, hread, rfl⟩ := Code.map_eq_ok hliteral
      obtain rfl := Option.some.inj hdefault
      have hlt := Literal.parse_integer_lt hread
      exact Number.isLong_eq_false_iff.mpr hlt

theorem hasShortDefaults_of_mapM {rows : List ColumnRow} {columns : List Column}
    (h : rows.mapM ColumnRow.toColumn = .ok columns) : HasShortDefaults columns := by
  intro c hc n hdefault
  obtain ⟨row, -, hrow⟩ := Entity.exists_of_forall₂ (Code.forall₂_of_mapM h) hc
  exact toColumn_short hrow hdefault

structure Schema.HasShortDefaults (schema : Schema) : Prop where
  tables : ∀ t ∈ schema.tables, Catalog.HasShortDefaults t.columns
  views : ∀ v ∈ schema.views, Catalog.HasShortDefaults v.columns

variable {State : Type} {engine : Engine State}

theorem Schema.Holds.hasShortDefaults {schema : Schema} {place : Place} {state : State}
    (h : schema.Holds engine place state) : schema.HasShortDefaults where
  tables t ht := by
    obtain ⟨visit, -, hread⟩ := Entity.exists_of_forall₂ h.tables.flip ht
    obtain ⟨rows, -, hcolumns⟩ := hread.columns
    exact hasShortDefaults_of_mapM hcolumns
  views v hv := by
    obtain ⟨visit, -, hread⟩ := Entity.exists_of_forall₂ h.views.flip hv
    obtain ⟨rows, -, hcolumns⟩ := hread.columns
    exact hasShortDefaults_of_mapM hcolumns

end Catalog

/-! ## Acquired schemas -/

namespace Inputs

variable {State : Type} {engine : Engine State} {folder : Folder}

def Fetched (engine : Engine State) (schema : Schema) : Prop :=
  ∃ place source first last, fetchSchema engine place source first = (.ok schema, last)

theorem exists_of_withConnection_ok {α : Type} {place : Place} {source : String}
    {body : Run State α} {first last : Trace State} {a : α}
    (h : Run.withConnection engine place source body first = (.ok a, last)) :
    ∃ opened ended, body opened = (.ok a, ended) := by
  rw [Run.Keeps.withConnection_apply] at h
  have hresult : (Run.connect engine place source >>= fun _ => body) first =
      (.ok a, ((Run.connect engine place source >>= fun _ => body) first).2) :=
    Prod.ext (Prod.mk.inj h).1 rfl
  obtain ⟨_, opened, -, hbody⟩ := Run.exists_of_bind_ok hresult
  exact ⟨opened, _, hbody⟩

theorem readDatabase_fetched {path : Path} {first last : Trace State} {schema : Schema}
    (h : readDatabase engine folder path first = (.ok schema, last)) :
    Fetched engine schema := by
  obtain ⟨opened, ended, h⟩ := exists_of_withConnection_ok h
  exact ⟨_, _, opened, ended, h⟩

theorem replayAll_fetched {inputs : List (Path × InputKind)} {first last : Trace State}
    {schema : Schema} (h : replayAll engine folder inputs first = (.ok schema, last)) :
    Fetched engine schema := by
  obtain ⟨opened, ended, h⟩ := exists_of_withConnection_ok h
  obtain ⟨_, replayed, -, h⟩ := Run.exists_of_bind_ok h
  exact ⟨_, _, replayed, ended, h⟩

/-- What is acquired has been fetched last, from a database file or from the scratch database. -/
theorem acquire_fetched {paths : List Path} {first last : Trace State} {schema : Schema}
    (h : acquire engine folder paths first = (.ok schema, last)) : Fetched engine schema := by
  obtain ⟨inputs, classified, -, h⟩ := Run.exists_of_bind_ok h
  obtain ⟨acquired, told, hacquired, h⟩ := Run.exists_of_bind_ok h
  obtain ⟨_, _, -, h⟩ := Run.exists_of_bind_ok h
  cases h
  unfold acquireKinds at hacquired
  split at hacquired
  · exact readDatabase_fetched hacquired
  · exact replayAll_fetched hacquired

theorem acquire_hasShortDefaults {paths : List Path} {first last : Trace State} {schema : Schema}
    (h : acquire engine folder paths first = (.ok schema, last)) : schema.HasShortDefaults := by
  obtain ⟨place, source, before, after, hfetched⟩ := acquire_fetched h
  exact (fetchSchema_holds engine place source before hfetched).hasShortDefaults

end Inputs

/-! ## Their models -/

namespace Record

theorem ofSchema_short {schema : Schema} (h : schema.HasShortDefaults) (name : String) :
    ∀ e ∈ (Database.ofSchema schema name).entities, ∀ p ∈ e.properties, ∀ n,
      p.default = some (.integer n) → Number.isLong n = false := by
  intro e he p hp n hdefault
  rcases List.mem_append.mp he with he | he
  · obtain ⟨t, ht, rfl⟩ := List.mem_map.mp he
    obtain ⟨c, hc, rfl⟩ := List.mem_map.mp hp
    exact h.tables t ht c hc n hdefault
  · obtain ⟨v, hv, rfl⟩ := List.mem_map.mp he
    obtain ⟨c, hc, rfl⟩ := List.mem_map.mp hp
    exact h.views v hv c hc n hdefault

theorem fancify_short {schema : Schema} (h : schema.HasShortDefaults) (options : Naming.Options)
    (name : String) :
    ∀ e ∈ (Naming.fancify options schema name).entities, ∀ p ∈ e.properties, ∀ n,
      p.default = some (.integer n) → Number.isLong n = false := by
  intro e he p hp n hdefault
  obtain ⟨before, hbefore, -, hproperties⟩ := fancify_default he
  obtain ⟨q, hq, hsame⟩ := hproperties p hp
  exact ofSchema_short h name before hbefore q hq n (hsame.trans hdefault)

end Record

end RecordLoom
