import RecordLoom.Proofs.Catalog.Listing

/-!
# Where tables come from

Whatever an engine answers, and however its answers change, every table of a schema that is fetched
stands for two answers of the same run: the rows of its columns and the rows of its foreign keys.
-/

namespace RecordLoom.Catalog

variable {State α : Type}

/-! ## Answers in a run -/

def Engine.Extends (engine : Engine State) (first last : Trace State) : Prop :=
  ∃ calls, last.calls = first.calls ++ calls ∧ last.engine = engine.after first.engine calls

/-- Whether a call that a trace adds to another one was answered with `a`. -/
def Engine.Answered (engine : Engine State) (first last : Trace State) (call : Call)
    (reply : Reply State α) (a : α) : Prop :=
  ∃ before after, last.calls = first.calls ++ before ++ call :: after ∧
    (reply (engine.after first.engine before)).1 = .ok a

section

variable {engine : Engine State} {first middle last : Trace State} {call : Call}
  {reply : Reply State α} {a : α}

theorem Engine.Answered.later (h : engine.Answered first middle call reply a)
    (hextends : engine.Extends middle last) : engine.Answered first last call reply a := by
  obtain ⟨before, after, hcalls, hanswer⟩ := h
  obtain ⟨more, hmore, -⟩ := hextends
  exact ⟨before, after ++ more, by simp [hmore, hcalls], hanswer⟩

theorem Engine.Answered.earlier (hextends : engine.Extends first middle)
    (h : engine.Answered middle last call reply a) : engine.Answered first last call reply a := by
  obtain ⟨before, after, hcalls, hanswer⟩ := h
  obtain ⟨more, hmore, hengine⟩ := hextends
  refine ⟨more ++ before, after, by simp [hcalls, hmore], ?_⟩
  rwa [engine.after_append, ← hengine]

namespace Run

theorem Keeps.extends {blamed : Failure → Prop} {x : Run State α} (h : Keeps engine blamed x)
    {result : Except Failure α} (hx : x first = (result, last)) : engine.Extends first last := by
  obtain ⟨result', trace, hends, hrun⟩ := h first.engine
  rw [hrun first rfl] at hx
  cases hx
  exact ⟨trace.calls, rfl, hends.follows⟩

theorem extends_of_ask {blame : EngineError → Failure} {result : Except Failure α}
    (hnext : ∀ state, engine.next state call = (reply state).2)
    (h : Run.ask call reply blame first = (result, last)) : engine.Extends first last := by
  unfold Run.ask at h
  obtain ⟨-, rfl⟩ := Prod.mk.inj h
  exact ⟨[call], rfl, (hnext first.engine).symm⟩

theorem answered_of_ask {blame : EngineError → Failure}
    (h : Run.ask call reply blame first = (.ok a, last)) :
    engine.Answered first last call reply a := by
  have hanswer := congrArg Prod.fst (Run.of_ask_ok h)
  obtain ⟨-, rfl⟩ := Prod.mk.inj h
  exact ⟨[], [], by simp [Trace.record], hanswer⟩

end Run

end

/-! ## Tables -/

/-- A table stands for the rows that the engine answered with in a run. -/
structure Table.StandsFor (t : Table) (engine : Engine State) (place : Place)
    (first last : Trace State) (rows : List ColumnRow) (keys : List ForeignKeyRow) : Prop where
  columnsAnswered : engine.Answered first last (.queryTableInfo place t.name)
    (engine.tableInfo place t.name) rows
  columns : rows.mapM ColumnRow.toColumn = .ok t.columns
  keysAnswered : engine.Answered first last (.queryForeignKeys place t.name)
    (engine.foreignKeyList place t.name) keys
  foreignKeys : t.foreignKeys = keys.map ForeignKeyRow.toForeignKey

section

variable {engine : Engine State} {place : Place} {source : String}
  {first middle last : Trace State}

theorem Table.StandsFor.later {t : Table} {rows : List ColumnRow} {keys : List ForeignKeyRow}
    (h : t.StandsFor engine place first middle rows keys) (hextends : engine.Extends middle last) :
    t.StandsFor engine place first last rows keys :=
  ⟨h.columnsAnswered.later hextends, h.columns, h.keysAnswered.later hextends, h.foreignKeys⟩

theorem Table.StandsFor.earlier {t : Table} {rows : List ColumnRow} {keys : List ForeignKeyRow}
    (hextends : engine.Extends first middle)
    (h : t.StandsFor engine place middle last rows keys) :
    t.StandsFor engine place first last rows keys :=
  ⟨.earlier hextends h.columnsAnswered, h.columns, .earlier hextends h.keysAnswered,
    h.foreignKeys⟩

theorem fetchColumns_answered {name : String} {columns : List Column}
    (h : fetchColumns engine place source name first = (.ok columns, last)) :
    ∃ rows, engine.Answered first last (.queryTableInfo place name) (engine.tableInfo place name)
      rows ∧ rows.mapM ColumnRow.toColumn = .ok columns := by
  obtain ⟨rows, hask, hread⟩ := fetchColumns_asked h
  exact ⟨rows, Run.answered_of_ask hask, hread⟩

theorem fetchForeignKeys_answered {name : String} {keys : List ForeignKey}
    (h : fetchForeignKeys engine place source name first = (.ok keys, last)) :
    ∃ rows, engine.Answered first last (.queryForeignKeys place name)
      (engine.foreignKeyList place name) rows ∧ keys = rows.map ForeignKeyRow.toForeignKey := by
  obtain ⟨rows, hask, hread⟩ := fetchForeignKeys_asked h
  exact ⟨rows, Run.answered_of_ask hask, hread⟩

theorem fetchRow_tables {before after : Schema} {row : CatalogRow}
    (h : fetchRow engine place source before row first = (.ok after, last)) :
    ∀ t ∈ after.tables,
      t ∈ before.tables ∨ ∃ rows keys, t.StandsFor engine place first last rows keys := by
  intro t ht
  cases fetchRow_enters h with
  | view | index | trigger | skipped => exact .inl ht
  | table hrole hcolumns hkeys =>
      rcases List.mem_append.mp ht with ht | ht
      · exact .inl ht
      · obtain rfl := List.mem_singleton.mp ht
        obtain ⟨rows, hrows, hread⟩ := fetchColumns_answered hcolumns
        obtain ⟨answers, hanswers, rfl⟩ := fetchForeignKeys_answered hkeys
        exact .inr ⟨rows, answers,
          hrows.later ((fetchForeignKeys_keeps engine place source row.name).extends hkeys), hread,
          .earlier ((fetchColumns_keeps engine place source row.name).extends hcolumns) hanswers,
          rfl⟩

theorem fetchRows_tables {rows : List CatalogRow} {before after : Schema}
    (h : rows.foldlM (fetchRow engine place source) before first = (.ok after, last)) :
    ∀ t ∈ after.tables,
      t ∈ before.tables ∨ ∃ rows keys, t.StandsFor engine place first last rows keys := by
  induction rows generalizing before first with
  | nil =>
      cases h
      exact fun t ht => .inl ht
  | cons row rest ih =>
      rw [List.foldlM_cons] at h
      obtain ⟨schema, middle, hrow, hrest⟩ := Run.exists_of_bind_ok h
      have hfirst := (fetchRow_keeps engine place source before row).extends hrow
      have hlast :=
        (Run.Keeps.foldlM (fetchRow_keeps engine place source) rest schema).extends hrest
      intro t ht
      rcases ih hrest t ht with ht | ⟨rows, keys, hstands⟩
      · refine (fetchRow_tables hrow t ht).imp_right ?_
        rintro ⟨rows, keys, hstands⟩
        exact ⟨rows, keys, hstands.later hlast⟩
      · exact .inr ⟨rows, keys, .earlier hfirst hstands⟩

theorem fetchSchema_tables {schema : Schema}
    (h : fetchSchema engine place source first = (.ok schema, last)) :
    ∀ t ∈ schema.tables, ∃ rows keys, t.StandsFor engine place first last rows keys := by
  obtain ⟨rows, second, hcatalog, h⟩ := Run.exists_of_bind_ok h
  obtain ⟨version, third, hversion, h⟩ := Run.exists_of_bind_ok h
  obtain ⟨userVersion, fourth, huserVersion, h⟩ := Run.exists_of_bind_ok h
  obtain ⟨fetched, fifth, hrows, h⟩ := Run.exists_of_bind_ok h
  obtain ⟨_, sixth, htell, h⟩ := Run.exists_of_bind_ok h
  cases h
  intro t ht
  rcases fetchRows_tables hrows t ht with ht | ⟨rows, keys, hstands⟩
  · cases ht
  · have hlast : engine.Extends fifth last := by
      cases htell
      exact ⟨[], (List.append_nil _).symm, rfl⟩
    refine ⟨rows, keys, .later ?_ hlast⟩
    refine .earlier (Run.extends_of_ask (fun _ => rfl) hcatalog) ?_
    refine .earlier (Run.extends_of_ask (fun _ => rfl) hversion) ?_
    exact .earlier (Run.extends_of_ask (fun _ => rfl) huserVersion) hstands

end

end RecordLoom.Catalog
