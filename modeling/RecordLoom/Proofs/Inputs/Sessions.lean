import RecordLoom.Proofs.Catalog.Sessions
import RecordLoom.Proofs.Inputs.Order

/-!
# Sessions of acquisition

Whatever the engine refuses, the sessions of acquisition are nested and all of them end.  Queries
go to a database in session, and the statements of a database are executed only after the session in
which it was read.
-/

namespace RecordLoom.Inputs

open RecordLoom.Catalog

/-! ## Acquisition -/

section

variable {State : Type} {engine : Engine State} {folder : Folder}

theorem Prepared.nested {state : State} {input : Path × InputKind} {read : List Call}
    {sendings : List Sending} (h : Prepared engine folder state input read sendings)
    {sessions : List Session} (hsessions : ∀ s ∈ sessions, s.accepted = true) :
    Nested sessions read := by
  cases h with
  | script => exact .nil
  | database _ _ hqueries => exact nested_session hsessions hqueries

theorem Unprepared.nested {state : State} {input : Path × InputKind} {read : List Call}
    {f : Failure} (h : Unprepared engine folder state input read f)
    {sessions : List Session} (hsessions : ∀ s ∈ sessions, s.accepted = true) :
    Nested sessions read := by
  cases h with
  | script => exact .nil
  | refused => exact .session hsessions .nil .nil
  | unread _ hqueries => exact nested_session hsessions hqueries

theorem Prepared.sends {state : State} {input : Path × InputKind} {read : List Call}
    {sendings : List Sending} (h : Prepared engine folder state input read sendings) :
    ∀ call ∈ sendings.map (·.call), call.Stays ∧ call.Allowed [⟨.scratch, true⟩] := by
  refine List.forall_mem_map.mpr fun s hs => ?_
  cases h with
  | script =>
      obtain rfl := List.mem_singleton.mp hs
      exact ⟨trivial, rfl⟩
  | database =>
      rcases List.mem_append.mp hs with hs | hs
      · obtain ⟨row, -, rfl⟩ := List.mem_map.mp hs
        exact ⟨trivial, rfl⟩
      · obtain rfl := List.mem_singleton.mp hs
        exact ⟨trivial, rfl⟩

theorem scratch_accepted : ∀ s ∈ [(⟨.scratch, true⟩ : Session)], s.accepted = true :=
  List.forall_mem_singleton.mpr rfl

theorem Replayed.nested {state : State} {inputs : List (Path × InputKind)} {calls : List Call}
    (h : Replayed engine folder state inputs calls) : Nested [⟨.scratch, true⟩] calls := by
  induction h with
  | nil => exact .nil
  | cons hprepared _ _ ih =>
      exact ((hprepared.nested scratch_accepted).append (.of_forall hprepared.sends)).append ih

theorem Ending.nested {state : State} {inputs : List (Path × InputKind)} {calls : List Call}
    {result : Except Failure Schema} (h : Ending engine folder state inputs calls result) :
    Nested [⟨.scratch, true⟩] calls := by
  cases h with
  | fetched hqueries => exact nested_of_queries hqueries []
  | unprepared h => exact h.nested scratch_accepted
  | @refused _ _ read before later s _ hprepared | @broken _ _ read before later s _ hprepared =>
      refine (hprepared.nested scratch_accepted).append (.of_forall fun call hcall => ?_)
      refine hprepared.sends call ?_
      rw [List.append_cons, List.map_append]
      exact List.mem_append_left _ hcall

theorem InOrder.nested {state : State} {inputs : List (Path × InputKind)} {calls : List Call}
    {result : Except Failure Schema} (h : InOrder engine folder state inputs calls result) :
    Nested [] calls := by
  cases h with
  | closed => exact .session (List.forall_mem_nil _) .nil .nil
  | opened _ _ hreplayed hending =>
      exact .session (List.forall_mem_nil _) (hreplayed.nested.append hending.nested) .nil

/-! ## Statements -/

/-- A statement that is executed after some calls.  It is one of a database that was read before, in
a session that has ended; only statements of this database were executed since. -/
def Executed (engine : Engine State) (folder : Folder) (state : State) (before : List Call)
    (sql : String) : Prop :=
  ∃ (path : Path) (earlier queries : List Call) (s : Sending) (sent later : List Sending),
    before = earlier ++ .connect (folder.place path) true ::
      (queries ++ .release (folder.place path) :: sent.map (·.call)) ∧
    Prepared engine folder (engine.after state earlier) (path, .database)
      (.connect (folder.place path) true :: (queries ++ [.release (folder.place path)]))
      (sent ++ s :: later) ∧
    s.call = .execute sql

def ExecutesRead (engine : Engine State) (folder : Folder) (state : State) (calls : List Call) :
    Prop :=
  ∀ before sql after, calls = before ++ .execute sql :: after →
    Executed engine folder state before sql

theorem executesRead_of_notMem {state : State} {calls : List Call}
    (h : ∀ sql, Call.execute sql ∉ calls) : ExecutesRead engine folder state calls :=
  fun _ sql _ hcalls => absurd (by simp [hcalls]) (h sql)

theorem Prepared.execute_notMem {state : State} {input : Path × InputKind} {read : List Call}
    {sendings : List Sending} (h : Prepared engine folder state input read sendings)
    (sql : String) : Call.execute sql ∉ read := by
  cases h with
  | script => exact List.not_mem_nil
  | database _ _ hqueries => exact execute_notMem_session hqueries sql

theorem Unprepared.execute_notMem {state : State} {input : Path × InputKind} {read : List Call}
    {f : Failure} (h : Unprepared engine folder state input read f) (sql : String) :
    Call.execute sql ∉ read := by
  cases h with
  | script => exact List.not_mem_nil
  | refused => simp
  | unread _ hqueries => exact execute_notMem_session hqueries sql

theorem Prepared.database_of_execute {state : State} {input : Path × InputKind}
    {read : List Call} {sendings : List Sending}
    (h : Prepared engine folder state input read sendings) {s : Sending} (hs : s ∈ sendings)
    {sql : String} (hcall : s.call = .execute sql) :
    ∃ path queries, input = (path, .database) ∧
      read = .connect (folder.place path) true ::
        (queries ++ [Call.release (folder.place path)]) := by
  cases h with
  | script =>
      obtain rfl := List.mem_singleton.mp hs
      cases hcall
  | @database path _ _ _ queries => exact ⟨path, queries, rfl, rfl⟩

section

variable {state : State} {earlier before after : List Call} {sql : String}

theorem Prepared.executed {input : Path × InputKind} {read : List Call}
    {sent later : List Sending}
    (h : Prepared engine folder (engine.after state earlier) input read (sent ++ later))
    (hcalls : read ++ sent.map (·.call) = before ++ .execute sql :: after) :
    Executed engine folder state (earlier ++ before) sql := by
  rcases append_eq_append_cons hcalls with ⟨rest, rfl, -⟩ | ⟨rest, rfl, hsent⟩
  · exact absurd (by simp) (h.execute_notMem sql)
  · obtain ⟨first, last, rfl, rfl, hlast⟩ := List.map_eq_append_iff.mp hsent
    obtain ⟨s, last, rfl, hcall, -⟩ := List.map_eq_cons_iff.mp hlast
    rw [List.append_assoc, List.cons_append] at h
    obtain ⟨path, queries, rfl, rfl⟩ := h.database_of_execute (by simp) hcall
    exact ⟨path, earlier, queries, s, first, last ++ later, by simp, h, hcall⟩

theorem Replayed.executed {opened : State} {inputs : List (Path × InputKind)}
    {calls : List Call} (h : Replayed engine folder opened inputs calls)
    (hopened : opened = engine.after state earlier)
    (hcalls : calls = before ++ .execute sql :: after) :
    Executed engine folder state (earlier ++ before) sql := by
  induction h generalizing earlier before with
  | nil => exact absurd hcalls (by simp)
  | @cons opened _ _ read calls sendings hprepared _ _ ih =>
      subst hopened
      rcases append_eq_append_cons hcalls with ⟨rest, hinput, -⟩ | ⟨rest, rfl, hrest⟩
      · rw [← List.append_nil sendings] at hprepared
        exact hprepared.executed hinput
      · rw [← List.append_assoc]
        exact ih (engine.after_append _ _ _).symm hrest

theorem Ending.executed {inputs : List (Path × InputKind)} {tail : List Call}
    {result : Except Failure Schema}
    (h : Ending engine folder (engine.after state earlier) inputs tail result)
    (hcalls : tail = before ++ .execute sql :: after) :
    Executed engine folder state (earlier ++ before) sql := by
  cases h with
  | fetched hqueries =>
      rw [hcalls] at hqueries
      exact (hqueries (.execute sql) (by simp)).elim
  | unprepared h => exact absurd (by simp [hcalls]) (h.execute_notMem sql)
  | @refused _ _ _ sent later s _ hprepared | @broken _ _ _ sent later s _ hprepared =>
      rw [List.append_cons] at hprepared
      exact hprepared.executed hcalls

end

theorem InOrder.executesRead {state : State} {inputs : List (Path × InputKind)} {calls : List Call}
    {result : Except Failure Schema} (h : InOrder engine folder state inputs calls result) :
    ExecutesRead engine folder state calls := by
  intro before sql after hcalls
  cases h with
  | closed =>
      have hmem : Call.execute sql ∈ [Call.connect .scratch false, .release .scratch] := by
        simp [hcalls]
      simp at hmem
  | @opened opened _ _ calls tail _ hopened _ hreplayed hending =>
      have hstate : opened = engine.after state [.connect .scratch true] := by
        change opened = (engine.connect .scratch state).2
        rw [hopened]
      cases before with
      | nil => cases (List.cons.inj hcalls).1
      | cons first before =>
          obtain ⟨rfl, htail⟩ := List.cons.inj hcalls
          rw [List.append_assoc] at htail
          rcases append_eq_append_cons htail with ⟨rest, hreplay, -⟩ | ⟨rest, rfl, hend⟩
          · exact hreplayed.executed hstate hreplay
          · rcases append_eq_append_cons hend with ⟨last, htail, -⟩ | ⟨last, rfl, hlast⟩
            · rw [hstate, ← engine.after_append] at hending
              exact hending.executed htail
            · have hmem : Call.execute sql ∈ [Call.release .scratch] := by simp [hlast]
              simp at hmem

/-! ## All runs -/

theorem acquire_unclassified {paths : List Path} {f : Failure}
    (h : classifyAll folder paths = .error f) (trace : Trace State) :
    acquire engine folder paths trace = (.error f, trace) := by
  rw [acquire, h]
  rfl

theorem acquireKinds_calls (engine : Engine State) (folder : Folder)
    (inputs : List (Path × InputKind)) (state : State) :
    Nested [] (acquireKinds engine folder inputs (.start state)).2.calls ∧
      ExecutesRead engine folder state
        (acquireKinds engine folder inputs (.start state)).2.calls := by
  unfold acquireKinds
  split
  case h_1 path =>
    obtain ⟨read, hcalls, -, hok, herror⟩ :=
      readDatabase_cases engine folder path (.start state)
    have hcalls : (readDatabase engine folder path (.start state)).2.calls = read := hcalls
    rw [hcalls]
    rcases hresult : (readDatabase engine folder path (.start state)).1 with f | schema
    · have hunread := herror f hresult
      exact ⟨hunread.nested (List.forall_mem_nil _),
        executesRead_of_notMem hunread.execute_notMem⟩
    · have hread := hok schema hresult
      exact ⟨hread.nested (List.forall_mem_nil _), executesRead_of_notMem hread.execute_notMem⟩
  case h_2 =>
    have hinOrder := replayAll_inOrder engine folder inputs state
    exact ⟨hinOrder.nested, hinOrder.executesRead⟩

/-- The calls of every run are bracketed, and before a statement of a database is executed, the
session in which the database was read has ended. -/
theorem acquire_bracketed (engine : Engine State) (folder : Folder) (paths : List Path)
    (state : State) :
    Bracketed (acquire engine folder paths (.start state)).2.calls ∧
      ExecutesRead engine folder state (acquire engine folder paths (.start state)).2.calls := by
  rcases hclassified : classifyAll folder paths with f | inputs
  · rw [acquire_unclassified hclassified]
    exact ⟨Nested.nil.bracketed, executesRead_of_notMem fun _ => List.not_mem_nil⟩
  · rw [(acquire_classified engine hclassified (.start state)).2]
    obtain ⟨hnested, hexecutes⟩ := acquireKinds_calls engine folder inputs state
    exact ⟨hnested.bracketed, hexecutes⟩

end

end RecordLoom.Inputs
