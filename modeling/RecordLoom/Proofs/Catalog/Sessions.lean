import RecordLoom.Proofs.Catalog.Calls

/-!
# Sessions

A session with a database starts when it is connected to and ends when it is released.  Calls are
nested if sessions are: the one that started last ends first.
-/

namespace RecordLoom.Catalog

/-- A database that was connected to and is not released yet, with whether it was opened. -/
structure Session where
  place : Place
  accepted : Bool

/-- The calls that may be made in some sessions, the latest first.  Queries go to the latest
database, and nothing is executed unless the scratch database is the only one. -/
def Call.Allowed (sessions : List Session) : Call → Prop
  | .connect _ _ => ∀ s ∈ sessions, s.accepted = true
  | .release place => sessions.head?.map (·.place) = some place
  | .execute _ | .runScript _ => sessions = [⟨.scratch, true⟩]
  | .queryCatalog place | .querySchemaVersion place | .queryUserVersion place
  | .queryTableInfo place _ | .queryForeignKeys place _ => sessions.head? = some ⟨place, true⟩

def Call.enter (sessions : List Session) : Call → List Session
  | .connect place accepted => ⟨place, accepted⟩ :: sessions
  | .release _ => sessions.tail
  | _ => sessions

/-- The sessions that are left after some calls, the latest first. -/
def sessionsAfter (sessions : List Session) (calls : List Call) : List Session :=
  calls.foldl Call.enter sessions

def Call.Stays : Call → Prop
  | .connect _ _ | .release _ => False
  | _ => True

/-- Calls that are made in some sessions and end none of them.  A session that they start, they also
end. -/
inductive Nested : List Session → List Call → Prop
  | nil {sessions : List Session} : Nested sessions []
  | call {sessions : List Session} {call : Call} {rest : List Call} (hstays : call.Stays)
      (hallowed : call.Allowed sessions) (hrest : Nested sessions rest) :
      Nested sessions (call :: rest)
  | session {sessions : List Session} {place : Place} {accepted : Bool} {inside rest : List Call}
      (hallowed : (Call.connect place accepted).Allowed sessions)
      (hinside : Nested (⟨place, accepted⟩ :: sessions) inside) (hrest : Nested sessions rest) :
      Nested sessions (.connect place accepted :: (inside ++ .release place :: rest))

/-! ## Nested calls -/

section

variable {sessions : List Session} {calls more : List Call} {place : Place}

theorem sessionsAfter_append (sessions : List Session) (calls more : List Call) :
    sessionsAfter sessions (calls ++ more) = sessionsAfter (sessionsAfter sessions calls) more :=
  List.foldl_append

theorem Call.Stays.enter {call : Call} (h : call.Stays) (sessions : List Session) :
    call.enter sessions = sessions := by
  cases call with
  | connect | release => exact h.elim
  | _ => rfl

theorem Nested.sessionsAfter_eq (h : Nested sessions calls) :
    sessionsAfter sessions calls = sessions := by
  induction h with
  | nil => rfl
  | @call sessions call rest hstays _ _ ih =>
      change sessionsAfter (call.enter sessions) rest = sessions
      rw [hstays.enter, ih]
  | @session sessions place accepted inside rest _ _ _ ihinside ihrest =>
      change sessionsAfter (⟨place, accepted⟩ :: sessions) (inside ++ .release place :: rest) = _
      rw [sessionsAfter_append, ihinside]
      exact ihrest

theorem Nested.append (h : Nested sessions calls) (hmore : Nested sessions more) :
    Nested sessions (calls ++ more) := by
  induction h with
  | nil => exact hmore
  | call hstays hallowed _ ih => exact .call hstays hallowed (ih hmore)
  | session hallowed hinside _ _ ih =>
      rw [List.cons_append, List.append_assoc]
      exact .session hallowed hinside (ih hmore)

theorem Nested.of_forall (h : ∀ call ∈ calls, call.Stays ∧ call.Allowed sessions) :
    Nested sessions calls := by
  induction calls with
  | nil => exact .nil
  | cons call rest ih =>
      obtain ⟨⟨hstays, hallowed⟩, hrest⟩ := List.forall_mem_cons.mp h
      exact .call hstays hallowed (ih hrest)

/-- Nested calls up to the release of the session around them are determined by what follows that
session's start. -/
theorem Nested.unique {inside other rest last : List Call} {released : Place}
    (h : Nested sessions inside) (hother : Nested sessions other)
    (hsame : inside ++ .release place :: rest = other ++ .release released :: last) :
    inside = other := by
  induction h generalizing other rest last place released with
  | nil =>
      cases hother with
      | nil => rfl
      | call hstays =>
          obtain ⟨rfl, -⟩ := List.cons.inj hsame
          exact hstays.elim
      | session => cases (List.cons.inj hsame).1
  | call hstays _ _ ih =>
      cases hother with
      | nil =>
          obtain ⟨rfl, -⟩ := List.cons.inj hsame
          exact hstays.elim
      | call _ _ hrest =>
          obtain ⟨rfl, htail⟩ := List.cons.inj hsame
          rw [ih hrest htail]
      | session =>
          obtain ⟨rfl, -⟩ := List.cons.inj hsame
          exact hstays.elim
  | session _ _ _ ihinside ihrest =>
      cases hother with
      | nil => cases (List.cons.inj hsame).1
      | call hstays =>
          obtain ⟨rfl, -⟩ := List.cons.inj hsame
          exact hstays.elim
      | session _ hinside hrest =>
          obtain ⟨hconnect, htail⟩ := List.cons.inj hsame
          cases hconnect
          simp only [List.append_eq, List.append_assoc] at htail
          obtain rfl := ihinside hinside htail
          rw [ihrest hrest (List.cons.inj (List.append_cancel_left htail)).2]

end

/-! ## Queries -/

theorem stays_of_queries {call : Call} {place : Place} (h : call.Queries place) : call.Stays := by
  cases call <;> first | exact h.elim | trivial

theorem allowed_of_queries {call : Call} {place : Place} (h : call.Queries place)
    (sessions : List Session) : call.Allowed (⟨place, true⟩ :: sessions) := by
  cases call <;> first | exact h.elim | exact h ▸ rfl

theorem nested_of_queries {place : Place} {queries : List Call}
    (h : ∀ call ∈ queries, call.Queries place) (sessions : List Session) :
    Nested (⟨place, true⟩ :: sessions) queries :=
  .of_forall fun call hcall =>
    ⟨stays_of_queries (h call hcall), allowed_of_queries (h call hcall) _⟩

theorem nested_session {sessions : List Session} {place : Place} {queries : List Call}
    (hsessions : ∀ s ∈ sessions, s.accepted = true)
    (h : ∀ call ∈ queries, call.Queries place) :
    Nested sessions (.connect place true :: (queries ++ [Call.release place])) :=
  .session hsessions (nested_of_queries h _) .nil

theorem execute_notMem_session {place : Place} {queries : List Call}
    (hqueries : ∀ call ∈ queries, call.Queries place) (sql : String) :
    Call.execute sql ∉ Call.connect place true :: (queries ++ [Call.release place]) := by
  intro hmem
  have hqueried : Call.execute sql ∈ queries := by simpa using hmem
  exact hqueries _ hqueried

/-! ## Brackets -/

def Follows : List Session → List Call → Prop
  | _, [] => True
  | sessions, call :: rest => call.Allowed sessions ∧ Follows (call.enter sessions) rest

section

variable {sessions : List Session} {calls more : List Call} {place : Place}

theorem follows_append (sessions : List Session) (calls more : List Call) :
    Follows sessions (calls ++ more) ↔
      Follows sessions calls ∧ Follows (sessionsAfter sessions calls) more := by
  induction calls generalizing sessions with
  | nil => exact (iff_of_eq (true_and _)).symm
  | cons call rest ih => exact (and_congr_right fun _ => ih _).trans and_assoc.symm

theorem Nested.follows (h : Nested sessions calls) : Follows sessions calls := by
  induction h with
  | nil => trivial
  | @call sessions call rest hstays hallowed _ ih =>
      refine ⟨hallowed, ?_⟩
      rwa [hstays.enter]
  | @session sessions place accepted inside rest hallowed hinside _ ihinside ihrest =>
      refine ⟨hallowed, (follows_append _ _ _).mpr ⟨ihinside, ?_⟩⟩
      change Follows (sessionsAfter (⟨place, accepted⟩ :: sessions) inside) _
      rw [hinside.sessionsAfter_eq]
      exact ⟨rfl, ihrest⟩

theorem append_eq_append_cons {before after : List Call} {call : Call}
    (h : calls ++ more = before ++ call :: after) :
    (∃ rest, calls = before ++ call :: rest ∧ after = rest ++ more) ∨
      ∃ rest, before = calls ++ rest ∧ more = rest ++ call :: after := by
  rcases List.append_eq_append_iff.mp h with ⟨rest, hbefore, hmore⟩ | ⟨rest, hcalls, hafter⟩
  · exact .inr ⟨rest, hbefore, hmore⟩
  · cases rest with
    | nil => exact .inr ⟨[], by simpa using hcalls.symm, hafter.symm⟩
    | cons first rest =>
        obtain ⟨rfl, hrest⟩ := List.cons.inj hafter
        exact .inl ⟨rest, hcalls, hrest⟩

theorem Nested.exists_release {before after : List Call} {accepted : Bool}
    (h : Nested sessions calls) (hcalls : calls = before ++ Call.connect place accepted :: after) :
    ∃ inside rest, after = inside ++ Call.release place :: rest ∧
      Nested (⟨place, accepted⟩ :: sessionsAfter sessions before) inside := by
  induction h generalizing before after with
  | nil => exact absurd hcalls (by simp)
  | @call sessions call rest hstays _ _ ih =>
      cases before with
      | nil =>
          obtain ⟨rfl, -⟩ := List.cons.inj hcalls
          exact hstays.elim
      | cons first before =>
          obtain ⟨rfl, hrest⟩ := List.cons.inj hcalls
          obtain ⟨inside, rest, hafter, hinside⟩ := ih hrest
          refine ⟨inside, rest, hafter, ?_⟩
          change Nested (_ :: sessionsAfter (call.enter sessions) before) inside
          rwa [hstays.enter]
  | @session sessions outer opened inner rest _ hinner _ ihinner ihrest =>
      cases before with
      | nil =>
          obtain ⟨hconnect, hafter⟩ := List.cons.inj hcalls
          cases hconnect
          exact ⟨inner, rest, hafter.symm, hinner⟩
      | cons first before =>
          obtain ⟨rfl, htail⟩ := List.cons.inj hcalls
          rcases append_eq_append_cons htail with ⟨later, hwithin, rfl⟩ | ⟨before, rfl, hlater⟩
          · obtain ⟨inside, last, rfl, hinside⟩ := ihinner hwithin
            exact ⟨inside, last ++ .release outer :: rest, by simp, hinside⟩
          · cases before with
            | nil => cases (List.cons.inj hlater).1
            | cons first before =>
                obtain ⟨rfl, hrest⟩ := List.cons.inj hlater
                obtain ⟨inside, last, hafter, hinside⟩ := ihrest hrest
                refine ⟨inside, last, hafter, ?_⟩
                change Nested (_ :: sessionsAfter (⟨outer, opened⟩ :: sessions)
                  (inner ++ .release outer :: before)) inside
                rw [sessionsAfter_append, hinner.sessionsAfter_eq]
                exact hinside

/-- Calls of which each is allowed when it is made.  Each session has one end, and no session is
left. -/
structure Bracketed (calls : List Call) : Prop where
  allowed : ∀ before call after, calls = before ++ call :: after →
    call.Allowed (sessionsAfter [] before)
  released : ∀ before place accepted after, calls = before ++ .connect place accepted :: after →
    ∃! inside, ∃ rest, after = inside ++ .release place :: rest ∧
      Nested (⟨place, accepted⟩ :: sessionsAfter [] before) inside
  left : sessionsAfter [] calls = []

theorem Nested.bracketed (h : Nested [] calls) : Bracketed calls where
  allowed before call after hcalls := by
    have hfollows := h.follows
    rw [hcalls, follows_append] at hfollows
    exact hfollows.2.1
  released before place accepted after hcalls := by
    obtain ⟨inside, rest, rfl, hinside⟩ := h.exists_release hcalls
    refine ⟨inside, ⟨rest, rfl, hinside⟩, ?_⟩
    rintro other ⟨last, hsame, hother⟩
    exact hother.unique hinside hsame.symm
  left := h.sessionsAfter_eq

end

end RecordLoom.Catalog
