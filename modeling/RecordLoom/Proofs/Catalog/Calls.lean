import RecordLoom.Proofs.Catalog.Runs

/-!
# The calls of a run

What holds of no calls, and of two rows of calls one after another if it holds of each, holds of the
calls of a run as soon as it holds of the calls of its parts.
-/

namespace RecordLoom.Catalog

/-- A property that rows of calls keep when they are put one after another. -/
structure Chains (P : List Call → Prop) : Prop where
  nil : P []
  append : ∀ {calls more}, P calls → P more → P (calls ++ more)

theorem chains_forall (P : Call → Prop) : Chains fun calls => ∀ call ∈ calls, P call where
  nil := List.forall_mem_nil P
  append := fun hcalls hmore => List.forall_mem_append.mpr ⟨hcalls, hmore⟩

def Call.Queries (place : Place) : Call → Prop
  | .queryCatalog asked | .querySchemaVersion asked | .queryUserVersion asked
  | .queryTableInfo asked _ | .queryForeignKeys asked _ => asked = place
  | _ => False

def Trace.entered {State : Type} (trace : Trace State) (place : Place) (opened : State) :
    Trace State :=
  ⟨opened, trace.calls ++ [.connect place true], trace.events⟩

namespace Run

variable {State α β : Type}

section

variable {engine : Engine State} {place : Place} {source : String} {trace : Trace State}
  {opened : State}

theorem withConnection_refused {e : EngineError}
    (h : engine.connect place trace.engine = (.error e, opened)) (body : Run State α) :
    Run.withConnection engine place source body trace = (.error (.openFailed source e),
      ⟨opened, trace.calls ++ [.connect place false, .release place], trace.events⟩) := by
  have hconnect : Run.connect engine place source trace = (.error (.openFailed source e),
      ⟨opened, trace.calls ++ [.connect place false], trace.events⟩) := by
    simp only [Run.connect, h]
    rfl
  rw [Keeps.withConnection_apply, bind_error hconnect]
  simp [Trace.record]

theorem withConnection_accepted (h : engine.connect place trace.engine = (.ok (), opened))
    (body : Run State α) :
    Run.withConnection engine place source body trace =
      ((body (trace.entered place opened)).1,
        (body (trace.entered place opened)).2.record (.release place)) := by
  have hconnect : Run.connect engine place source trace =
      (.ok (), trace.entered place opened) := by
    simp only [Run.connect, h]
    rfl
  rw [Keeps.withConnection_apply, bind_ok hconnect]

end

def Acts (P : List Call → Prop) (F : Failure → Prop) (x : Run State α) : Prop :=
  ∀ before : Trace State, ∃ calls, (x before).2.calls = before.calls ++ calls ∧ P calls ∧
    ∀ f, (x before).1 = .error f → F f

namespace Acts

variable {P : List Call → Prop} {F : Failure → Prop}

theorem pure (hP : Chains P) (a : α) : Acts P F (pure a : Run State α) :=
  fun before => ⟨[], (List.append_nil before.calls).symm, hP.nil, nofun⟩

theorem tell (hP : Chains P) (event : Journal.Event) :
    Acts P F (Run.tell event : Run State Unit) :=
  fun before => ⟨[], (List.append_nil before.calls).symm, hP.nil, nofun⟩

theorem bind (hP : Chains P) {x : Run State α} {f : α → Run State β} (hx : Acts P F x)
    (hf : ∀ a, Acts P F (f a)) : Acts P F (x >>= f) := by
  intro before
  obtain ⟨calls, hcalls, hfirst, hfailure⟩ := hx before
  rcases hresult : x before with ⟨e | a, next⟩
  · rw [hresult] at hcalls hfailure
    rw [bind_error hresult]
    refine ⟨calls, hcalls, hfirst, fun f hf => hfailure f ?_⟩
    cases hf
    rfl
  · rw [hresult] at hcalls
    rw [bind_ok hresult]
    obtain ⟨more, hmore, hsecond, hfailure⟩ := hf a next
    exact ⟨calls ++ more, by rw [hmore, hcalls, List.append_assoc], hP.append hfirst hsecond,
      hfailure⟩

theorem ask {ε : Type} {call : Call} {reply : State → Except ε α × State} {blame : ε → Failure}
    (hcall : P [call]) (hblame : ∀ e, F (blame e)) : Acts P F (Run.ask call reply blame) := by
  intro before
  refine ⟨[call], rfl, hcall, fun f hf => ?_⟩
  obtain ⟨e, -, rfl⟩ := ask_failure_iff.mp hf
  exact hblame e

theorem ofExcept (hP : Chains P) {result : Except Failure α} (hF : ∀ f, result = .error f → F f) :
    Acts P F (ExceptT.mk (Pure.pure result) : Run State α) :=
  fun before => ⟨[], (List.append_nil before.calls).symm, hP.nil, hF⟩

theorem foldlM (hP : Chains P) {f : β → α → Run State β} (h : ∀ b a, Acts P F (f b a))
    (items : List α) (b : β) : Acts P F (items.foldlM f b) := by
  induction items generalizing b with
  | nil => exact .pure hP b
  | cons a rest ih =>
      rw [List.foldlM_cons]
      exact (h b a).bind hP ih

end Acts

end Run

/-! ## Fetching a schema -/

section

variable {State : Type} {P : List Call → Prop} {F : Failure → Prop} {engine : Engine State}
  {place : Place} {source : String}

/-- A failure of fetching a schema: the database at its source refuses a query, or describes a
column that cannot be read. -/
def FetchFailure (source : String) (f : Failure) : Prop :=
  (∃ e object, f = .fetchFailed source e object) ∨ ∃ fault, f = .conversion fault

variable (hP : Chains P) (hquery : ∀ call : Call, call.Queries place → P [call])

include hP hquery

theorem fetchColumns_acts (name : String) :
    Run.Acts P (FetchFailure source) (fetchColumns engine place source name) := by
  refine .bind hP (.ask (hquery _ rfl) fun e => .inl ⟨e, some name, rfl⟩) fun rows => ?_
  refine .ofExcept hP fun f hf => .inr ?_
  cases hrows : rows.mapM ColumnRow.toColumn with
  | ok columns =>
      rw [hrows] at hf
      cases hf
  | error fault =>
      rw [hrows] at hf
      cases hf
      exact ⟨fault, rfl⟩

theorem fetchForeignKeys_acts (name : String) :
    Run.Acts P (FetchFailure source) (fetchForeignKeys engine place source name) :=
  .bind hP (.ask (hquery _ rfl) fun e => .inl ⟨e, some name, rfl⟩) fun _ => .pure hP _

theorem fetchRow_acts (schema : Schema) (row : CatalogRow) :
    Run.Acts P (FetchFailure source) (fetchRow engine place source schema row) := by
  unfold fetchRow
  split
  · split
    · exact .pure hP _
    · exact .bind hP (fetchColumns_acts hP hquery row.name) fun columns =>
        .bind hP (fetchForeignKeys_acts hP hquery row.name) fun keys => .pure hP _
  · exact .bind hP (fetchColumns_acts hP hquery row.name) fun columns => .pure hP _
  · exact .pure hP _
  · exact .pure hP _
  · exact .bind hP (.tell hP _) fun _ => .pure hP _

theorem fetchSchema_acts :
    Run.Acts P (FetchFailure source) (fetchSchema engine place source) := by
  refine .bind hP (.ask (hquery _ rfl) fun e => .inl ⟨e, none, rfl⟩) fun rows => ?_
  refine .bind hP (.ask (hquery _ rfl) fun e => .inl ⟨e, none, rfl⟩) fun version => ?_
  refine .bind hP (.ask (hquery _ rfl) fun e => .inl ⟨e, none, rfl⟩) fun userVersion => ?_
  refine .bind hP (.foldlM hP (fetchRow_acts hP hquery) rows _) fun schema => ?_
  exact .bind hP (.tell hP _) fun _ => .pure hP _

end

end RecordLoom.Catalog
