import RecordLoom.Generation
import RecordLoom.Proofs.Record.ShortDefaults

/-!
# How a run ends

A run is acquisition followed by stages that depend on the schema alone.  It gives a complete result
or fails with a code, unless one of six things happens: an input that nobody can look at, a column
that cannot be read, a call that breaks down, a scratch database that refuses a user version, a
default too large for the double it belongs to, or a number with too many digits to be printed.
-/

namespace RecordLoom.Generation

open RecordLoom.Catalog
open RecordLoom.Inputs
open RecordLoom.Naming
open RecordLoom.Record

/-! ## Stages -/

/-- What follows acquisition, without what it tells the journal. -/
def finish (settings : Settings) (paths : List Path) (name : Option String) (schema : Schema) :
    Except Failure Generation := do
  let database := fancify settings.naming schema (rawName name paths)
  let unit ← settings.output.unit database
  let source ← unit.render settings.render .swift
  pure ⟨database, unit, source⟩

section

variable {State : Type} (engine : Engine State) (folder : Folder) (settings : Settings)
  (paths : List Path) (name : Option String)

theorem exists_tellAll (events : List Journal.Event) (trace : Trace State) :
    ∃ next, tellAll events trace = (.ok (), next) := by
  induction events generalizing trace with
  | nil => exact ⟨trace, rfl⟩
  | cons event rest ih => exact ih (trace.tell event)

theorem describe_ok {options : Naming.Options} {given : String} {before acquired : Trace State}
    {schema : Schema} (h : acquire engine folder paths before = (.ok schema, acquired)) :
    ∃ next, describe engine folder options paths given before =
      (.ok (fancify options schema given), next) := by
  obtain ⟨next, htold⟩ := exists_tellAll (Naming.events (fancify options schema given)
    (Naming.run options (.ofSchema schema given)).2) acquired
  refine ⟨next, ?_⟩
  rw [describe, Run.bind_ok h]
  exact Run.bind_ok htold

theorem describe_error {options : Naming.Options} {given : String} {before acquired : Trace State}
    {f : Failure} (h : acquire engine folder paths before = (.error f, acquired)) :
    describe engine folder options paths given before = (.error f, acquired) :=
  Run.bind_error h

theorem build_result (before : Trace State) :
    (build engine folder settings paths name before).1 =
      (acquire engine folder paths (.start before.engine)).1 >>= finish settings paths name := by
  have hacquire := (acquire_keeps engine folder paths).apply before
  cases hschema : (acquire engine folder paths (.start before.engine)).1 with
  | error f =>
      rw [hschema] at hacquire
      rw [build, Run.bind_error (describe_error engine folder paths hacquire)]
      rfl
  | ok schema =>
      rw [hschema] at hacquire
      obtain ⟨next, hdescribe⟩ := describe_ok engine folder paths hacquire
      rw [build, Run.bind_ok hdescribe, Run.ofExcept_bind]
      change _ = finish settings paths name schema
      rw [finish]
      refine congrArg _ (funext fun u => ?_)
      obtain ⟨told, htold⟩ := exists_tellAll
        (Record.events (fancify settings.naming schema (rawName name paths)) u) next
      rw [Run.bind_ok htold, Run.ofExcept_bind]
      rfl

theorem exists_report (f : Failure) (trace : Trace State) :
    ∃ next, (do
      if f.isReported then Run.tell (failureEvent f)
      throw f : Run State Generation) trace = (.error f, next) := by
  cases hreported : f.isReported with
  | true => exact ⟨trace.tell (failureEvent f), rfl⟩
  | false => exact ⟨trace, rfl⟩

theorem run_result (state : State) :
    (run engine folder settings paths name (.start state)).1 =
      (acquire engine folder paths (.start state)).1 >>= finish settings paths name := by
  let started := (Trace.start state).tell
    (.note .info "generation_started" [("inputs", pathList paths)])
  have hstarted : Run.tell (.note .info "generation_started" [("inputs", pathList paths)])
      (.start state) = (.ok (), started) := rfl
  -- What has been told before does not matter: acquisition depends on the engine alone.
  have hbuild := build_result engine folder settings paths name started
  change _ = (acquire engine folder paths (.start started.engine)).1 >>= _
  rw [← hbuild, run, Run.bind_ok hstarted]
  rcases hresult : build engine folder settings paths name started with ⟨f | g, built⟩
  · obtain ⟨next, hreport⟩ := exists_report f built
    rw [Run.bind_error ((Run.tryCatch_error hresult).trans hreport)]
  · rw [Run.bind_ok (Run.tryCatch_ok hresult)]
    rfl

/-! ## Outcomes -/

/-- A result with all that belongs to it. -/
structure Complete (schema : Schema) (g : Generation) : Prop where
  database : g.database = fancify settings.naming schema (rawName name paths)
  unit : settings.output.unit g.database = .ok g.unit
  source : g.unit.render settings.render .swift = .ok g.source

theorem finish_ok {schema : Schema} {g : Generation}
    (h : finish settings paths name schema = .ok g) : Complete settings paths name schema g := by
  obtain ⟨u, hunit, h⟩ := Code.bind_eq_ok h
  obtain ⟨source, hsource, h⟩ := Code.bind_eq_ok h
  cases h
  exact ⟨rfl, hunit, hsource⟩

theorem finish_eq_error_iff {schema : Schema} {f : Failure} :
    finish settings paths name schema = .error f ↔
      settings.output.unit (fancify settings.naming schema (rawName name paths)) = .error f ∨
        ∃ u, settings.output.unit (fancify settings.naming schema (rawName name paths)) = .ok u ∧
          u.render settings.render .swift = .error f := by
  cases hunit : settings.output.unit (fancify settings.naming schema (rawName name paths)) with
  | error g => simp [finish, hunit, bind, Except.bind]
  | ok u =>
      cases hprinted : u.render settings.render .swift <;>
        simp [finish, hunit, hprinted, bind, Except.bind, pure, Except.pure]

/-- The numbers of a model that stand in its unit whatever its defaults are. -/
def HasLongNumber (db : Database) : Prop :=
  Number.isLong db.userVersion = true ∨
    ∃ e ∈ db.entities, Number.isLong e.properties.length = true

theorem render_unreported_iff {db : Database} {u : Code.CompilationUnit}
    (hunit : settings.output.unit db = .ok u)
    (hdefaults : ∀ e ∈ db.entities, ∀ p ∈ e.properties, ∀ n, p.default = some (.integer n) →
      Number.isLong n = false) :
    (∃ f, u.render settings.render .swift = .error f ∧ f.isReported = false) ↔
      HasLongNumber db := by
  have hprinted := render_iff_hasShortNumbers settings.output hunit hdefaults settings.render
  have hlong : ¬HasLongNumber db ↔ ∃ text, u.render settings.render .swift = .ok text := by
    rw [hprinted, HasLongNumber]
    simp
  rw [← not_iff_not, hlong]
  rcases (unit_wellFormed settings.output hunit).render_or_unspelled settings.render .swift with
    ⟨text, htext⟩ | ⟨f, hf, hunspelled⟩
  · simp [htext]
  · simp [hf, hunspelled.isReported]

/-- What makes a run fail without a code. -/
inductive UnreportedCause (state : State) : Prop
  | hidden (h : StopsAtHidden folder paths)
  | unreadable
      (h : engine.MeetsUnreadable state (acquire engine folder paths (.start state)).2.calls)
  | broken (h : engine.MeetsBroken state (acquire engine folder paths (.start state)).2.calls)
  | version (h : StopsAtVersion engine folder state paths)
  | overflow {schema : Schema} (h : (acquire engine folder paths (.start state)).1 = .ok schema)
      (hoverflows : (fancify settings.naming schema (rawName name paths)).overflows = true)
      (hends : settings.output.accessors = true →
        EndsFound (fancify settings.naming schema (rawName name paths)))
  | long {schema : Schema} {u : Code.CompilationUnit}
      (h : (acquire engine folder paths (.start state)).1 = .ok schema)
      (hunit : settings.output.unit (fancify settings.naming schema (rawName name paths)) = .ok u)
      (hlong : HasLongNumber (fancify settings.naming schema (rawName name paths)))

/-- Acquisition fails with an input to blame, or with a cause that has no code. -/
theorem acquire_attributed {state : State} {f : Failure}
    (h : (acquire engine folder paths (.start state)).1 = .error f) :
    Attributed f ∨
      f.isReported = false ∧ UnreportedCause engine folder settings paths name state := by
  rcases acquire_fails engine folder h with
    hattributed | ⟨⟨_, _, rfl⟩, hcause⟩ | ⟨⟨_, rfl⟩, hcause⟩ | ⟨⟨_, rfl⟩, hcause⟩ |
    ⟨⟨_, rfl⟩, hcause⟩
  · exact .inl hattributed
  · exact .inr ⟨rfl, .hidden hcause⟩
  · exact .inr ⟨rfl, .unreadable hcause⟩
  · exact .inr ⟨rfl, .broken hcause⟩
  · exact .inr ⟨rfl, .version hcause⟩

theorem finish_unreported_iff {state : State} {schema : Schema}
    (h : (acquire engine folder paths (.start state)).1 = .ok schema) :
    (∃ f, finish settings paths name schema = .error f ∧ f.isReported = false) ↔
      (∃ f, settings.output.unit (fancify settings.naming schema (rawName name paths)) =
          .error f ∧ f.isReported = false) ∨
        ∃ u, settings.output.unit (fancify settings.naming schema (rawName name paths)) = .ok u ∧
          HasLongNumber (fancify settings.naming schema (rawName name paths)) := by
  have hshort := fancify_short (acquire_hasShortDefaults (Prod.ext h rfl)) settings.naming
    (rawName name paths)
  simp only [finish_eq_error_iff]
  constructor
  · rintro ⟨f, hunit | ⟨u, hunit, hprinted⟩, hunreported⟩
    · exact .inl ⟨f, hunit, hunreported⟩
    · exact .inr ⟨u, hunit,
        (render_unreported_iff settings hunit hshort).mp ⟨f, hprinted, hunreported⟩⟩
  · rintro (⟨f, hunit, hunreported⟩ | ⟨u, hunit, hlong⟩)
    · exact ⟨f, .inl hunit, hunreported⟩
    · obtain ⟨f, hprinted, hunreported⟩ :=
        (render_unreported_iff settings hunit hshort).mpr hlong
      exact ⟨f, .inr ⟨u, hunit, hprinted⟩, hunreported⟩

theorem run_unreported_iff (state : State) :
    (∃ f, (run engine folder settings paths name (.start state)).1 = .error f ∧
        f.isReported = false) ↔
      UnreportedCause engine folder settings paths name state := by
  rw [run_result]
  have hends := (acquire_keeps engine folder paths).ends state
  constructor
  · rintro ⟨f, h, hunreported⟩
    cases hacquire : (acquire engine folder paths (.start state)).1 with
    | error g =>
        rw [hacquire] at h
        cases h
        rcases acquire_attributed engine folder settings paths name hacquire with
          hattributed | ⟨-, hcause⟩
        · rw [hattributed.isReported] at hunreported
          cases hunreported
        · exact hcause
    | ok schema =>
        rw [hacquire] at h
        rcases (finish_unreported_iff engine folder settings paths name hacquire).mp
          ⟨f, h, hunreported⟩ with hunit | ⟨u, hunit, hlong⟩
        · obtain ⟨hoverflows, hfound⟩ := (unit_unreported_iff settings.output).mp hunit
          exact .overflow hacquire hoverflows hfound
        · exact .long hacquire hunit hlong
  · have hfinish : ∀ {schema}, (acquire engine folder paths (.start state)).1 = .ok schema →
        (∃ f, finish settings paths name schema = .error f ∧ f.isReported = false) →
        ∃ f, (acquire engine folder paths (.start state)).1 >>= finish settings paths name =
          .error f ∧ f.isReported = false := by
      intro schema hacquire hfails
      rw [hacquire]
      exact hfails
    rintro (h | h | h | h | ⟨hacquire, hoverflows, hfound⟩ | ⟨hacquire, hunit, hlong⟩)
    · obtain ⟨path, reason, hhidden⟩ := (acquire_hidden_iff engine folder state paths).mpr h
      exact ⟨.pathHidden path reason, by rw [hhidden]; rfl, rfl⟩
    · obtain ⟨fault, hfault⟩ := hends.conversion.mpr h
      exact ⟨.conversion fault, by rw [hfault]; rfl, rfl⟩
    · obtain ⟨fault, hfault⟩ := hends.broken.mpr h
      exact ⟨.callBroken fault, by rw [hfault]; rfl, rfl⟩
    · obtain ⟨e, hrefused⟩ := (acquire_refused_iff engine folder state paths).mpr h
      exact ⟨.engineRefused e, by rw [hrefused]; rfl, rfl⟩
    · exact hfinish hacquire ((finish_unreported_iff engine folder settings paths name
        hacquire).mpr (.inl ((unit_unreported_iff settings.output).mpr ⟨hoverflows, hfound⟩)))
    · exact hfinish hacquire ((finish_unreported_iff engine folder settings paths name
        hacquire).mpr (.inr ⟨_, hunit, hlong⟩))

/-- A run fails without a code in six cases and in no other.  Apart from them it gives a complete
result, or it fails with a code; what goes wrong in acquisition is then attributed to an input. -/
theorem run_outcome (state : State) :
    ((∃ f, (run engine folder settings paths name (.start state)).1 = .error f ∧
        f.isReported = false) ↔ UnreportedCause engine folder settings paths name state) ∧
      (¬UnreportedCause engine folder settings paths name state →
        (∃ schema g, (acquire engine folder paths (.start state)).1 = .ok schema ∧
          (run engine folder settings paths name (.start state)).1 = .ok g ∧
          Complete settings paths name schema g) ∨
        ∃ f, (run engine folder settings paths name (.start state)).1 = .error f ∧
          f.isReported = true ∧
          ∀ failure, (acquire engine folder paths (.start state)).1 = .error failure →
            f = failure ∧ Attributed failure) := by
  have hunreported := run_unreported_iff engine folder settings paths name state
  refine ⟨hunreported, fun hcause => ?_⟩
  have hreported : ∀ f, (run engine folder settings paths name (.start state)).1 = .error f →
      f.isReported = true := by
    intro f hf
    by_contra hnot
    exact hcause (hunreported.mp ⟨f, hf, by simpa using hnot⟩)
  rw [run_result] at hreported ⊢
  cases hacquire : (acquire engine folder paths (.start state)).1 with
  | error failure =>
      right
      rw [hacquire] at hreported
      refine ⟨failure, rfl, hreported failure rfl, ?_⟩
      rintro _ ⟨⟩
      rcases acquire_attributed engine folder settings paths name hacquire with
        hattributed | ⟨-, h⟩
      · exact ⟨rfl, hattributed⟩
      · exact absurd h hcause
  | ok schema =>
      rw [hacquire] at hreported
      cases hfinish : finish settings paths name schema with
      | error f => exact .inr ⟨f, hfinish, hreported f hfinish, nofun⟩
      | ok g => exact .inl ⟨schema, g, rfl, hfinish, finish_ok settings paths name hfinish⟩

end

def emptyEngine : Engine Unit where
  connect _ := fun state => (.ok (), state)
  catalog _ := fun state => (.ok [], state)
  schemaVersion _ := fun state => (.ok none, state)
  userVersion _ := fun state => (.ok none, state)
  tableInfo _ _ := fun state => (.ok [], state)
  foreignKeyList _ _ := fun state => (.ok [], state)
  execute _ := fun state => (.ok (), state)
  script text := fun state =>
    (if text.toList.contains '\x00' then .error (.broken .nullCharacter) else .ok (), state)

example : ((run emptyEngine ⟨[(⟨"", ["a.sql"]⟩, .file [0])]⟩ .default [⟨"", ["a.sql"]⟩]
    none (.start ())).1 matches .error (.callBroken .nullCharacter)) = true := by decide +kernel

end RecordLoom.Generation
