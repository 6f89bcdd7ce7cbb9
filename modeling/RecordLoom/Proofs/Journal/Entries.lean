import RecordLoom.Journal.State
import RecordLoom.Proofs.Json.Members

/-!
# Entries of a journal

An event that is logged makes an entry: it meets a current run id and outputs that take it.  What a
destination has received after a run are the records of the entries, one after the other.
-/

namespace RecordLoom.Journal

/-- An event where it is logged. -/
structure Entry where
  event : Event
  /-- The run id that is current there. -/
  runId : Option String
  /-- The outputs that take the event. -/
  takers : List Output

namespace Entry

def members (entry : Entry) : List (String × Json) := entry.event.members entry.runId

def recordsAt (entry : Entry) (destination : String) : List Record :=
  (entry.takers.filter (·.destination == destination)).map fun output =>
    .ofMembers output.format entry.members

end Entry

def takers (j : Journal) (level : Level) : List Output :=
  match j.config with
  | none => []
  | some config => config.outputs.filter (j.accepts config level)

def entriesOf (j : Journal) : Action → List Entry
  | .log e => [⟨e, j.runIds.current, j.takers e.level⟩]
  | _ => []

def entries (j : Journal) : List Action → List Entry
  | [] => []
  | action :: rest => j.entriesOf action ++ entries (j.step action) rest

variable {j : Journal}

@[simp] theorem run_nil : j.run [] = j := rfl

@[simp] theorem run_cons (action : Action) (rest : List Action) :
    j.run (action :: rest) = (j.step action).run rest := rfl

theorem run_append (first second : List Action) :
    j.run (first ++ second) = (j.run first).run second :=
  List.foldl_append

@[simp] theorem entriesOf_log (e : Event) :
    j.entriesOf (.log e) = [⟨e, j.runIds.current, j.takers e.level⟩] := rfl

@[simp] theorem entriesOf_configure (config : Config) : j.entriesOf (.configure config) = [] := rfl

theorem entries_append (first second : List Action) :
    j.entries (first ++ second) = j.entries first ++ (j.run first).entries second := by
  induction first generalizing j with
  | nil => rfl
  | cons action rest ih => rw [List.cons_append, entries, ih, entries, List.append_assoc, run_cons]

/-! ## Destinations -/

theorem lookup_appendRecord (destination : String) (record : Record)
    (written : List (String × List Record)) (name : String) :
    (appendRecord destination record written).lookup name =
      (written.lookup name).map fun records =>
        records ++ if name = destination then [record] else [] := by
  induction written with
  | nil => rfl
  | cons first rest ih =>
      obtain ⟨head, records⟩ := first
      rw [appendRecord] at ih ⊢
      rw [List.map_cons, Json.lookup_cons, Json.lookup_cons]
      by_cases hname : name = head
      · subst hname
        by_cases hsame : name = destination <;> simp [hsame]
      · rw [if_neg hname, if_neg hname, ih]

theorem lookup_foldl_appendRecord (record : Output → Record) (outputs : List Output)
    (written : List (String × List Record)) (name : String) :
    (outputs.foldl (fun written output => appendRecord output.destination (record output) written)
      written).lookup name =
      (written.lookup name).map fun records =>
        records ++ (outputs.filter (·.destination == name)).map record := by
  induction outputs generalizing written with
  | nil => simp
  | cons output rest ih =>
      rw [List.foldl_cons, ih, lookup_appendRecord, Option.map_map]
      congr 1
      funext records
      by_cases hname : name = output.destination
      · simp [hname]
      · simp [hname, Ne.symm hname]

theorem lookup_openDestination (written : List (String × List Record))
    (destination name : String) :
    (openDestination written destination).lookup name =
      (written.lookup name).or (if name = destination then some [] else none) :=
  Json.lookup_append_missing written (destination, []) name

theorem lookup_foldl_openDestination (destinations : List String)
    (written : List (String × List Record)) (name : String) :
    (destinations.foldl openDestination written).lookup name =
      (written.lookup name).or (if name ∈ destinations then some [] else none) := by
  induction destinations generalizing written with
  | nil => simp
  | cons destination rest ih =>
      rw [List.foldl_cons, ih, lookup_openDestination, Option.or_assoc]
      congr 1
      by_cases hname : name = destination
      · simp [hname]
      · simp [hname]

/-! ## What a run writes -/

/-- Each output has its destination set up. -/
def IsReady (j : Journal) : Prop :=
  ∀ config, j.config = some config → ∀ output ∈ config.outputs,
    (j.written.lookup output.destination).isSome = true

theorem isReady_idle : idle.IsReady := nofun

theorem isReady_setUp (config : Config) : (j.setUp config).IsReady := by
  rintro _ ⟨⟩ output houtput
  have hmem : output.destination ∈ config.outputs.map (·.destination) :=
    List.mem_map_of_mem houtput
  rw [setUp, lookup_foldl_openDestination, if_pos hmem]
  cases j.written.lookup output.destination <;> rfl

theorem lookup_written_log (e : Event) (destination : String) :
    (j.log e).written.lookup destination =
      (j.written.lookup destination).map fun records =>
        records ++ (j.entriesOf (.log e)).flatMap (·.recordsAt destination) := by
  rw [entriesOf_log, List.flatMap_singleton]
  cases hconfig : j.config with
  | none => simp [log, takers, Entry.recordsAt, hconfig]
  | some config =>
      simp only [log, takers, hconfig]
      exact lookup_foldl_appendRecord (fun output => .ofMembers output.format _) ..

theorem isReady_log (h : j.IsReady) (e : Event) : (j.log e).IsReady := by
  intro config hconfig output houtput
  have hsame : (j.log e).config = j.config := by
    rw [log]
    split <;> simp_all
  rw [lookup_written_log, Option.isSome_map]
  exact h config (hsame ▸ hconfig) output houtput

theorem isReady_step (h : j.IsReady) (action : Action) : (j.step action).IsReady := by
  cases action with
  | configure config => exact isReady_setUp config
  | log e => exact isReady_log h e
  | scope action => exact h
  | block action => exact h

theorem isReady_run (h : j.IsReady) (actions : List Action) : (j.run actions).IsReady := by
  induction actions generalizing j with
  | nil => exact h
  | cons action rest ih => exact ih (isReady_step h action)

theorem isSome_lookup_of_mem_takers (h : j.IsReady) {level : Level} {output : Output}
    (houtput : output ∈ j.takers level) : (j.written.lookup output.destination).isSome = true := by
  rw [takers] at houtput
  split at houtput
  case h_1 => cases houtput
  case h_2 config hconfig => exact h config hconfig output (List.mem_filter.mp houtput).1

theorem received_step (h : j.IsReady) (action : Action) (destination : String) :
    (j.step action).received destination =
      j.received destination ++ (j.entriesOf action).flatMap (·.recordsAt destination) := by
  cases action with
  | configure config =>
      rw [step, received, setUp, lookup_foldl_openDestination, received, entriesOf_configure,
        List.flatMap_nil, List.append_nil]
      cases j.written.lookup destination with
      | some records => rfl
      | none => split <;> rfl
  | log e =>
      rw [step, received, lookup_written_log, received]
      cases hlookup : j.written.lookup destination with
      | some records => rfl
      | none =>
          have hnone : (j.takers e.level).filter (·.destination == destination) = [] := by
            refine List.filter_eq_nil_iff.mpr fun output houtput hsame => ?_
            have hsome := isSome_lookup_of_mem_takers h houtput
            rw [eq_of_beq hsame, hlookup] at hsome
            cases hsome
          simp [Entry.recordsAt, hnone]
  | scope action => exact (List.append_nil _).symm
  | block action => exact (List.append_nil _).symm

theorem received_run (h : j.IsReady) (actions : List Action) (destination : String) :
    (j.run actions).received destination =
      j.received destination ++ (j.entries actions).flatMap (·.recordsAt destination) := by
  induction actions generalizing j with
  | nil => exact (List.append_nil _).symm
  | cons action rest ih =>
      rw [run_cons, ih (isReady_step h action), received_step h, entries, List.flatMap_append,
        List.append_assoc]

end RecordLoom.Journal
