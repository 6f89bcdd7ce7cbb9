import RecordLoom.Command.Run
import RecordLoom.Proofs.Journal.Scripts

/-!
# Run ids of events

What is kept of an event shows the run id that is current where the event is logged.  Where none is
current the journal adds none, and an event keeps what it brings along under that name.
-/

namespace RecordLoom.Journal

open RecordLoom.Json

def Event.ownRunId (e : Event) : Option Json :=
  (e.fields.reverse.lookup "run_id").or (e.error.bind fun f => f.details.lookup "run_id")

/-- The run id that an event shows where some run id is current. -/
def Event.carriedRunId (e : Event) : Option String → Option Json
  | some id => some (.str id)
  | none => e.ownRunId

theorem lookup_foldl_setMissing (details members : List (String × Json)) (key : String) :
    (details.foldl setMissing members).lookup key =
      (members.lookup key).or (details.lookup key) := by
  induction details generalizing members with
  | nil => exact Option.or_none.symm
  | cons detail rest ih =>
      rw [List.foldl_cons, ih, setMissing, lookup_append_missing, Option.or_assoc, lookup_cons]
      split <;> rfl

theorem lookup_withFailure {members : List (String × Json)} (h : (members.map (·.1)).Nodup)
    (f : Failure) {key : String} (hkey : key ∉ ["error", "error_code", "error_name"]) :
    (withFailure members f).lookup key = (members.lookup key).or (f.details.lookup key) := by
  have hown : (List.lookup key [("error_name", Json.str f.name),
      ("error_code", .int (f.code?.getD 0)), ("error", .str f.message)]) = none :=
    lookup_eq_none_of_not_mem fun hmem => hkey (by simpa [or_comm, or_left_comm] using hmem)
  rw [withFailure, lookup_foldl_setMissing, lookup_ofMembers, List.reverse_append,
    List.lookup_append, lookup_reverse_of_nodup h]
  exact congrArg (fun own => ((own.or (members.lookup key)).or (f.details.lookup key))) hown

theorem lookup_filter_ne {key other : String} (h : key ≠ other) (members : List (String × Json)) :
    (members.filter fun (name, _) => name != other).lookup key = members.lookup key := by
  induction members with
  | nil => rfl
  | cons first rest ih =>
      obtain ⟨head, held⟩ := first
      by_cases hsame : head = other
      · subst hsame
        rw [List.filter_cons_of_neg (by simp), ih, lookup_cons, if_neg h]
      · rw [List.filter_cons_of_pos (by simpa using hsame), lookup_cons, lookup_cons, ih]

def Event.known (e : Event) (runId : Option String) : List (String × Json) :=
  let own := [("event", .str e.name), ("level", .str e.level.name), (timeKey, .null)]
  ofMembers (e.fields ++ own ++ runIdMember runId)

theorem lookup_runId_known (e : Event) {runId : Option String} (h : runId ≠ some "") :
    (e.known runId).lookup "run_id" =
      (runId.map Json.str).or (e.fields.reverse.lookup "run_id") := by
  have hadded : (runIdMember runId).reverse.lookup "run_id" = runId.map Json.str := by
    cases runId with
    | none => rfl
    | some id =>
        have hid : id ≠ "" := fun hid => h (congrArg some hid)
        simp [runIdMember, hid]
  rw [Event.known, lookup_ofMembers, List.reverse_append, List.lookup_append, hadded,
    List.reverse_append, List.lookup_append]
  rfl

theorem lookup_runId_members (e : Event) {runId : Option String} (h : runId ≠ some "") :
    (e.members runId).lookup "run_id" = e.carriedRunId runId := by
  have hmembers : (e.members runId).lookup "run_id" = (runId.map Json.str).or e.ownRunId := by
    rw [Event.members, lookup_filter_ne (by decide), Event.ownRunId]
    cases e.error with
    | none => exact (lookup_runId_known e h).trans (by rw [Option.bind_none, Option.or_none])
    | some f =>
        have hnodup : ((e.known runId).map (·.1)).Nodup := nodup_ofMembers _
        refine (lookup_withFailure hnodup f (by decide)).trans ?_
        rw [lookup_runId_known e h, Option.or_assoc]
        rfl
  rw [hmembers]
  cases runId <;> rfl

/-! ## Runs -/

/-- Run ids follow the text of a script that a journal carries out. -/
structure FollowsText (j : Journal) (script : Script) : Prop where
  /-- Around the script a scope gives back the run id from before it. -/
  restored : ∀ wanted fresh, (j.run (Script.scope wanted fresh script).actions).runIds = j.runIds
  /-- Each event is logged under the run id of its place. -/
  told : (j.entries script.actions).map (fun entry => (entry.event, entry.runId)) =
    script.told j.runIds.current
  carried : ∀ entry ∈ j.entries script.actions,
    entry.members.lookup "run_id" = entry.event.carriedRunId entry.runId
  received : ∀ destination, (j.run script.actions).received destination =
    j.received destination ++ (j.entries script.actions).flatMap (·.recordsAt destination)

variable {j : Journal}

theorem followsText (hready : j.IsReady) (hcurrent : j.runIds.current ≠ some "")
    (script : Script) : FollowsText j script where
  restored wanted fresh := runIds_run_scope wanted fresh script
  told := entries_script script
  carried entry hentry := by
    have htold : (entry.event, entry.runId) ∈ script.told j.runIds.current :=
      entries_script script ▸ List.mem_map_of_mem hentry
    exact lookup_runId_members entry.event (ne_empty_of_mem_told hcurrent htold)
  received destination := received_run hready script.actions destination

theorem journal_generate {State : Type} (world : Command.World State) (line : Command.Line)
    (settings : Settings) (state : State) (hfresh : world.freshId ≠ "") :
    ∃ events, (world.generate line settings state).journal =
      (Script.scope none ⟨world.freshId, hfresh⟩ (.logs events)).actions := by
  let run := Generation.run world.engine world.folder settings (Command.World.paths line)
    (Command.World.wantedName line)
  refine ⟨(run (Catalog.Trace.start state)).2.events, ?_⟩
  rw [Script.actions, Script.actions_logs]
  rfl

/-- Run ids are scoped: a scope gives back the run id from before it, whatever happens inside, and
each event shows the run id that is current where it is logged.  So all events of a run that
generates source text show the one id of this run, also if the run fails. -/
theorem runIds_scoped (hready : j.IsReady) (hcurrent : j.runIds.current ≠ some "") :
    (∀ script, FollowsText j script) ∧
      ∀ {State : Type} (world : Command.World State) (line : Command.Line) (settings : Settings)
        (state : State), world.freshId ≠ "" →
        (j.run (world.generate line settings state).journal).runIds = j.runIds ∧
          ∀ entry ∈ j.entries (world.generate line settings state).journal,
            entry.runId = some world.freshId ∧
              entry.members.lookup "run_id" = some (.str world.freshId) := by
  refine ⟨followsText hready hcurrent, ?_⟩
  intro State world line settings state hfresh
  obtain ⟨events, hevents⟩ := journal_generate world line settings state hfresh
  rw [hevents]
  refine ⟨runIds_run_scope .., fun entry hentry => ?_⟩
  have hfollows := followsText hready hcurrent (.scope none ⟨world.freshId, hfresh⟩ (.logs events))
  have hrunId : entry.runId = some world.freshId := by
    have htold : (entry.event, entry.runId) ∈ (Script.logs events).told (some world.freshId) :=
      hfollows.told ▸ List.mem_map_of_mem hentry
    rw [Script.told_logs] at htold
    obtain ⟨e, -, he⟩ := List.mem_map.mp htold
    exact (Prod.mk.inj he).2.symm
  refine ⟨hrunId, ?_⟩
  rw [hfollows.carried entry hentry, hrunId]
  rfl

def filed : Journal := idle.setUp ⟨.info, [⟨.json, "a.log", none⟩]⟩

def stepped : Event := .note .info "stepped" []

def rescued : Script :=
  .scope (some "outer") ⟨"0", by decide⟩ (.andThen
    (.rescue (.scope none ⟨"inner", by decide⟩
      (.andThen (.log stepped) (.andThen (.assign (some "set") ⟨"1", by decide⟩) .fail)))
      (.log stepped))
    (.andThen .clear (.log stepped)))

theorem filed_follows_rescued :
    filed.IsReady ∧ filed.runIds.current ≠ some "" ∧ FollowsText filed rescued ∧
      (filed.entries rescued.actions).map (fun entry => (entry.event, entry.runId)) =
        [(stepped, some "inner"), (stepped, some "outer"), (stepped, none)] := by
  have hready : filed.IsReady := isReady_setUp _
  have hcurrent : filed.runIds.current ≠ some "" := nofun
  have hfollows := (runIds_scoped hready hcurrent).1 rescued
  exact ⟨hready, hcurrent, hfollows, hfollows.told⟩

/-- An event brings a run id of its own to a journal where none is current. -/
theorem filed_keeps_own_runId :
    filed.runIds.current = none ∧
      (filed.log (.note .info "e" [("run_id", .str "own")])).received "a.log" =
        [.object [("run_id", .str "own"), ("event", .str "e"), ("level", .str "info")]] :=
  ⟨rfl, rfl⟩

end RecordLoom.Journal
