import RecordLoom.Proofs.Journal.Entries

/-!
# Scripts

A script is what a caller does with a journal.  It has scopes and blocks around its parts, and it
may fail: a failure leaves every scope and block up to where it is rescued.  The text of a script
tells which run id is current at each of its events.
-/

namespace RecordLoom.Journal

abbrev FreshId := { id : String // id ≠ "" }

inductive Script where
  | skip
  | fail
  | configure (config : Config)
  | log (event : Event)
  | assign (wanted : Option String) (fresh : FreshId)
  | clear
  | andThen (first second : Script)
  /-- The handler follows where the body fails. -/
  | rescue (body handler : Script)
  | scope (wanted : Option String) (fresh : FreshId) (body : Script)
  | block (body : Script)
  deriving Repr

namespace Script

def fails : Script → Bool
  | fail => true
  | andThen first second => first.fails || second.fails
  | rescue body handler => body.fails && handler.fails
  | scope _ _ body => body.fails
  | block body => body.fails
  | _ => false

def actions : Script → List Action
  | skip => []
  | fail => []
  | configure config => [.configure config]
  | log e => [.log e]
  | assign wanted fresh => [.scope (.assign (RunIds.choose wanted fresh))]
  | clear => [.scope .clear]
  | andThen first second => first.actions ++ if first.fails then [] else second.actions
  | rescue body handler => body.actions ++ if body.fails then handler.actions else []
  | scope wanted fresh body =>
      .scope (.enter (RunIds.choose wanted fresh)) :: body.actions ++ [.scope .leave]
  | block body => .block .enter :: body.actions ++ [.block .leave]

def idAfter : Script → Option String → Option String
  | assign wanted fresh, _ => some (RunIds.choose wanted fresh)
  | clear, _ => none
  | andThen first second, id =>
      if first.fails then first.idAfter id else second.idAfter (first.idAfter id)
  | rescue body handler, id =>
      if body.fails then handler.idAfter (body.idAfter id) else body.idAfter id
  | block body, id => body.idAfter id
  | _, id => id

/-- The events of a script, each with the run id of its place. -/
def told : Script → Option String → List (Event × Option String)
  | log e, id => [(e, id)]
  | andThen first second, id =>
      first.told id ++ if first.fails then [] else second.told (first.idAfter id)
  | rescue body handler, id =>
      body.told id ++ if body.fails then handler.told (body.idAfter id) else []
  | scope wanted fresh body, _ => body.told (some (RunIds.choose wanted fresh))
  | block body, id => body.told id
  | _, _ => []

def logs (events : List Event) : Script := events.foldr (fun e rest => andThen (log e) rest) skip

theorem actions_logs (events : List Event) : (logs events).actions = events.map .log := by
  induction events with
  | nil => rfl
  | cons e rest ih => exact congrArg (Action.log e :: ·) ih

theorem told_logs (events : List Event) (id : Option String) :
    (logs events).told id = events.map (·, id) := by
  induction events with
  | nil => rfl
  | cons e rest ih => exact congrArg ((e, id) :: ·) ih

end Script

/-! ## Run ids along a script -/

variable {j : Journal}

theorem runIds_log (e : Event) : (j.log e).runIds = j.runIds := by
  rw [log]
  split <;> rfl

theorem runIds_run_script (script : Script) :
    (j.run script.actions).runIds = ⟨script.idAfter j.runIds.current, j.runIds.saved⟩ := by
  induction script generalizing j with
  | skip | fail | configure | assign | clear => rfl
  | log e => exact runIds_log e
  | andThen first second ihfirst ihsecond =>
      rw [Script.actions, run_append, Script.idAfter]
      split
      case isTrue => exact ihfirst
      case isFalse => rw [ihsecond, ihfirst]
  | rescue body handler ihbody ihhandler =>
      rw [Script.actions, run_append, Script.idAfter]
      split
      case isTrue => rw [ihhandler, ihbody]
      case isFalse => exact ihbody
  | scope wanted fresh body ih =>
      rw [Script.actions, List.cons_append, run_cons, run_append, run_cons, run_nil, step, ih]
      rfl
  | block body ih =>
      rw [Script.actions, List.cons_append, run_cons, run_append, run_cons, run_nil, step]
      exact ih

theorem runIds_run_scope (wanted : Option String) (fresh : FreshId) (body : Script) :
    (j.run (Script.scope wanted fresh body).actions).runIds = j.runIds :=
  runIds_run_script (.scope wanted fresh body)

theorem entries_scope {action : ScopeAction} {rest : List Action} :
    j.entries (.scope action :: rest) = (j.step (.scope action)).entries rest := rfl

theorem entries_block {action : BlockAction} {rest : List Action} :
    j.entries (.block action :: rest) = (j.step (.block action)).entries rest := rfl

/-- Each event is logged under the run id that the text of the script gives its place. -/
theorem entries_script (script : Script) :
    (j.entries script.actions).map (fun entry => (entry.event, entry.runId)) =
      script.told j.runIds.current := by
  induction script generalizing j with
  | skip | fail | configure | log | assign | clear => rfl
  | andThen first second ihfirst ihsecond =>
      rw [Script.actions, entries_append, List.map_append, ihfirst, Script.told]
      split
      case isTrue => rfl
      case isFalse => rw [ihsecond, runIds_run_script]
  | rescue body handler ihbody ihhandler =>
      rw [Script.actions, entries_append, List.map_append, ihbody, Script.told]
      split
      case isTrue => rw [ihhandler, runIds_run_script]
      case isFalse => rfl
  | scope wanted fresh body ih =>
      rw [Script.actions, List.cons_append, entries_scope, entries_append, List.map_append, ih]
      exact List.append_nil _
  | block body ih =>
      rw [Script.actions, List.cons_append, entries_block, entries_append, List.map_append, ih]
      exact List.append_nil _

/-! ## No run id is empty -/

theorem choose_ne_empty (wanted : Option String) (fresh : FreshId) :
    RunIds.choose wanted fresh ≠ "" := by
  cases wanted with
  | none => exact fresh.property
  | some id =>
      by_cases hid : id = ""
      · simp [RunIds.choose, hid, fresh.property]
      · simp [RunIds.choose, hid]

theorem idAfter_ne_empty (script : Script) {id : Option String} (h : id ≠ some "") :
    script.idAfter id ≠ some "" := by
  induction script generalizing id with
  | skip | fail | configure | log | scope => exact h
  | assign wanted fresh => exact fun hid => choose_ne_empty wanted fresh (Option.some.inj hid)
  | clear => exact nofun
  | andThen first second ihfirst ihsecond =>
      rw [Script.idAfter]
      split
      case isTrue => exact ihfirst h
      case isFalse => exact ihsecond (ihfirst h)
  | rescue body handler ihbody ihhandler =>
      rw [Script.idAfter]
      split
      case isTrue => exact ihhandler (ihbody h)
      case isFalse => exact ihbody h
  | block body ih => exact ih h

theorem ne_empty_of_mem_told {script : Script} {id : Option String} (h : id ≠ some "")
    {event : Event × Option String} (hevent : event ∈ script.told id) : event.2 ≠ some "" := by
  induction script generalizing id with
  | skip | fail | configure | assign | clear => cases hevent
  | log e =>
      obtain rfl := List.mem_singleton.mp hevent
      exact h
  | andThen first second ihfirst ihsecond =>
      rcases List.mem_append.mp hevent with hevent | hevent
      · exact ihfirst h hevent
      · split at hevent
        · cases hevent
        · exact ihsecond (idAfter_ne_empty first h) hevent
  | rescue body handler ihbody ihhandler =>
      rcases List.mem_append.mp hevent with hevent | hevent
      · exact ihbody h hevent
      · split at hevent
        · exact ihhandler (idAfter_ne_empty body h) hevent
        · cases hevent
  | scope wanted fresh body ih =>
      exact ih (fun hid => choose_ne_empty wanted fresh (Option.some.inj hid)) hevent
  | block body ih => exact ih h hevent

end RecordLoom.Journal
