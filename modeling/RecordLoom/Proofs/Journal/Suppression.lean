import RecordLoom.Proofs.Journal.Scripts

/-!
# Suppressed output

Blocks nest, while a single flag tells whether streams are left out.  Leaving a block clears the
flag for the blocks around it too: the flag stands where the innermost open block has had no block
inside that was left again.
-/

namespace RecordLoom.Journal

/-- Open blocks, the innermost first, each with whether a block has been left inside it. -/
abbrev Blocks := List Bool

/-- Only an open block can be left, which shows in the block around it. -/
def openBlock : Blocks → BlockAction → Option Blocks
  | blocks, .enter => some (false :: blocks)
  | _ :: outer, .leave => some (outer.modifyHead fun _ => true)
  | [], .leave => none

def openBlocks (outer : Blocks) (actions : List BlockAction) : Option Blocks :=
  actions.foldlM openBlock outer

def blockActions (actions : List Action) : List BlockAction :=
  actions.filterMap fun
    | .block action => some action
    | _ => none

theorem blockActions_append (first second : List Action) :
    blockActions (first ++ second) = blockActions first ++ blockActions second :=
  List.filterMap_append

theorem openBlocks_append (outer : Blocks) (first second : List BlockAction) :
    openBlocks outer (first ++ second) = (openBlocks outer first).bind (openBlocks · second) :=
  List.foldlM_append

/-! ## Scripts nest properly -/

/-- The actions leave the blocks that they enter and no other, also if they stop halfway. -/
structure Nested (actions : List BlockAction) : Prop where
  sound : ∀ done rest, done ++ rest = actions → ∀ outer, ∃ blocks,
    openBlocks outer done = some blocks ∧ outer.length ≤ blocks.length
  settled : ∀ outer, ∃ blocks, openBlocks outer actions = some blocks ∧
    blocks.length = outer.length

theorem nested_nil : Nested [] where
  sound done rest hdone outer := by
    obtain ⟨rfl, -⟩ := List.append_eq_nil_iff.mp hdone
    exact ⟨outer, rfl, Nat.le_refl _⟩
  settled outer := ⟨outer, rfl, rfl⟩

theorem Nested.append {first second : List BlockAction} (hfirst : Nested first)
    (hsecond : Nested second) : Nested (first ++ second) where
  sound done rest hdone outer := by
    rcases List.append_eq_append_iff.mp hdone with ⟨more, hmore, -⟩ | ⟨more, rfl, hmore⟩
    · exact hfirst.sound done more hmore.symm outer
    · obtain ⟨between, hbetween, hlength⟩ := hfirst.settled outer
      obtain ⟨blocks, hblocks, hle⟩ := hsecond.sound more rest hmore.symm between
      exact ⟨blocks, by rw [openBlocks_append, hbetween]; exact hblocks, hlength ▸ hle⟩
  settled outer := by
    obtain ⟨between, hbetween, hlength⟩ := hfirst.settled outer
    obtain ⟨blocks, hblocks, hsame⟩ := hsecond.settled between
    exact ⟨blocks, by rw [openBlocks_append, hbetween]; exact hblocks, hsame.trans hlength⟩

theorem Nested.wrap {inner : List BlockAction} (h : Nested inner) :
    Nested (BlockAction.enter :: inner ++ [BlockAction.leave]) := by
  have hsettled : ∀ outer, ∃ blocks,
      openBlocks outer (BlockAction.enter :: inner ++ [BlockAction.leave]) = some blocks ∧
        blocks.length = outer.length := by
    intro outer
    obtain ⟨blocks, hblocks, hlength⟩ := h.settled (false :: outer)
    cases blocks with
    | nil => cases hlength
    | cons mark rest =>
        refine ⟨rest.modifyHead fun _ => true, ?_, ?_⟩
        · rw [openBlocks_append]
          exact congrArg (·.bind (openBlocks · [.leave])) hblocks
        · rw [List.length_modifyHead]
          exact Nat.succ.inj hlength
  refine ⟨fun done rest hdone outer => ?_, hsettled⟩
  cases done with
  | nil => exact ⟨outer, rfl, Nat.le_refl _⟩
  | cons action more =>
      obtain ⟨rfl, hmore⟩ := List.cons.inj hdone
      rcases List.append_eq_append_iff.mp hmore with ⟨left, hleft, -⟩ | ⟨last, rfl, hlast⟩
      · obtain ⟨blocks, hblocks, hle⟩ := h.sound more left hleft.symm (false :: outer)
        exact ⟨blocks, hblocks, Nat.le_of_succ_le hle⟩
      · rcases List.append_eq_singleton_iff.mp hlast.symm with ⟨rfl, -⟩ | ⟨rfl, -⟩
        · obtain ⟨blocks, hblocks, hlength⟩ := h.settled (false :: outer)
          rw [List.append_nil]
          exact ⟨blocks, hblocks, hlength ▸ Nat.le_succ _⟩
        · obtain ⟨blocks, hblocks, hlength⟩ := hsettled outer
          exact ⟨blocks, hblocks, Nat.le_of_eq hlength.symm⟩

theorem nested_script (script : Script) : Nested (blockActions script.actions) := by
  induction script with
  | skip | fail | configure | log | assign | clear => exact nested_nil
  | andThen first second ihfirst ihsecond =>
      rw [Script.actions, blockActions_append]
      split
      case isTrue => exact ihfirst.append nested_nil
      case isFalse => exact ihfirst.append ihsecond
  | rescue body handler ihbody ihhandler =>
      rw [Script.actions, blockActions_append]
      split
      case isTrue => exact ihbody.append ihhandler
      case isFalse => exact ihbody.append nested_nil
  | scope wanted fresh body ih =>
      rw [Script.actions, blockActions_append]
      exact ih.append nested_nil
  | block body ih =>
      rw [Script.actions, blockActions_append]
      exact ih.wrap

theorem openBlocks_script {actions : List Action} {blocks : Blocks}
    (h : openBlocks [] (blockActions actions) = some blocks) (script : Script) {done : List Action}
    (hdone : done <+: script.actions) :
    ∃ inner, openBlocks [] (blockActions (actions ++ done)) = some inner ∧
      blocks.length ≤ inner.length := by
  obtain ⟨rest, hrest⟩ := hdone
  obtain ⟨inner, hinner, hle⟩ := (nested_script script).sound (blockActions done)
    (blockActions rest) (by rw [← blockActions_append, hrest]) blocks
  refine ⟨inner, ?_, hle⟩
  rw [blockActions_append, openBlocks_append, h]
  exact hinner

/-! ## The flag -/

variable {j : Journal}

theorem suppressed_log (e : Event) : (j.log e).suppressed = j.suppressed := by
  rw [log]
  split <;> rfl

theorem suppressed_run (actions : List Action) :
    (j.run actions).suppressed =
      (blockActions actions).foldl (fun _ action => suppressedAfter action) j.suppressed := by
  induction actions generalizing j with
  | nil => rfl
  | cons action rest ih =>
      rw [run_cons, ih]
      cases action with
      | configure | scope | block => rfl
      | log e => exact congrArg (List.foldl _ · (blockActions rest)) (suppressed_log e)

theorem suppressed_run_idle (actions : List Action) :
    (idle.run actions).suppressed = isSuppressed (blockActions actions) :=
  suppressed_run actions

theorem suppressedAfter_iff {outer blocks : Blocks} {action : BlockAction}
    (h : openBlock outer action = some blocks) :
    suppressedAfter action = true ↔ blocks.head? = some false := by
  cases action with
  | enter =>
      cases h
      exact ⟨fun _ => rfl, fun _ => rfl⟩
  | leave =>
      cases outer with
      | nil => cases h
      | cons mark rest =>
          cases h
          cases rest <;> simp [suppressedAfter]

/-- The flag stands where no block has been left inside the innermost open one. -/
theorem isSuppressed_iff {actions : List BlockAction} {blocks : Blocks}
    (h : openBlocks [] actions = some blocks) :
    isSuppressed actions = true ↔ blocks.head? = some false := by
  rcases List.eq_nil_or_concat' actions with rfl | ⟨before, last, rfl⟩
  · cases h
    exact ⟨nofun, nofun⟩
  · rw [openBlocks_append] at h
    obtain ⟨outer, -, hlast⟩ := Option.bind_eq_some_iff.mp h
    rw [isSuppressed, List.foldl_append]
    exact suppressedAfter_iff (by simpa [openBlocks] using hlast)

/-! ## Records -/

def unsuppressed (j : Journal) : Journal := { j with suppressed := false }

/-- What a destination would receive of an event if nothing were suppressed. -/
def shown (j : Journal) (e : Event) (destination : String) : List Record :=
  (j.unsuppressed.entriesOf (.log e)).flatMap (·.recordsAt destination)

theorem accepts_eq (config : Config) (level : Level) (output : Output) :
    j.accepts config level output =
      (!(isStream output.destination && j.suppressed) &&
        j.unsuppressed.accepts config level output) := by
  simp [accepts, unsuppressed, Bool.and_comm]

theorem filter_takers (level : Level) (destination : String) :
    (j.takers level).filter (·.destination == destination) =
      if isStream destination && j.suppressed then []
      else (j.unsuppressed.takers level).filter (·.destination == destination) := by
  cases hconfig : j.config with
  | none => simp [takers, unsuppressed, hconfig]
  | some config =>
      have htakers : j.takers level = config.outputs.filter (j.accepts config level) := by
        rw [takers, hconfig]
      have hall : j.unsuppressed.takers level =
          config.outputs.filter (j.unsuppressed.accepts config level) := by
        rw [takers, unsuppressed, hconfig]
      rw [htakers, hall, List.filter_filter, List.filter_filter]
      split
      case isTrue hsuppressed =>
        refine List.filter_eq_nil_iff.mpr fun output _ htaken => ?_
        obtain ⟨hsame, haccepts⟩ := Bool.and_eq_true_iff.mp htaken
        rw [accepts_eq, eq_of_beq hsame, hsuppressed] at haccepts
        cases haccepts
      case isFalse hshown =>
        refine List.filter_congr fun output _ => ?_
        cases hsame : output.destination == destination with
        | false => rfl
        | true =>
            rw [accepts_eq, eq_of_beq hsame, (Bool.not_eq_true _).mp hshown]
            rfl

theorem received_log (h : j.IsReady) (e : Event) (destination : String) :
    (j.log e).received destination =
      j.received destination ++
        if isStream destination && j.suppressed then [] else j.shown e destination := by
  have hstep := received_step h (.log e) destination
  rw [entriesOf_log, List.flatMap_singleton, Entry.recordsAt, filter_takers] at hstep
  rw [step] at hstep
  rw [hstep, shown, entriesOf_log, List.flatMap_singleton]
  split <;> rfl

/-- Console output is suppressed where a block is open and none has been left inside the innermost
one.  Meanwhile streams receive nothing, and files all that they would receive otherwise.  A script
that follows, whether it fails or not, nests properly all the way. -/
theorem suppressed_iff_unbroken {actions : List Action} {blocks : Blocks}
    (h : openBlocks [] (blockActions actions) = some blocks) :
    ((idle.run actions).suppressed = true ↔ blocks.head? = some false) ∧
      (∀ e destination, ((idle.run actions).log e).received destination =
        (idle.run actions).received destination ++
          if isStream destination = true ∧ blocks.head? = some false then []
          else (idle.run actions).shown e destination) ∧
      ∀ (script : Script) (done : List Action), done <+: script.actions →
        ∃ inner, openBlocks [] (blockActions (actions ++ done)) = some inner ∧
          blocks.length ≤ inner.length := by
  have hsuppressed : (idle.run actions).suppressed = true ↔ blocks.head? = some false := by
    rw [suppressed_run_idle]
    exact isSuppressed_iff h
  refine ⟨hsuppressed, fun e destination => ?_, fun script done => openBlocks_script h script⟩
  rw [received_log (isReady_run isReady_idle actions)]
  simp only [Bool.and_eq_true, hsuppressed]

def leftInside : List Action :=
  [.configure ⟨.info, [⟨.json, "stderr", none⟩]⟩, .block .enter, .block .enter, .block .leave]

theorem leftInside_unsuppressed :
    openBlocks [] (blockActions leftInside) = some [true] ∧
      (idle.run leftInside).suppressed = false ∧
      ((idle.run leftInside).log (.note .info "e" [])).received "stderr" =
        [.object [("event", .str "e"), ("level", .str "info")]] := by
  have hblocks : openBlocks [] (blockActions leftInside) = some [true] := rfl
  obtain ⟨hsuppressed, hreceived, -⟩ := suppressed_iff_unbroken hblocks
  refine ⟨hblocks, by simpa using hsuppressed, ?_⟩
  rw [hreceived]
  rfl

end RecordLoom.Journal
