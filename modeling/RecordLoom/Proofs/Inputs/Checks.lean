import RecordLoom.Proofs.Inputs.Sessions

/-!
# Inputs are checked first

Acquisition looks at the start of every input before it calls the engine.  The first input that is
no file, or that cannot be opened, ends the run there; only when every input is a file that opens
are databases read and scripts run.  An input that nobody can look at ends the run as well, by a
failure that has no code.
-/

namespace RecordLoom.Inputs

open RecordLoom.Catalog

variable {State : Type} (engine : Engine State) (folder : Folder)

/-- What becomes of an input that is no file, and of one that cannot be opened or looked at. -/
inductive Refused (path : Path) : Failure → Prop
  | nothing (h : folder.entry? path = none) : Refused path (.inputNotFound path.toString)
  | directory (h : folder.entry? path = some .directory) :
      Refused path (.inputNotFound path.toString)
  | unreadable {reason : String} (h : folder.entry? path = some (.unreadable reason)) :
      Refused path (.inputUnreadable path.toString reason)
  | hidden {reason : String} (h : folder.entry? path = some (.hidden reason)) :
      Refused path (.pathHidden path.toString reason)

/-- An input as it is told from its first sixteen bytes: a database, and a script otherwise. -/
def Told (path : Path) (input : Path × InputKind) : Prop :=
  input.1 = path ∧ ∃ bytes, folder.entry? path = some (.file bytes) ∧
    (input.2 = .database ↔ bytes.take 16 = databaseMagic)

/-- A single database is read as it is; any other inputs are replayed in their order. -/
inductive Acquired (state : State) :
    List (Path × InputKind) → List Call → Except Failure Schema → Prop
  | read (path : Path) :
      Acquired state [(path, .database)] (readDatabase engine folder path (.start state)).2.calls
        (readDatabase engine folder path (.start state)).1
  | replayed {inputs : List (Path × InputKind)} {calls : List Call}
      {result : Except Failure Schema} (hmany : ∀ path, inputs ≠ [(path, .database)])
      (hreplayed : InOrder engine folder state inputs calls result) :
      Acquired state inputs calls result

variable {folder}

theorem Refused.not_opens {path : Path} {f : Failure} (h : Refused folder path f) :
    ¬ folder.Opens path := by
  rintro ⟨bytes, hfile⟩
  cases h <;> simp_all

theorem Refused.isReported_iff {path : Path} {f : Failure} (h : Refused folder path f) :
    f.isReported = true ↔ ¬ folder.Hides path := by
  cases h with
  | nothing h | directory h | unreadable h =>
      refine iff_of_true rfl ?_
      rintro ⟨reason, hhidden⟩
      rw [h] at hhidden
      cases hhidden
  | @hidden reason h => exact iff_of_false nofun fun hshown => hshown ⟨reason, h⟩

theorem Told.opens {path : Path} {input : Path × InputKind} (h : Told folder path input) :
    folder.Opens path := by
  obtain ⟨-, bytes, hfile, -⟩ := h
  exact ⟨bytes, hfile⟩

theorem opens_of_told {paths : List Path} {inputs : List (Path × InputKind)}
    (h : List.Forall₂ (Told folder) paths inputs) : ∀ path ∈ paths, folder.Opens path := by
  induction h with
  | nil => simp
  | cons head _ ih => simpa using ⟨head.opens, ih⟩

variable (folder)

theorem refused_of_classify {path : Path} {f : Failure} (h : classify folder path = .error f) :
    Refused folder path f := by
  unfold classify at h
  split at h
  case h_1 => cases h
  case h_2 reason hentry =>
    cases h
    exact .unreadable hentry
  case h_3 reason hentry =>
    cases h
    exact .hidden hentry
  case h_4 hentry =>
    cases h
    exact .directory hentry
  case h_5 hentry =>
    cases h
    exact .nothing hentry

theorem told_of_classify {path : Path} {kind : InputKind} (h : classify folder path = .ok kind) :
    Told folder path (path, kind) := by
  obtain ⟨bytes, hentry⟩ := classify_ok folder h
  rw [classify, hentry] at h
  obtain rfl := Except.ok.inj h
  have hlength : databaseMagic.length = 16 := by decide
  exact ⟨rfl, bytes, hentry, by simp [hlength]⟩

theorem classifyAll_cases (paths : List Path) :
    (∃ f, classifyAll folder paths = .error f ∧ ∃ before path after,
        paths = before ++ path :: after ∧ (∀ p ∈ before, folder.Opens p) ∧
        Refused folder path f) ∨
      ∃ inputs, classifyAll folder paths = .ok inputs ∧
        List.Forall₂ (Told folder) paths inputs := by
  rcases classifyAll_first folder paths with
    ⟨before, path, after, f, rfl, hopens, hpath, hall⟩ | ⟨inputs, hall, hinputs⟩
  · exact .inl ⟨f, hall, before, path, after, rfl, hopens, refused_of_classify folder hpath⟩
  · refine .inr ⟨inputs, hall, hinputs.imp ?_⟩
    rintro _ ⟨path, kind⟩ ⟨rfl, hkind⟩
    exact told_of_classify folder hkind

theorem acquireKinds_acquired (inputs : List (Path × InputKind)) (state : State) :
    Acquired engine folder state inputs (acquireKinds engine folder inputs (.start state)).2.calls
      (acquireKinds engine folder inputs (.start state)).1 := by
  unfold acquireKinds
  split
  case h_1 path => exact .read path
  case h_2 hmany => exact .replayed hmany (replayAll_inOrder engine folder inputs state)

/-- Before it calls the engine, acquisition refuses the first input that is no file or cannot be
opened, and leaves all as it was; the refusal has a code unless nobody can look at the input.  If
there is none, the inputs that start with the header are read as databases, and all others are run
as scripts. -/
theorem acquire_checked (paths : List Path) (state : State) :
    ((∃ path ∈ paths, ¬ folder.Opens path) → ∃ before path after f,
      paths = before ++ path :: after ∧ (∀ p ∈ before, folder.Opens p) ∧ Refused folder path f ∧
        (f.isReported = true ↔ ¬ folder.Hides path) ∧
        acquire engine folder paths (.start state) = (.error f, .start state)) ∧
    ((∀ path ∈ paths, folder.Opens path) → ∃ inputs,
      List.Forall₂ (Told folder) paths inputs ∧
        Acquired engine folder state inputs (acquire engine folder paths (.start state)).2.calls
          (acquire engine folder paths (.start state)).1) := by
  rcases classifyAll_cases folder paths with
    ⟨f, hclassified, before, path, after, rfl, hbefore, hrefused⟩ | ⟨inputs, hclassified, htold⟩
  · refine ⟨fun _ => ⟨before, path, after, f, rfl, hbefore, hrefused,
      hrefused.isReported_iff, ?_⟩, fun hopens => ?_⟩
    · exact acquire_unclassified hclassified _
    · exact absurd (hopens path (by simp)) hrefused.not_opens
  · refine ⟨fun ⟨path, hpath, hclosed⟩ => ?_, fun _ => ⟨inputs, htold, ?_⟩⟩
    · exact absurd (opens_of_told htold path hpath) hclosed
    · obtain ⟨hresult, hcalls⟩ := acquire_classified engine hclassified (.start state)
      rw [hresult, hcalls]
      exact acquireKinds_acquired engine folder inputs state

theorem scriptedPeople_checked :
    let engine := sourceEngine peopleSource
    let gapped : List Path := [⟨"", ["tables.sql"]⟩, ⟨"", ["lost.sql"]⟩, ⟨"", ["people.db"]⟩]
    let paths : List Path := [⟨"", ["tables.sql"]⟩, ⟨"", ["people.db"]⟩]
    (∃ before path after f, gapped = before ++ path :: after ∧
      (∀ p ∈ before, scriptedPeople.Opens p) ∧ Refused scriptedPeople path f ∧
        (f.isReported = true ↔ ¬ scriptedPeople.Hides path) ∧
        acquire engine scriptedPeople gapped (.start .empty) = (.error f, .start .empty)) ∧
    ∃ inputs, List.Forall₂ (Told scriptedPeople) paths inputs ∧
      Acquired engine scriptedPeople .empty inputs
        (acquire engine scriptedPeople paths (.start .empty)).2.calls
        (acquire engine scriptedPeople paths (.start .empty)).1 := by
  have hlost : scriptedPeople.entry? ⟨"", ["lost.sql"]⟩ = none := rfl
  constructor
  · refine (acquire_checked _ scriptedPeople _ _).1 ⟨⟨"", ["lost.sql"]⟩, by simp, ?_⟩
    simp [Folder.Opens, hlost]
  · refine (acquire_checked _ scriptedPeople _ _).2 ?_
    simpa using ⟨⟨_, rfl⟩, ⟨_, rfl⟩⟩

end RecordLoom.Inputs
