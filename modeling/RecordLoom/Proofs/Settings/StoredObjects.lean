import RecordLoom.Proofs.Settings.Merging
import RecordLoom.Settings.Load

/-!
# Merging stored objects

Objects that are stored under addresses can be shared between documents.  A merge of stored objects
sets keys of a copy only, which it stores under a new address; in this way it makes the merged
document, and whatever was stored before stays as it is.  The settings of a project are merged over
those of a user, file over file.
-/

namespace RecordLoom.Settings

open RecordLoom.Json

/-- What a key of a stored object has: another object, or a value that is none. -/
inductive Slot where
  | object (address : Nat)
  | plain (value : Json)

abbrev Heap := List (List (String × Slot))

namespace Heap

def assign (heap : Heap) (address : Nat) (key : String) (slot : Slot) : Heap :=
  heap.modify address (insertMember key slot)

/-- Sets a key of the object at `target` to what overrides it; `join` merges two objects. -/
def override (join : Heap → Nat → Nat → Option (Heap × Nat)) (target : Nat) (heap : Heap)
    (entry : String × Slot) : Option Heap := do
  let held ← heap[target]?
  match held.lookup entry.1, entry.2 with
  | some (.object earlier), .object later => do
      let (heap, joined) ← join heap earlier later
      pure (heap.assign target entry.1 (.object joined))
  | _, slot => pure (heap.assign target entry.1 slot)

/-- Merges two objects into a new one, which starts as a copy of the first, and gives its address.
Objects are merged up to some depth. -/
def mergeObjects : Nat → Heap → Nat → Nat → Option (Heap × Nat)
  | 0, _, _, _ => none
  | depth + 1, heap, base, other => do
      let earlier ← heap[base]?
      let later ← heap[other]?
      let merged ← later.foldlM (override (mergeObjects depth) heap.length) (heap ++ [earlier])
      pure (merged, heap.length)

theorem override_eq_assign {join : Heap → Nat → Nat → Option (Heap × Nat)} {target : Nat}
    {heap : Heap} {entries : List (String × Slot)} (hentries : heap[target]? = some entries)
    {key : String} {slot : Slot}
    (h : (∀ later, slot ≠ .object later) ∨ ∀ earlier, entries.lookup key ≠ some (.object earlier)) :
    override join target heap (key, slot) = some (heap.assign target key slot) := by
  simp only [override, hentries, Option.bind_eq_bind, Option.bind_some]
  split
  case h_1 earlier later hearlier =>
    rcases h with h | h
    · exact absurd rfl (h later)
    · exact absurd hearlier (h earlier)
  case h_2 => rfl

theorem override_eq_join {join : Heap → Nat → Nat → Option (Heap × Nat)} {target : Nat}
    {heap grown : Heap} {entries : List (String × Slot)} (hentries : heap[target]? = some entries)
    {key : String} {earlier later address : Nat}
    (hearlier : entries.lookup key = some (.object earlier))
    (hjoin : join heap earlier later = some (grown, address)) :
    override join target heap (key, .object later) =
      some (grown.assign target key (.object address)) := by
  simp only [override, hentries, Option.bind_eq_bind, Option.bind_some, hearlier, hjoin]
  rfl

end Heap

/-! ## Documents in a heap -/

abbrev View := Nat → Option (List (String × Slot))

def Heap.view (heap : Heap) : View := fun address => heap[address]?

def View.Within (view wider : View) : Prop :=
  ∀ address entries, view address = some entries → wider address = some entries

mutual

/-- A slot stands for a value, by the objects that a view shows. -/
inductive Stands (view : View) : Slot → Json → Prop
  | plain {value : Json} : value.isObject = false → Stands view (.plain value) value
  | object {address : Nat} {entries : List (String × Slot)} {members : List (String × Json)} :
      view address = some entries → StandAll view entries members →
      Stands view (.object address) (.obj members)

inductive StandAll (view : View) : List (String × Slot) → List (String × Json) → Prop
  | nil : StandAll view [] []
  | cons {key : String} {slot : Slot} {value : Json} {entries : List (String × Slot)}
      {members : List (String × Json)} : Stands view slot value → StandAll view entries members →
      StandAll view ((key, slot) :: entries) ((key, value) :: members)

end

theorem View.Within.refl (view : View) : view.Within view := fun _ _ h => h

theorem View.Within.trans {view wider widest : View} (h : view.Within wider)
    (hw : wider.Within widest) : view.Within widest :=
  fun address entries hentries => hw address entries (h address entries hentries)

mutual

theorem Stands.mono {view wider : View} (hwithin : view.Within wider) {slot : Slot} {value : Json}
    (h : Stands view slot value) : Stands wider slot value :=
  match h with
  | .plain hvalue => .plain hvalue
  | .object hentries hmembers => .object (hwithin _ _ hentries) (hmembers.mono hwithin)

theorem StandAll.mono {view wider : View} (hwithin : view.Within wider)
    {entries : List (String × Slot)} {members : List (String × Json)}
    (h : StandAll view entries members) : StandAll wider entries members :=
  match h with
  | .nil => .nil
  | .cons hslot hentries => .cons (hslot.mono hwithin) (hentries.mono hwithin)

end

theorem Stands.exists_entries {view : View} {address : Nat} {members : List (String × Json)}
    (h : Stands view (.object address) (.obj members)) :
    ∃ entries, view address = some entries ∧ StandAll view entries members := by
  cases h with
  | object hentries hmembers => exact ⟨_, hentries, hmembers⟩

theorem StandAll.lookup {view : View} {entries : List (String × Slot)}
    {members : List (String × Json)} (h : StandAll view entries members) (key : String) :
    (entries.lookup key = none ∧ members.lookup key = none) ∨
      ∃ slot value, entries.lookup key = some slot ∧ members.lookup key = some value ∧
        Stands view slot value := by
  induction members generalizing entries with
  | nil =>
      cases h
      exact .inl ⟨rfl, rfl⟩
  | cons first rest ih =>
      cases h with
      | @cons head slot value entries _ hslot hentries =>
          rw [lookup_cons, lookup_cons]
          by_cases hkey : key = head
          · rw [if_pos hkey, if_pos hkey]
            exact .inr ⟨slot, value, rfl, rfl, hslot⟩
          · rw [if_neg hkey, if_neg hkey]
            exact ih hentries

theorem StandAll.insertMember {view : View} {entries : List (String × Slot)}
    {members : List (String × Json)} (h : StandAll view entries members) (key : String)
    {slot : Slot} {value : Json} (hslot : Stands view slot value) :
    StandAll view (insertMember key slot entries) (insertMember key value members) := by
  induction members generalizing entries with
  | nil =>
      cases h
      exact .cons hslot .nil
  | cons first rest ih =>
      cases h with
      | @cons head held _ entries _ hheld hentries =>
          rw [Json.insertMember, Json.insertMember]
          split
          case isTrue hsame => exact .cons hslot hentries
          case isFalse => exact .cons hheld (ih hentries)

/-! ## Steps of a merge -/

structure Grows (target : Nat) (heap : Heap) (view : View) (grown : Heap) (wider : View) :
    Prop where
  length : heap.length ≤ grown.length
  kept : ∀ address < heap.length, address ≠ target → grown[address]? = heap[address]?
  shown : wider.Within grown.view
  extended : view.Within wider
  fresh : ∀ address < heap.length, wider address = view address

theorem Grows.trans {target : Nat} {heap grown last : Heap} {view wider widest : View}
    (h : Grows target heap view grown wider) (hlast : Grows target grown wider last widest) :
    Grows target heap view last widest where
  length := Nat.le_trans h.length hlast.length
  kept address haddress hne :=
    (hlast.kept address (Nat.lt_of_lt_of_le haddress h.length) hne).trans
      (h.kept address haddress hne)
  shown := hlast.shown
  extended := h.extended.trans hlast.extended
  fresh address haddress :=
    (hlast.fresh address (Nat.lt_of_lt_of_le haddress h.length)).trans (h.fresh address haddress)

/-- The object at `target` is hidden from the view, by which it stands for some members. -/
structure Holds (target : Nat) (heap : Heap) (view : View) (members : List (String × Json)) :
    Prop where
  shown : view.Within heap.view
  hidden : view target = none
  members : ∃ entries, heap[target]? = some entries ∧ StandAll view entries members

theorem Holds.lt_length {target : Nat} {heap : Heap} {view : View}
    {members : List (String × Json)} (h : Holds target heap view members) :
    target < heap.length := by
  obtain ⟨entries, hentries, -⟩ := h.members
  exact (List.getElem?_eq_some_iff.mp hentries).1

theorem Holds.assign {target : Nat} {heap grown : Heap} {view wider : View}
    {members : List (String × Json)} (h : Holds target heap view members)
    (hgrows : Grows heap.length heap view grown wider) (key : String) {slot : Slot} {value : Json}
    (hslot : Stands wider slot value) :
    Grows target heap view (grown.assign target key slot) wider ∧
      Holds target (grown.assign target key slot) wider (insertMember key value members) := by
  have htarget := h.lt_length
  have hhidden : wider target = none := (hgrows.fresh target htarget).trans h.hidden
  have hother : ∀ address, address ≠ target →
      (grown.assign target key slot)[address]? = grown[address]? := by
    intro address hne
    rw [Heap.assign, List.getElem?_modify_ne _ _ hne.symm]
  have hshown : wider.Within (grown.assign target key slot).view := by
    intro address entries hentries
    have hne : address ≠ target := by
      rintro rfl
      rw [hhidden] at hentries
      cases hentries
    exact (hother address hne).trans (hgrows.shown address entries hentries)
  obtain ⟨entries, hentries, hmembers⟩ := h.members
  constructor
  · exact {
      length := by rw [Heap.assign, List.length_modify]; exact hgrows.length
      kept := fun address haddress hne =>
        (hother address hne).trans (hgrows.kept address haddress (Nat.ne_of_lt haddress))
      shown := hshown
      extended := hgrows.extended
      fresh := hgrows.fresh }
  · refine ⟨hshown, hhidden, Json.insertMember key slot entries, ?_,
      (hmembers.mono hgrows.extended).insertMember key hslot⟩
    rw [Heap.assign, List.getElem?_modify_eq, hgrows.kept target htarget (Nat.ne_of_lt htarget),
      hentries]
    rfl

def Joins (join : Heap → Nat → Nat → Option (Heap × Nat)) (bound : Nat) : Prop :=
  ∀ heap view base other earlier later, sizeOf later ≤ bound → view.Within heap.view →
    Stands view (.object base) (.obj earlier) → Stands view (.object other) (.obj later) →
    ∃ grown wider address, join heap base other = some (grown, address) ∧
      Grows heap.length heap view grown wider ∧
      Stands wider (.object address) (.obj (mergeMembers earlier later))

theorem Grows.refl {target : Nat} {heap : Heap} {view : View} (h : view.Within heap.view) :
    Grows target heap view heap view where
  length := Nat.le_refl _
  kept _ _ _ := rfl
  shown := h
  extended := .refl view
  fresh _ _ := rfl

theorem Holds.override {join : Heap → Nat → Nat → Option (Heap × Nat)} {bound : Nat}
    (hjoin : Joins join bound) {target : Nat} {heap : Heap} {view : View}
    {members : List (String × Json)} (h : Holds target heap view members) {key : String}
    {slot : Slot} {value : Json} (hslot : Stands view slot value)
    (hbound : ∀ later, value = .obj later → sizeOf later ≤ bound) :
    ∃ grown wider, Heap.override join target heap (key, slot) = some grown ∧
      Grows target heap view grown wider ∧
      Holds target grown wider
        (insertMember key (overridden (members.lookup key) value) members) := by
  obtain ⟨entries, hentries, hmembers⟩ := h.members
  -- Without two objects the slot is taken over as it is.
  have htaken : overridden (members.lookup key) value = value →
      Heap.override join target heap (key, slot) = some (heap.assign target key slot) →
      ∃ grown wider, Heap.override join target heap (key, slot) = some grown ∧
        Grows target heap view grown wider ∧
        Holds target grown wider
          (insertMember key (overridden (members.lookup key) value) members) := by
    intro hvalue hresult
    rw [hvalue]
    exact ⟨_, view, hresult, h.assign (.refl h.shown) key hslot⟩
  cases hslot with
  | plain hvalue =>
      exact htaken (overridden_of_isObject hvalue _) (Heap.override_eq_assign hentries (.inl nofun))
  | @object other _ later hother hlater =>
      have hstands : Stands view (.object other) (.obj later) := .object hother hlater
      rcases hmembers.lookup key with ⟨hnone, hmissing⟩ | ⟨held, earlier, hheld, hearlier, hstood⟩
      case inl =>
        refine htaken (by rw [hmissing]; rfl) (Heap.override_eq_assign hentries (.inr ?_))
        rw [hnone]
        exact nofun
      case inr =>
        cases hstood with
        | plain hplain =>
            refine htaken (overridden_obj_of_ne ?_ later)
              (Heap.override_eq_assign hentries (.inr ?_))
            · rintro inner hinner
              rw [hearlier] at hinner
              cases hinner
              cases hplain
            · rw [hheld]
              exact nofun
        | @object base _ inner hbase hinner =>
            obtain ⟨grown, wider, address, hresult, hgrows, hjoined⟩ :=
              hjoin heap view base other inner later (hbound later rfl) h.shown
                (.object hbase hinner) hstands
            rw [hearlier, overridden_objects]
            exact ⟨_, wider, Heap.override_eq_join hentries hheld hresult,
              h.assign hgrows key hjoined⟩

theorem Holds.foldlM_override {join : Heap → Nat → Nat → Option (Heap × Nat)} {bound : Nat}
    (hjoin : Joins join bound) {target : Nat} {later : List (String × Json)} {heap : Heap}
    {view : View} {members : List (String × Json)} (h : Holds target heap view members)
    {entries : List (String × Slot)} (hentries : StandAll view entries later)
    (hbound : ∀ m ∈ later, ∀ inner, m.2 = .obj inner → sizeOf inner ≤ bound) :
    ∃ grown wider, entries.foldlM (Heap.override join target) heap = some grown ∧
      Grows target heap view grown wider ∧
      Holds target grown wider (mergeMembers members later) := by
  induction later generalizing heap view members entries with
  | nil =>
      cases hentries
      rw [mergeMembers]
      exact ⟨heap, view, rfl, .refl h.shown, h⟩
  | cons first rest ih =>
      obtain ⟨hfirst, hrest⟩ := List.forall_mem_cons.mp hbound
      cases hentries with
      | cons hslot hothers =>
          obtain ⟨next, seen, hnext, hgrows, hholds⟩ := h.override hjoin hslot hfirst
          obtain ⟨grown, wider, hresult, hlast, hmerged⟩ :=
            ih hholds (hothers.mono hgrows.extended) hrest
          refine ⟨grown, wider, ?_, hgrows.trans hlast, mergeMembers_cons .. ▸ hmerged⟩
          rw [List.foldlM_cons, hnext]
          exact hresult

theorem holds_copy {heap : Heap} {view : View} (hshown : view.Within heap.view)
    {copied : List (String × Slot)} {members : List (String × Json)}
    (hmembers : StandAll view copied members) :
    Holds heap.length (heap ++ [copied]) view members where
  shown address found hfound := by
    have hfound := hshown address found hfound
    exact (List.getElem?_append_left (List.getElem?_eq_some_iff.mp hfound).1).trans hfound
  hidden := by
    cases hview : view heap.length with
    | none => rfl
    | some found => exact absurd (hshown _ _ hview) (by simp [Heap.view])
  members := ⟨copied, by simp, hmembers⟩

theorem Holds.reveal {heap grown : Heap} {view wider : View} {copied : List (String × Slot)}
    {members : List (String × Json)} (h : Holds heap.length grown wider members)
    (hgrows : Grows heap.length (heap ++ [copied]) view grown wider) :
    ∃ widest, Grows heap.length heap view grown widest ∧
      Stands widest (.object heap.length) (.obj members) := by
  obtain ⟨held, hheld, hstands⟩ := h.members
  let widest : View := fun address => if address = heap.length then some held else wider address
  have hwidest : wider.Within widest := by
    intro address found hfound
    have hne : address ≠ heap.length := by
      rintro rfl
      rw [h.hidden] at hfound
      cases hfound
    simp only [widest, if_neg hne, hfound]
  have hlonger : heap.length ≤ (heap ++ [copied]).length := by simp
  refine ⟨widest, ?_, .object (if_pos rfl) (hstands.mono hwidest)⟩
  constructor
  case length => exact Nat.le_trans hlonger hgrows.length
  case kept =>
    intro address haddress hne
    rw [hgrows.kept address (Nat.lt_of_lt_of_le haddress hlonger) hne,
      List.getElem?_append_left haddress]
  case shown =>
    intro address found hfound
    by_cases haddress : address = heap.length
    · subst haddress
      obtain rfl : held = found := by simpa [widest] using hfound
      exact hheld
    · exact hgrows.shown address found (by simpa [widest, haddress] using hfound)
  case extended => exact hgrows.extended.trans hwidest
  case fresh =>
    intro address haddress
    simp only [widest, if_neg (Nat.ne_of_lt haddress)]
    exact hgrows.fresh address (Nat.lt_of_lt_of_le haddress hlonger)

theorem sizeOf_lt_of_mem {members : List (String × Json)} {m : String × Json} (hm : m ∈ members)
    {inner : List (String × Json)} (hinner : m.2 = .obj inner) :
    sizeOf inner < sizeOf members := by
  have hlt := List.sizeOf_lt_of_mem hm
  obtain ⟨key, value⟩ := m
  obtain rfl : value = .obj inner := hinner
  simp only [Prod.mk.sizeOf_spec, obj.sizeOf_spec] at hlt
  omega

/-- A merge of stored objects is as deep as the overriding object at most. -/
theorem joins_mergeObjects (depth : Nat) : Joins (Heap.mergeObjects depth) depth := by
  induction depth with
  | zero =>
      intro heap view base other earlier later hbound
      cases later <;> simp at hbound
  | succ depth ih =>
      intro heap view base other earlier later hbound hshown hbase hother
      obtain ⟨copied, hcopied, hearlier⟩ := hbase.exists_entries
      obtain ⟨entries, hentries, hlater⟩ := hother.exists_entries
      have hsmaller : ∀ m ∈ later, ∀ inner, m.2 = .obj inner → sizeOf inner ≤ depth :=
        fun m hm inner hinner =>
          Nat.le_of_lt_succ (Nat.lt_of_lt_of_le (sizeOf_lt_of_mem hm hinner) hbound)
      obtain ⟨grown, wider, hresult, hgrows, hmerged⟩ :=
        (holds_copy hshown hearlier).foldlM_override ih hlater hsmaller
      obtain ⟨widest, hrevealed, hstands⟩ := hmerged.reveal hgrows
      refine ⟨grown, widest, heap.length, ?_, hrevealed, hstands⟩
      have hfirst : heap[base]? = some copied := hshown _ _ hcopied
      have hsecond : heap[other]? = some entries := hshown _ _ hentries
      simp only [Heap.mergeObjects, hfirst, hsecond, hresult, Option.bind_eq_bind, Option.bind_some]
      rfl

/-! ## Settings -/

/-- However the two are stored, a merge stores a new object for the merged members and leaves all
that was stored before, the two among it, as it was. -/
def MergesStored (base override : List (String × Json)) : Prop :=
  ∀ (heap : Heap) (first second : Nat), Stands heap.view (.object first) (.obj base) →
    Stands heap.view (.object second) (.obj override) →
    ∃ depth merged address, Heap.mergeObjects depth heap first second = some (merged, address) ∧
      (∀ old < heap.length, merged[old]? = heap[old]?) ∧
      Stands merged.view (.object first) (.obj base) ∧
      Stands merged.view (.object second) (.obj override) ∧
      Stands merged.view (.object address) (.obj (mergeMembers base override))

theorem mergesStored (base override : List (String × Json)) : MergesStored base override := by
  intro heap first second hfirst hsecond
  obtain ⟨merged, wider, address, hresult, hgrows, hmerged⟩ :=
    joins_mergeObjects (sizeOf override) heap heap.view first second base override (Nat.le_refl _)
      (.refl _) hfirst hsecond
  have hshown := hgrows.extended.trans hgrows.shown
  exact ⟨sizeOf override, merged, address, hresult,
    fun old hold => hgrows.kept old hold (Nat.ne_of_lt hold), hfirst.mono hshown,
    hsecond.mono hshown, hmerged.mono hgrows.shown⟩

/-- Settings files hold documents that are read from a text. -/
def Sources.ReadsDocuments (sources : Sources) : Prop :=
  ∀ bytes document, sources.parse bytes = .ok document →
    ∃ text, parseDocument text = .ok document

theorem hasDistinctKeys_of_parseDocument {text : String} {document : Json}
    (h : parseDocument text = .ok document) : document.HasDistinctKeys := by
  rw [parseDocument] at h
  split at h
  case h_1 hread =>
    cases h
    exact hasDistinctKeys_of_parse? hread
  case h_2 =>
    split at h
    · cases h
      exact hasDistinctKeys_of_isObject rfl
    · cases h

theorem hasDistinctKeys_of_readFile {sources : Sources} (hsources : sources.ReadsDocuments)
    {path : Inputs.Path} {members : List (String × Json)}
    (h : readFile sources path = .ok members) : (Json.obj members).HasDistinctKeys := by
  have hempty : (Json.obj []).HasDistinctKeys :=
    hasDistinctKeys_obj List.nodup_nil (List.forall_mem_nil _)
  rw [readFile] at h
  split at h
  case h_1 =>
    split at h
    case h_1 hparsed =>
      cases h
      obtain ⟨text, htext⟩ := hsources _ _ hparsed
      exact hasDistinctKeys_of_parseDocument htext
    case h_2 =>
      cases h
      exact hempty
    case h_3 => cases h
    case h_4 => cases h
  case h_2 | h_3 => cases h
  case h_4 | h_5 =>
    cases h
    exact hempty

theorem fileMembers_eq_ok {sources : Sources} {named : Option Inputs.Path}
    {files : List (String × Json)} (h : fileMembers sources named = .ok files) :
    ∃ user project, readFile sources sources.userFile = .ok user ∧
      readFile sources (named.getD projectFile) = .ok project ∧
      files = mergeMembers user project := by
  have hread : (do
      let user ← readFile sources sources.userFile
      let project ← readFile sources (named.getD projectFile)
      pure (mergeMembers user project) : Except Failure (List (String × Json))) = .ok files := by
    cases named with
    | none => exact h
    | some path =>
        rw [fileMembers] at h
        dsimp only at h
        cases hfile : sources.folder.isFile path with
        | error f =>
            rw [hfile] at h
            cases h
        | ok isFile =>
            rw [hfile] at h
            cases isFile with
            | true => exact h
            | false => cases h
  cases huser : readFile sources sources.userFile with
  | error f =>
      rw [huser] at hread
      cases hread
  | ok user =>
      cases hproject : readFile sources (named.getD projectFile) with
      | error f =>
          rw [huser, hproject] at hread
          cases hread
      | ok project =>
          rw [huser, hproject] at hread
          exact ⟨user, project, rfl, rfl, (Except.ok.inj hread).symm⟩

/-- Settings are merged key by key at every depth, with those of the project in front, and a merge
leaves both as they are. -/
theorem merge_keyByKey {base override : List (String × Json)}
    (h : (Json.obj override).HasDistinctKeys) :
    IsMerge (.obj base) (.obj override) (.obj (mergeMembers base override)) ∧
      MergesStored base override ∧
      ∀ (sources : Sources) (named : Option Inputs.Path) (files : List (String × Json)),
        sources.ReadsDocuments → fileMembers sources named = .ok files →
        ∃ user project, readFile sources sources.userFile = .ok user ∧
          readFile sources (named.getD projectFile) = .ok project ∧
          IsMerge (.obj user) (.obj project) (.obj files) := by
  refine ⟨isMerge_mergeMembers h, mergesStored base override, ?_⟩
  intro sources named files hsources hfiles
  obtain ⟨user, project, huser, hproject, rfl⟩ := fileMembers_eq_ok hfiles
  exact ⟨user, project, huser, hproject,
    isMerge_mergeMembers (hasDistinctKeys_of_readFile hsources hproject)⟩

def userSettings : List (String × Json) :=
  [("render", .obj [("indent", .int 4), ("line_length", .int 90)]),
    ("naming", .obj [("type_map", .obj [("MONEY", .str "decimal")])])]

def projectSettings : List (String × Json) :=
  [("render", .obj [("indent", .int 2)]), ("naming", .obj [("type_map", .null)]),
    ("output", .obj [("public", .bool false)])]

theorem projectSettings_hasDistinctKeys : (Json.obj projectSettings).HasDistinctKeys := by
  have hsection : ∀ (key : String) {value : Json}, value.isObject = false →
      (Json.obj [(key, value)]).HasDistinctKeys := fun key value hvalue =>
    hasDistinctKeys_obj (List.nodup_singleton key)
      (List.forall_mem_singleton.mpr (hasDistinctKeys_of_isObject hvalue))
  refine hasDistinctKeys_obj (by decide) fun m hm => ?_
  simp only [projectSettings, List.mem_cons, List.not_mem_nil, or_false] at hm
  rcases hm with rfl | rfl | rfl
  · exact hsection "indent" rfl
  · exact hsection "type_map" rfl
  · exact hsection "public" rfl

def userText : String := "\x7b\"output\": \x7b\x7d\x7d"

def projectText : String := "\x7b\"naming\": \x7b\x7d\x7d"

def layeredSources : Sources where
  folder :=
    ⟨[(.ofString "global.yaml", .file (userText.toList.map fun c => c.toNat.toUInt8)),
      (projectFile, .file (projectText.toList.map fun c => c.toNat.toUInt8))]⟩
  parse bytes := parseDocument (.ofList (bytes.map fun byte => Char.ofNat byte.toNat))
  userFile := .ofString "global.yaml"
  environment := []
  home := "/"

theorem layeredTexts_parsed :
    Json.parse? userText = some (.obj [("output", .obj [])]) ∧
      Json.parse? projectText = some (.obj [("naming", .obj [])]) := by
  open Json in
  constructor <;>
    simp [userText, projectText, parse?, readValue?, readMembers?, readString?, readWord?, words,
      skipBlanks, isJsonBlank, Letters.empty, Letters.add, Letters.settled, Letters.text, ofMembers,
      insertMember]

theorem layeredSources_readFile :
    readFile layeredSources layeredSources.userFile = .ok [("output", .obj [])] ∧
      readFile layeredSources projectFile = .ok [("naming", .obj [])] := by
  have huser : layeredSources.folder.entry? layeredSources.userFile =
      some (.file (userText.toList.map fun c => c.toNat.toUInt8)) := by decide +kernel
  have hproject : layeredSources.folder.entry? projectFile =
      some (.file (projectText.toList.map fun c => c.toNat.toUInt8)) := by decide +kernel
  have huserText : String.ofList ((userText.toList.map fun c => c.toNat.toUInt8).map
      fun byte => Char.ofNat byte.toNat) = userText := by decide +kernel
  have hprojectText : String.ofList ((projectText.toList.map fun c => c.toNat.toUInt8).map
      fun byte => Char.ofNat byte.toNat) = projectText := by decide +kernel
  constructor
  · rw [readFile, huser]
    dsimp only [layeredSources]
    rw [huserText, parseDocument, layeredTexts_parsed.1]
  · rw [readFile, hproject]
    dsimp only [layeredSources]
    rw [hprojectText, parseDocument, layeredTexts_parsed.2]

theorem layeredSources_files :
    fileMembers layeredSources none = .ok [("output", .obj []), ("naming", .obj [])] := by
  obtain ⟨huser, hproject⟩ := layeredSources_readFile
  change (do
    let user ← readFile layeredSources layeredSources.userFile
    let project ← readFile layeredSources projectFile
    pure (mergeMembers user project) : Except Failure (List (String × Json))) = _
  rw [huser, hproject]
  rfl

theorem projectSettings_keyByKey :
    (Json.obj projectSettings).HasDistinctKeys ∧
      IsMerge (.obj userSettings) (.obj projectSettings)
        (.obj (mergeMembers userSettings projectSettings)) ∧
      MergesStored userSettings projectSettings ∧
      layeredSources.ReadsDocuments ∧
      ∃ user project, readFile layeredSources layeredSources.userFile = .ok user ∧
        readFile layeredSources projectFile = .ok project ∧
        IsMerge (.obj user) (.obj project) (.obj [("output", .obj []), ("naming", .obj [])]) := by
  have hreads : layeredSources.ReadsDocuments := fun _ _ hparsed => ⟨_, hparsed⟩
  obtain ⟨hmerge, hstored, hfiles⟩ :=
    @merge_keyByKey userSettings projectSettings projectSettings_hasDistinctKeys
  exact ⟨projectSettings_hasDistinctKeys, hmerge, hstored, hreads,
    hfiles layeredSources none _ hreads layeredSources_files⟩

example : mergeMembers userSettings projectSettings =
    [("render", .obj [("indent", .int 2), ("line_length", .int 90)]),
      ("naming", .obj [("type_map", .null)]), ("output", .obj [("public", .bool false)])] := by
  rfl

end RecordLoom.Settings
