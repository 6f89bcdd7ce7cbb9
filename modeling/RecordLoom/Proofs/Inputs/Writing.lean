import RecordLoom.Inputs.Folder
import Mathlib.Data.List.Infix

/-!
# Writing a file

A file is written to a path once the directories on the way are made.  If nothing stands in the way,
the path then leads to the file, and nothing else in the folder has changed.
-/

namespace RecordLoom.Inputs

namespace Path

def reached (p : Path) (count : Nat) : List String := (p.parts.take count).foldl p.enter []

structure IsAbove (upper lower : Path) : Prop where
  root : lower.root = upper.root
  parts : upper.parts <+: lower.parts
  shorter : upper.parts.length < lower.parts.length

variable {p : Path}

theorem collapsed_eq (p : Path) :
    p.collapsed = { p with parts := (p.reached p.parts.length).reverse } := by
  rw [collapsed, reached, List.take_length]

theorem mem_above {place : Path} :
    place ∈ p.above ↔
      ∃ count < p.parts.length, place = { p with parts := (p.reached count).reverse } := by
  rw [above, List.mem_map]
  constructor
  · rintro ⟨count, hcount, rfl⟩
    exact ⟨count, List.mem_range.mp hcount, rfl⟩
  · rintro ⟨count, hcount, rfl⟩
    exact ⟨count, List.mem_range.mpr hcount, rfl⟩

theorem reached_succ {count : Nat} (h : count < p.parts.length) :
    p.reached (count + 1) = p.enter (p.reached count) p.parts[count] := by
  rw [reached, List.take_add_one, List.getElem?_eq_getElem h, List.foldl_append]
  rfl

theorem suffix_enter {held part : List String} {next : String}
    (h : part <:+ p.enter held next) : part = p.enter held next ∨ part <:+ held := by
  have hdown : ∀ {name : String}, part <:+ name :: held → part = name :: held ∨ part <:+ held :=
    List.suffix_cons_iff.mp
  unfold enter at h ⊢
  split at h
  case isFalse hname =>
    rw [if_neg hname]
    exact hdown h
  case isTrue hname =>
    rw [if_pos hname]
    split at h
    case h_1 =>
      split at h
      case isTrue habsolute => exact .inr h
      case isFalse habsolute => exact (hdown h).imp_left fun hpart => by simp [habsolute, hpart]
    case h_2 last above =>
      split at h
      case isTrue hlast => exact (hdown h).imp_left fun hpart => by simp [hlast, hpart]
      case isFalse hlast => exact .inr (h.trans (List.suffix_cons last above))

theorem exists_reached {part : List String} {count : Nat} (hcount : count ≤ p.parts.length)
    (hsuffix : part <:+ p.reached count) (hne : part ≠ p.reached count) :
    ∃ before < count, part = p.reached before := by
  induction count with
  | zero =>
      have hpart : part = [] := List.suffix_nil.mp hsuffix
      exact absurd hpart hne
  | succ count ih =>
      rw [reached_succ hcount] at hsuffix hne
      have hheld := (suffix_enter hsuffix).resolve_left hne
      by_cases hsame : part = p.reached count
      · exact ⟨count, Nat.lt_succ_self count, hsame⟩
      · obtain ⟨before, hbefore, hpart⟩ := ih (Nat.le_of_succ_le hcount) hheld hsame
        exact ⟨before, hbefore.trans (Nat.lt_succ_self count), hpart⟩

theorem IsAbove.mem_above_of_reached {place : Path} {count : Nat} (hcount : count ≤ p.parts.length)
    (h : place.IsAbove { p with parts := (p.reached count).reverse }) : place ∈ p.above := by
  have hsuffix : place.parts.reverse <:+ p.reached count := by
    rw [← List.reverse_prefix, List.reverse_reverse]
    exact h.parts
  have hne : place.parts.reverse ≠ p.reached count := by
    intro hsame
    have hshorter := h.shorter
    simp [← hsame] at hshorter
  obtain ⟨before, hbefore, hpart⟩ := exists_reached hcount hsuffix hne
  refine mem_above.mpr ⟨before, Nat.lt_of_lt_of_le hbefore hcount, ?_⟩
  have hroot : p.root = place.root := h.root
  rw [← hpart, List.reverse_reverse, hroot]

theorem IsAbove.mem_above {place lower : Path} (h : place.IsAbove lower)
    (hlower : lower = p.collapsed ∨ lower ∈ p.above) : place ∈ p.above := by
  rcases hlower with rfl | hlower
  · rw [collapsed_eq] at h
    exact h.mem_above_of_reached (Nat.le_refl _)
  · obtain ⟨count, hcount, rfl⟩ := Path.mem_above.mp hlower
    exact h.mem_above_of_reached (Nat.le_of_lt hcount)

end Path

namespace Folder

variable {folder : Folder} {path place : Path} {bytes : List UInt8}

theorem isDirectory_iff :
    folder.isDirectory place = true ↔ (∀ part ∈ place.parts, part = "..") ∨
      ∃ item ∈ folder.entries, item = (place, .directory) ∨ place.IsAbove item.1 := by
  have hitem : ∀ item : Path × Entry,
      (item.2 == .directory && item.1 == place) = true ∨
        (item.1.root == place.root && place.parts.isPrefixOf item.1.parts &&
          decide (place.parts.length < item.1.parts.length)) = true ↔
      item = (place, .directory) ∨ place.IsAbove item.1 := by
    rintro ⟨other, entry⟩
    have habove : place.IsAbove other ↔ (other.root = place.root ∧
        place.parts <+: other.parts) ∧ place.parts.length < other.parts.length :=
      ⟨fun h => ⟨⟨h.root, h.parts⟩, h.shorter⟩, fun h => ⟨h.1.1, h.1.2, h.2⟩⟩
    simp [habove, and_comm (a := entry = _)]
  simp only [isDirectory, Bool.or_eq_true, List.all_eq_true, List.any_eq_true, beq_iff_eq]
  exact or_congr_right (exists_congr fun item => and_congr_right fun _ => hitem item)

def write (folder : Folder) (path : Path) (bytes : List UInt8) : Folder where
  entries := (path.collapsed, .file bytes) :: (path.above.map fun place => (place, .directory)) ++
    folder.entries.filter fun item => item.1 != path.collapsed

structure Writable (folder : Folder) (path : Path) : Prop where
  notDirectory : folder.isDirectory path.collapsed = false
  notAbove : path.collapsed ∉ path.above
  notHidden : ∀ reason, folder.at? path.collapsed ≠ some (.hidden reason)
  free : ∀ place ∈ path.above,
    folder.at? place = some .directory ∨ folder.at? place = none

theorem isWritable_iff : folder.isWritable path = true ↔ folder.Writable path := by
  have hfree : ∀ entry : Option Entry, entry.all (· == .directory) = true ↔
      entry = some .directory ∨ entry = none := by
    rintro (_ | entry) <;> simp
  have hshown : ∀ entry : Option Entry, entry.all (!·.isHidden) = true ↔
      ∀ reason, entry ≠ some (.hidden reason) := by
    rintro (_ | _ | _ | _ | _) <;> simp [Entry.isHidden]
  simp only [isWritable, Bool.and_eq_true, Bool.not_eq_true', List.all_eq_true, hfree, hshown,
    List.contains_eq_mem, decide_eq_false_iff_not]
  exact ⟨fun h => ⟨h.1.1.1, h.1.1.2, h.1.2, h.2⟩, fun h => ⟨⟨⟨h.1, h.2⟩, h.3⟩, h.4⟩⟩

theorem isDirectory_write (h : folder.Writable path) :
    (folder.write path bytes).isDirectory place = true ↔
      folder.isDirectory place = true ∨ place ∈ path.above := by
  rw [isDirectory_iff, isDirectory_iff]
  constructor
  · rintro (hup | ⟨item, hitem, hplace⟩)
    · exact .inl (.inl hup)
    · rcases List.mem_append.mp hitem with hitem | hitem
      · right
        rcases List.mem_cons.mp hitem with rfl | hitem
        · exact (hplace.resolve_left (by simp)).mem_above (.inl rfl)
        · obtain ⟨other, hother, rfl⟩ := List.mem_map.mp hitem
          rcases hplace with hsame | habove
          · cases hsame
            exact hother
          · exact habove.mem_above (.inr hother)
      · exact .inl (.inr ⟨item, List.mem_of_mem_filter hitem, hplace⟩)
  · rintro ((hup | ⟨item, hitem, hplace⟩) | habove)
    · exact .inl hup
    · by_cases hsame : item.1 = path.collapsed
      · -- The entry that the file replaces was no directory, so that only what is above it counts.
        rcases hplace with rfl | habove
        · have hdirectory := isDirectory_iff.mpr (.inr ⟨_, hitem, .inl rfl⟩)
          rw [show place = path.collapsed from hsame, h.notDirectory] at hdirectory
          cases hdirectory
        · exact .inr ⟨(path.collapsed, .file bytes), by simp [write], .inr (hsame ▸ habove)⟩
      · exact .inr ⟨item, by simp [write, hitem, hsame], hplace⟩
    · exact .inr ⟨(place, .directory), by simp [write, habove], .inl rfl⟩

theorem lookup_filter {entries : List (Path × Entry)} {keep : Path × Entry → Bool}
    (hkeep : ∀ item : Path × Entry, item.1 = place → keep item = true) :
    (entries.filter keep).lookup place = entries.lookup place := by
  induction entries with
  | nil => rfl
  | cons item rest ih =>
      by_cases hitem : place = item.1
      · rw [List.filter_cons_of_pos (hkeep item hitem.symm), List.lookup_cons, List.lookup_cons,
          hitem, beq_self_eq_true]
      · rw [List.lookup_cons, beq_false_of_ne hitem, List.filter_cons]
        split
        · rw [List.lookup_cons, beq_false_of_ne hitem]
          exact ih
        · exact ih

theorem lookup_write_of_ne (hplace : place ≠ path.collapsed) (habove : place ∉ path.above) :
    (folder.write path bytes).entries.lookup place = folder.entries.lookup place := by
  have hway : (path.above.map fun place => (place, Entry.directory)).lookup place = none := by
    rw [List.lookup_eq_none_iff]
    intro item hitem
    obtain ⟨other, hother, rfl⟩ := List.mem_map.mp hitem
    exact bne_iff_ne.mpr fun hsame => habove (hsame ▸ hother)
  rw [write, List.lookup_append, List.lookup_cons, beq_false_of_ne hplace, hway, Option.none_or]
  refine lookup_filter fun item hitem => ?_
  rw [hitem]
  exact bne_iff_ne.mpr hplace

theorem resolve_write (h : folder.Writable path) :
    (folder.write path bytes).resolve path = some path.collapsed := by
  have hfrom : ∀ (rest : List String) (count : Nat), count ≤ path.parts.length →
      path.parts.drop count = rest →
      (folder.write path bytes).resolveFrom path (path.reached count) rest =
        some path.collapsed := by
    intro rest
    induction rest with
    | nil =>
        intro count hcount hrest
        have hall : count = path.parts.length :=
          Nat.le_antisymm hcount (List.drop_eq_nil_iff.mp hrest)
        rw [resolveFrom, hall, ← Path.collapsed_eq]
    | cons part rest ih =>
        intro count hcount hrest
        have hlt : count < path.parts.length := by
          by_contra hnot
          rw [List.drop_of_length_le (Nat.le_of_not_lt hnot)] at hrest
          cases hrest
        rw [List.drop_eq_getElem_cons hlt] at hrest
        obtain ⟨hpart, hdrop⟩ := List.cons.inj hrest
        have hdirectory : (folder.write path bytes).isDirectory
            { path with parts := (path.reached count).reverse } = true :=
          (isDirectory_write h).mpr (.inr (Path.mem_above.mpr ⟨count, hlt, rfl⟩))
        rw [resolveFrom, if_pos hdirectory, ← hpart, ← Path.reached_succ hlt]
        exact ih (count + 1) hlt hdrop
  exact hfrom path.parts 0 (Nat.zero_le _) rfl

/-- A folder before and after a file was written: the path leads to the file, the directories on the
way are there and were free or there before, and all else is as it was. -/
structure Wrote (before after : Folder) (path : Path) (bytes : List UInt8) : Prop where
  file : after.entry? path = some (.file bytes)
  way : ∀ place ∈ path.above, after.at? place = some .directory ∧
    (before.at? place = some .directory ∨ before.at? place = none)
  others : ∀ place, place ≠ path.collapsed → place ∉ path.above →
    after.at? place = before.at? place

theorem wrote_write (h : folder.isWritable path = true) (bytes : List UInt8) :
    Wrote folder (folder.write path bytes) path bytes := by
  rw [isWritable_iff] at h
  constructor
  · unfold entry?
    rw [resolve_write h, Option.bind_some, at?, if_neg]
    · simp [write]
    · simp [isDirectory_write h, h.notDirectory, h.notAbove]
  · intro place hplace
    have hdirectory : (folder.write path bytes).isDirectory place = true :=
      (isDirectory_write h).mpr (.inr hplace)
    exact ⟨by rw [at?, if_pos hdirectory], h.free place hplace⟩
  · intro place hplace habove
    have hsame : (folder.write path bytes).isDirectory place = folder.isDirectory place := by
      rw [Bool.eq_iff_iff, isDirectory_write h, or_iff_left habove]
    rw [at?, hsame, lookup_write_of_ne hplace habove, at?]

end Folder

end RecordLoom.Inputs
