import RecordLoom.Entity.Basic
import Mathlib.Data.List.Nodup

/-!
# Look-up by SQL name

`findNamed` prefers the exact spelling.  Hence an item of a list without repeated names is found
under its own name, and a look-up that depends on names only commutes with every map that keeps
them.  What is listed item by item under the names of such a list can be told apart by name.
-/

namespace RecordLoom.Entity

variable {α β : Type} {name : α → String}

theorem mem_of_findNamed {items : List α} {wanted : String} {item : α}
    (h : findNamed name items wanted = some item) : item ∈ items := by
  simp only [findNamed, Option.orElse_eq_or, Option.or_eq_some_iff] at h
  rcases h with h | ⟨-, h⟩
  · exact List.mem_of_find?_eq_some h
  · exact List.mem_of_find?_eq_some h

theorem findNamed_map (f : α → β) (key : β → String) (items : List α) (wanted : String) :
    findNamed key (items.map f) wanted =
      (findNamed (fun item => key (f item)) items wanted).map f := by
  simp only [findNamed, Option.orElse_eq_or, List.find?_map, Option.map_or]
  rfl

theorem exists_findNamed {items : List α} {item : α} (h : item ∈ items) :
    ∃ found, findNamed name items (name item) = some found ∧ name found = name item := by
  cases hexact : items.find? (fun other => name other == name item) with
  | none => exact absurd (List.find?_eq_none.mp hexact item h) (by simp)
  | some found =>
      refine ⟨found, by simp [findNamed, hexact], ?_⟩
      simpa using List.find?_some hexact

theorem findNamed_self {items : List α} (hnames : (items.map name).Nodup) {item : α}
    (h : item ∈ items) : findNamed name items (name item) = some item := by
  obtain ⟨found, hfound, hname⟩ : ∃ found,
      findNamed name items (name item) = some found ∧ name found = name item := exists_findNamed h
  rw [hfound, List.inj_on_of_nodup_map hnames (mem_of_findNamed hfound) h hname]

theorem lower_of_findNamed {items : List α} {wanted : String} {item : α}
    (h : findNamed name items wanted = some item) :
    Text.lower (name item) = Text.lower wanted := by
  simp only [findNamed, Option.orElse_eq_or, Option.or_eq_some_iff] at h
  rcases h with h | ⟨-, h⟩
  · have hsame : name item = wanted := by simpa using List.find?_some h
    rw [hsame]
  · simpa using List.find?_some h

theorem findNamed_found {items : List α} {wanted : String} {item : α}
    (h : findNamed name items wanted = some item) :
    findNamed name items (name item) = some item := by
  have hlower := lower_of_findNamed h
  simp only [findNamed, Option.orElse_eq_or, Option.or_eq_some_iff] at h ⊢
  rcases h with h | ⟨-, h⟩
  · have hsame : name item = wanted := by simpa using List.find?_some h
    rw [hsame]
    exact .inl h
  · -- An item of exactly this name is alike too, so that none stands before the first alike one.
    obtain ⟨hfound, before, after, rfl, hbefore⟩ := List.find?_eq_some_iff_append.mp h
    refine .inl (List.find?_eq_some_iff_append.mpr
      ⟨beq_self_eq_true _, before, after, rfl, fun other hother => ?_⟩)
    have hother := hbefore other hother
    rw [← hlower] at hother
    simp only [Bool.not_eq_true', beq_eq_false_iff_ne] at hother ⊢
    exact fun hsame => hother (congrArg Text.lower hsame)

/-- The item that a name stands for: the first that is spelled like it, or else the first that is
spelled like it but for the case of letters. -/
inductive Names (name : α → String) (items : List α) (wanted : String) (item : α) : Prop
  | exact {before after : List α} (hitems : items = before ++ item :: after)
      (hname : name item = wanted) (hfirst : ∀ other ∈ before, name other ≠ wanted)
  | alike {before after : List α} (hitems : items = before ++ item :: after)
      (hname : Text.lower (name item) = Text.lower wanted)
      (hfirst : ∀ other ∈ before, Text.lower (name other) ≠ Text.lower wanted)
      (hexact : ∀ other ∈ items, name other ≠ wanted)

theorem findNamed_eq_some_iff {items : List α} {wanted : String} {item : α} :
    findNamed name items wanted = some item ↔ Names name items wanted item := by
  simp only [findNamed, Option.orElse_eq_or, Option.or_eq_some_iff, List.find?_eq_some_iff_append,
    List.find?_eq_none, beq_iff_eq, Bool.not_eq_true', beq_eq_false_iff_ne]
  constructor
  · rintro (⟨hname, before, after, hitems, hfirst⟩ | ⟨hexact, hname, before, after, hitems, hfirst⟩)
    · exact .exact hitems hname hfirst
    · exact .alike hitems hname hfirst hexact
  · rintro (⟨hitems, hname, hfirst⟩ | ⟨hitems, hname, hfirst, hexact⟩)
    · exact .inl ⟨hname, _, _, hitems, hfirst⟩
    · exact .inr ⟨hexact, hname, _, _, hitems, hfirst⟩

theorem findNamed_eq_none_iff {items : List α} {wanted : String} :
    findNamed name items wanted = none ↔
      ∀ item ∈ items, Text.lower (name item) ≠ Text.lower wanted := by
  simp only [findNamed, Option.orElse_eq_or, Option.or_eq_none_iff, List.find?_eq_none, beq_iff_eq]
  exact and_iff_right_of_imp fun halike item hitem hname => halike item hitem (hname ▸ rfl)

/-! ## Items listed by name -/

variable {γ : Type} [BEq γ] [LawfulBEq γ] {k : α → γ} {label : β → γ} {g : α → List β}

theorem filter_label_flatMap (hlabel : ∀ item, ∀ b ∈ g item, label b = k item) {items : List α}
    (hnodup : (items.map k).Nodup) {item : α} (h : item ∈ items) :
    (items.flatMap g).filter (fun b => label b == k item) = g item := by
  obtain ⟨before, after, rfl⟩ := List.append_of_mem h
  have hother : ∀ other ∈ before ++ after, k other ≠ k item := by
    rw [List.map_append, List.map_cons, List.nodup_middle, List.nodup_cons] at hnodup
    intro other hother heq
    refine hnodup.1 ?_
    rw [← List.map_append, ← heq]
    exact List.mem_map_of_mem hother
  have hnil : ∀ others : List α, (∀ other ∈ others, other ∈ before ++ after) →
      (others.flatMap g).filter (fun b => label b == k item) = [] := by
    intro others hsub
    rw [List.filter_eq_nil_iff]
    intro b hb
    obtain ⟨other, hmem, hb⟩ := List.mem_flatMap.mp hb
    simpa [hlabel other b hb] using hother other (hsub other hmem)
  have hself : (g item).filter (fun b => label b == k item) = g item := by
    rw [List.filter_eq_self]
    intro b hb
    simp [hlabel item b hb]
  rw [List.flatMap_append, List.flatMap_cons, List.filter_append, List.filter_append,
    hnil before (fun _ h => List.mem_append_left _ h),
    hnil after (fun _ h => List.mem_append_right _ h), hself]
  simp

theorem count_label_flatMap [BEq β] [LawfulBEq β]
    (hlabel : ∀ item, ∀ b ∈ g item, label b = k item) {items : List α}
    (hnodup : (items.map k).Nodup) {item : α} (h : item ∈ items) {b : β}
    (hb : label b = k item) : (items.flatMap g).count b = (g item).count b := by
  rw [← filter_label_flatMap hlabel hnodup h, List.count_filter (by simp [hb])]

end RecordLoom.Entity
