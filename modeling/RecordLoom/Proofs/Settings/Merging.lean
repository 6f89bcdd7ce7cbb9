import RecordLoom.Proofs.Json.Paths
import RecordLoom.Settings.Merge

/-!
# Merging by paths

What merged settings hold at a path of keys, at any depth: the overriding value if there is one, the
earlier value where nothing overrides it, and a merge where both have an object.
-/

namespace RecordLoom.Settings

open RecordLoom.Json

def overridden (earlier : Option Json) (value : Json) : Json :=
  match earlier with
  | some earlier => mergeValue earlier value
  | none => value

theorem mergeMembers_cons (base : List (String × Json)) (key : String) (value : Json)
    (rest : List (String × Json)) :
    mergeMembers base ((key, value) :: rest) =
      mergeMembers (insertMember key (overridden (base.lookup key) value) base) rest := by
  rw [mergeMembers]
  rfl

theorem overridden_of_isObject {value : Json} (h : value.isObject = false)
    (earlier : Option Json) : overridden earlier value = value := by
  cases earlier with
  | none => rfl
  | some earlier =>
      cases value with
      | obj => cases h
      | _ => rfl

theorem overridden_objects (earlier later : List (String × Json)) :
    overridden (some (.obj earlier)) (.obj later) = .obj (mergeMembers earlier later) := by
  rw [overridden, mergeValue]

theorem overridden_obj_of_ne {earlier : Option Json} (h : ∀ members, earlier ≠ some (.obj members))
    (later : List (String × Json)) : overridden earlier (.obj later) = .obj later := by
  cases earlier with
  | none => rfl
  | some earlier =>
      cases earlier with
      | obj members => exact absurd rfl (h members)
      | _ => rw [overridden, mergeValue]; nofun

/-! ## Keys -/

theorem lookup_mergeMembers {base override : List (String × Json)}
    (h : (override.map (·.1)).Nodup) (key : String) :
    (mergeMembers base override).lookup key =
      match override.lookup key with
      | some value => some (overridden (base.lookup key) value)
      | none => base.lookup key := by
  induction override generalizing base with
  | nil => rw [mergeMembers, List.lookup_nil]
  | cons first rest ih =>
      obtain ⟨head, value⟩ := first
      obtain ⟨hhead, hrest⟩ := List.nodup_cons.mp h
      rw [mergeMembers_cons, ih hrest, lookup_cons]
      by_cases hkey : key = head
      · subst hkey
        rw [lookup_eq_none_of_not_mem hhead, if_pos rfl, lookup_insertMember_self]
      · rw [if_neg hkey, lookup_insertMember_of_ne hkey]

/-! ## Paths -/

theorem at?_overridden {value : Json} (h : value.HasDistinctKeys) (earlier : Option Json)
    (path : List String) :
    (overridden earlier value).at? path =
      match value.at? path with
      | some inner => some (overridden (earlier.bind (·.at? path)) inner)
      | none => if value.endsBefore path then none else earlier.bind (·.at? path) := by
  induction path generalizing earlier value with
  | nil => cases earlier <;> rfl
  | cons key path ih =>
      by_cases hvalue : value.isObject = true
      case neg =>
        rw [Bool.not_eq_true] at hvalue
        rw [overridden_of_isObject hvalue, at?_cons_eq_none hvalue, endsBefore, hvalue]
        rfl
      obtain ⟨later, rfl⟩ := exists_members hvalue
      by_cases hearlier : ∃ members, earlier = some (.obj members)
      case neg =>
        -- Nothing is below a value that is no object, so the overriding object stays as it is.
        push Not at hearlier
        have hnone : earlier.bind (·.at? (key :: path)) = none := by
          cases earlier with
          | none => rfl
          | some e =>
              cases e with
              | obj members => exact absurd rfl (hearlier members)
              | _ => rfl
        rw [overridden_obj_of_ne hearlier, hnone]
        cases (Json.obj later).at? (key :: path) with
        | some inner => rfl
        | none => exact (ite_self _).symm
      obtain ⟨members, rfl⟩ := hearlier
      have hbelow : ((some (Json.obj members)).bind (·.at? (key :: path))) =
          (members.lookup key).bind (·.at? path) := rfl
      rw [overridden_objects, hbelow, at?, get?, lookup_mergeMembers h.nodup, at?, get?, endsBefore,
        get?]
      cases hlookup : later.lookup key with
      | none => rfl
      | some inner =>
          have hends : (!(Json.obj later).isObject ||
              (some inner).any fun inner => inner.endsBefore path) = inner.endsBefore path := rfl
          rw [hends]
          exact ih (h.inner hlookup) (members.lookup key)

/-- What a merge holds at each path. -/
structure IsMerge (base override merged : Json) : Prop where
  /-- A value that is no object overrides whatever was there. -/
  replaced : ∀ path value, override.at? path = some value → value.isObject = false →
    merged.at? path = some value
  /-- So does an object, unless an object was there. -/
  placed : ∀ path members, override.at? path = some (.obj members) →
    (∀ earlier, base.at? path ≠ some (.obj earlier)) → merged.at? path = some (.obj members)
  /-- Two objects are merged in turn. -/
  joined : ∀ path earlier later, base.at? path = some (.obj earlier) →
    override.at? path = some (.obj later) →
    merged.at? path = some (.obj (mergeMembers earlier later))
  /-- Where nothing overrides it, neither there nor on the way, an earlier value stays. -/
  kept : ∀ path value, override.at? path = none →
    (∀ before after inner, path = before ++ after → after ≠ [] →
      override.at? before = some inner → inner.isObject = true) →
    base.at? path = some value → merged.at? path = some value
  /-- All that there is comes from one of the two, or is merged from objects of both. -/
  origin : ∀ path value, merged.at? path = some value →
    override.at? path = some value ∨ base.at? path = some value ∨
      ∃ earlier later, base.at? path = some (.obj earlier) ∧
        override.at? path = some (.obj later) ∧ value = .obj (mergeMembers earlier later)

theorem isMerge_mergeMembers {base override : List (String × Json)}
    (h : (Json.obj override).HasDistinctKeys) :
    IsMerge (.obj base) (.obj override) (.obj (mergeMembers base override)) := by
  have hmerged := fun path => at?_overridden h (some (.obj base)) path
  simp only [overridden_objects, Option.bind_some] at hmerged
  constructor
  case replaced =>
    intro path value hpath hvalue
    rw [hmerged, hpath]
    exact congrArg some (overridden_of_isObject hvalue _)
  case placed =>
    intro path members hpath hbase
    rw [hmerged, hpath]
    exact congrArg some (overridden_obj_of_ne hbase members)
  case joined =>
    intro path earlier later hearlier hlater
    rw [hmerged, hlater, hearlier]
    exact congrArg some (overridden_objects earlier later)
  case kept =>
    intro path value hpath hway hbase
    have hopen : (Json.obj override).endsBefore path = false := by
      rw [← Bool.not_eq_true, endsBefore_iff]
      rintro ⟨before, after, inner, hsplit, hafter, hinner, hends⟩
      exact Bool.false_ne_true (hends.symm.trans (hway before after inner hsplit hafter hinner))
    simpa [hmerged, hpath, hopen] using hbase
  case origin =>
    intro path value hpath
    rw [hmerged] at hpath
    cases hlater : (Json.obj override).at? path with
    | none =>
        rw [hlater] at hpath
        simp only at hpath
        split at hpath
        · cases hpath
        · exact .inr (.inl hpath)
    | some inner =>
        rw [hlater] at hpath
        obtain rfl := Option.some.inj hpath
        by_cases hinner : inner.isObject = true
        case neg => exact .inl (by rw [overridden_of_isObject (Bool.not_eq_true _ ▸ hinner)])
        obtain ⟨later, rfl⟩ := exists_members hinner
        by_cases hearlier : ∃ earlier, (Json.obj base).at? path = some (.obj earlier)
        case pos =>
          obtain ⟨earlier, hearlier⟩ := hearlier
          exact .inr (.inr ⟨earlier, later, hearlier, rfl, by rw [hearlier, overridden_objects]⟩)
        case neg =>
          push Not at hearlier
          exact .inl (by rw [overridden_obj_of_ne hearlier])

end RecordLoom.Settings
