import RecordLoom.Json.Basic
import Mathlib.Data.List.Induction
import Mathlib.Data.List.Nodup

/-!
# Members of objects

Setting a key changes the value of this key only, and a list of members gives each key its last
value.  No member comes from elsewhere, and keys that are set this way never repeat.
-/

namespace RecordLoom.Json

variable {α : Type}

/-! ## Values of keys -/

theorem lookup_cons (head : String) (held : α) (rest : List (String × α)) (key : String) :
    List.lookup key ((head, held) :: rest) = if key = head then some held else rest.lookup key := by
  rw [List.lookup_cons]
  by_cases h : key = head
  · simp [h]
  · rw [beq_false_of_ne h, if_neg h]

theorem lookup_eq_none_of_not_mem {key : String} {members : List (String × α)}
    (h : key ∉ members.map (·.1)) : members.lookup key = none := by
  rw [List.lookup_eq_none_iff]
  intro m hm
  rw [bne_iff_ne]
  rintro rfl
  exact h (List.mem_map_of_mem hm)

theorem lookup_reverse_of_nodup {members : List (String × α)} (h : (members.map (·.1)).Nodup)
    (key : String) : members.reverse.lookup key = members.lookup key := by
  induction members with
  | nil => rfl
  | cons first rest ih =>
      obtain ⟨head, held⟩ := first
      obtain ⟨hhead, hrest⟩ := List.nodup_cons.mp h
      rw [List.reverse_cons, List.lookup_append, ih hrest, lookup_cons, lookup_cons]
      by_cases hkey : key = head
      · subst hkey
        rw [lookup_eq_none_of_not_mem hhead, if_pos rfl, if_pos rfl]
        rfl
      · rw [if_neg hkey, if_neg hkey, List.lookup_nil, Option.or_none]

theorem lookup_append_missing (members : List (String × α)) (added : String × α) (key : String) :
    (if members.any (·.1 == added.1) then members else members ++ [added]).lookup key =
      (members.lookup key).or (if key = added.1 then some added.2 else none) := by
  split
  case isTrue hany =>
    split
    case isTrue hkey =>
      subst hkey
      cases hlookup : members.lookup added.1 with
      | some held => rfl
      | none =>
          obtain ⟨first, hfirst, hsame⟩ := List.any_eq_true.mp hany
          have hne := List.lookup_eq_none_iff.mp hlookup first hfirst
          exact absurd (eq_of_beq hsame).symm (bne_iff_ne.mp hne)
    case isFalse => rw [Option.or_none]
  case isFalse => rw [List.lookup_append, lookup_cons, List.lookup_nil]

theorem lookup_insertMember (key : String) (value : α) (members : List (String × α))
    (other : String) :
    (insertMember key value members).lookup other =
      if other = key then some value else members.lookup other := by
  induction members with
  | nil => exact lookup_cons key value [] other
  | cons first rest ih =>
      obtain ⟨head, held⟩ := first
      rw [insertMember]
      by_cases hhead : head = key
      · subst hhead
        rw [if_pos (beq_self_eq_true head), lookup_cons, lookup_cons]
        split <;> rfl
      · rw [if_neg (by simpa using hhead), lookup_cons, lookup_cons, ih]
        by_cases h : other = head
        · rw [if_pos h, if_neg (h ▸ hhead), if_pos h]
        · rw [if_neg h, if_neg h]

theorem lookup_insertMember_self (key : String) (value : α) (members : List (String × α)) :
    (insertMember key value members).lookup key = some value := by
  rw [lookup_insertMember, if_pos rfl]

theorem lookup_insertMember_of_ne {key other : String} (h : other ≠ key) (value : α)
    (members : List (String × α)) :
    (insertMember key value members).lookup other = members.lookup other := by
  rw [lookup_insertMember, if_neg h]

theorem ofMembers_append_singleton (members : List (String × α)) (key : String) (value : α) :
    ofMembers (members ++ [(key, value)]) = insertMember key value (ofMembers members) := by
  rw [ofMembers, List.foldl_append, List.foldl_cons, List.foldl_nil, ofMembers]

theorem lookup_ofMembers (members : List (String × α)) (key : String) :
    (ofMembers members).lookup key = members.reverse.lookup key := by
  induction members using List.reverseRecOn with
  | nil => rfl
  | append_singleton members last ih =>
      obtain ⟨other, value⟩ := last
      rw [ofMembers_append_singleton, lookup_insertMember, ih, List.reverse_concat, lookup_cons]

/-! ## Members -/

theorem mem_insertMember {key : String} {value : α} {members : List (String × α)}
    {m : String × α} (h : m ∈ insertMember key value members) :
    m = (key, value) ∨ m ∈ members := by
  induction members with
  | nil => exact .inl (List.mem_singleton.mp h)
  | cons first rest ih =>
      rw [insertMember] at h
      split at h
      case isTrue hsame =>
        rcases List.mem_cons.mp h with rfl | h
        · exact .inl (by rw [eq_of_beq hsame])
        · exact .inr (List.mem_cons_of_mem _ h)
      case isFalse =>
        rcases List.mem_cons.mp h with rfl | h
        · exact .inr List.mem_cons_self
        · exact (ih h).imp_right (List.mem_cons_of_mem _)

theorem mem_ofMembers {members : List (String × α)} {m : String × α}
    (h : m ∈ ofMembers members) : m ∈ members := by
  induction members using List.reverseRecOn with
  | nil => exact h
  | append_singleton members last ih =>
      rw [ofMembers_append_singleton] at h
      rcases mem_insertMember h with rfl | h
      · exact List.mem_append_right _ List.mem_cons_self
      · exact List.mem_append_left _ (ih h)

/-! ## Keys -/

theorem mem_keys_insertMember {key : String} {value : α} {members : List (String × α)}
    {other : String} : other ∈ (insertMember key value members).map (·.1) ↔
      other = key ∨ other ∈ members.map (·.1) := by
  induction members with
  | nil => simp [insertMember]
  | cons first rest ih =>
      rw [insertMember]
      split
      case isTrue hsame => simp [eq_of_beq hsame]
      case isFalse => simp only [List.map_cons, List.mem_cons, ih, or_left_comm]

theorem nodup_insertMember {key : String} {value : α} {members : List (String × α)}
    (h : (members.map (·.1)).Nodup) : ((insertMember key value members).map (·.1)).Nodup := by
  induction members with
  | nil => simp [insertMember]
  | cons first rest ih =>
      obtain ⟨hfirst, hrest⟩ := List.nodup_cons.mp h
      rw [insertMember]
      split
      case isTrue => exact h
      case isFalse hne =>
        refine List.nodup_cons.mpr ⟨?_, ih hrest⟩
        rw [mem_keys_insertMember]
        rintro (hsame | hmem)
        · exact hne (beq_iff_eq.mpr hsame)
        · exact hfirst hmem

theorem nodup_ofMembers (members : List (String × α)) :
    ((ofMembers members).map (·.1)).Nodup := by
  induction members using List.reverseRecOn with
  | nil => exact List.nodup_nil
  | append_singleton members last ih =>
      rw [ofMembers_append_singleton]
      exact nodup_insertMember ih

end RecordLoom.Json
