import RecordLoom.Catalog.Schema
import Mathlib.Data.List.Induction
import Mathlib.Data.List.Nodup

/-!
# Groups

Grouping keeps the order of the values under each key.  Values that are taken out of their groups
again, one group after another, are therefore in another order, but under each key in the same one.
-/

namespace RecordLoom.Catalog.Groups

variable {α β γ : Type}

def ofList (key : α → String) (value : α → β) (items : List α) : Groups β :=
  items.foldl (fun groups a => groups.add (key a) (value a)) []

def values (groups : Groups β) : List β := groups.flatMap (·.2)

/-! ## Look-up -/

theorem lookup_cons_eq (head : String) (held : List β) (rest : Groups β) (k : String) :
    List.lookup k ((head, held) :: rest) = if k = head then some held else rest.lookup k := by
  rw [List.lookup_cons]
  by_cases hk : k = head
  · simp [hk]
  · rw [beq_false_of_ne hk, if_neg hk]

theorem lookup_add (groups : Groups β) (key : String) (value : β) (k : String) :
    (groups.add key value).lookup k =
      if k = key then some (groups.group key ++ [value]) else groups.lookup k := by
  induction groups with
  | nil =>
      rw [add, lookup_cons_eq]
      rfl
  | cons first rest ih =>
      obtain ⟨head, held⟩ := first
      rw [add]
      by_cases hhead : head = key
      · subst hhead
        rw [if_pos (by simp), lookup_cons_eq, lookup_cons_eq, group, lookup_cons_eq, if_pos rfl,
          Option.getD_some]
        split <;> rfl
      · rw [if_neg (by simpa using hhead), lookup_cons_eq, lookup_cons_eq, ih, group, group,
          lookup_cons_eq, if_neg (Ne.symm hhead)]
        by_cases hk : k = head
        · simp [hk, hhead]
        · simp [hk]

theorem lookup_foldl_add (key : α → String) (value : α → β) (items : List α) (groups : Groups β)
    (k : String) :
    (items.foldl (fun groups a => groups.add (key a) (value a)) groups).lookup k =
      if (items.filter (key · == k)).isEmpty then groups.lookup k
      else some (groups.group k ++ (items.filter (key · == k)).map value) := by
  induction items generalizing groups with
  | nil => rfl
  | cons a rest ih =>
      rw [List.foldl_cons, ih, List.filter_cons]
      by_cases hk : k = key a
      · subst hk
        have hgroup : group (groups.add (key a) (value a)) (key a) =
            group groups (key a) ++ [value a] := by
          rw [group, lookup_add, if_pos rfl, Option.getD_some]
        rw [hgroup, lookup_add, if_pos rfl]
        by_cases hrest : (rest.filter (key · == key a)).isEmpty
        · simp_all
        · simp [hrest]
      · have hne : (key a == k) = false := by simpa using Ne.symm hk
        have hgroup : group (groups.add (key a) (value a)) k = group groups k := by
          rw [group, lookup_add, if_neg hk, group]
        rw [hgroup, lookup_add, if_neg hk, hne, if_neg Bool.false_ne_true]

theorem lookup_ofList (key : α → String) (value : α → β) (items : List α) (k : String) :
    (ofList key value items).lookup k =
      if (items.filter (key · == k)).isEmpty then none
      else some ((items.filter (key · == k)).map value) := by
  rw [ofList, lookup_foldl_add]
  rfl

theorem group_ofList (key : α → String) (value : α → β) (items : List α) (k : String) :
    (ofList key value items).group k = (items.filter (key · == k)).map value := by
  rw [group, lookup_ofList]
  split
  case isTrue hempty => simp [List.isEmpty_iff.mp hempty]
  case isFalse => rfl

/-! ## Values -/

structure Keyed (key : β → String) (groups : Groups β) : Prop where
  nodup : (groups.map (·.1)).Nodup
  key : ∀ g ∈ groups, ∀ value ∈ g.2, key value = g.1

theorem keys_add (groups : Groups β) (key : String) (value : β) :
    (groups.add key value).map (·.1) =
      if key ∈ groups.map (·.1) then groups.map (·.1) else groups.map (·.1) ++ [key] := by
  induction groups with
  | nil => rfl
  | cons first rest ih =>
      obtain ⟨head, held⟩ := first
      rw [add]
      by_cases hhead : head = key
      · simp [hhead]
      · rw [if_neg (by simpa using hhead), List.map_cons, ih]
        by_cases hmem : key ∈ rest.map (·.1)
        · simp [hmem]
        · simp [hmem, Ne.symm hhead]

theorem Keyed.add {key : β → String} {groups : Groups β} (h : Keyed key groups) (value : β) :
    Keyed key (groups.add (key value) value) where
  nodup := by
    rw [keys_add]
    split
    case isTrue => exact h.nodup
    case isFalse hnew => exact h.nodup.append (List.nodup_singleton _) (by simpa using hnew)
  key := by
    have hkeys := h.key
    clear h
    induction groups with
    | nil => simp [Groups.add]
    | cons first rest ih =>
        obtain ⟨head, held⟩ := first
        obtain ⟨hfirst, hrest⟩ := List.forall_mem_cons.mp hkeys
        rw [Groups.add]
        split
        case isTrue hhead =>
          refine List.forall_mem_cons.mpr ⟨?_, hrest⟩
          simpa [or_imp, forall_and, beq_iff_eq.mp hhead] using hfirst
        case isFalse => exact List.forall_mem_cons.mpr ⟨hfirst, ih hrest⟩

theorem keyed_ofList (key : α → String) (items : List α) : Keyed key (ofList key id items) := by
  unfold ofList
  have hempty : Keyed key ([] : Groups α) := ⟨.nil, nofun⟩
  generalize ([] : Groups α) = groups at hempty ⊢
  induction items generalizing groups with
  | nil => exact hempty
  | cons a rest ih => exact ih _ (hempty.add a)

theorem Keyed.filter_values {key : β → String} {groups : Groups β} (h : Keyed key groups)
    (k : String) : groups.values.filter (key · == k) = groups.group k := by
  obtain ⟨hnodup, hkeys⟩ := h
  induction groups with
  | nil => rfl
  | cons first rest ih =>
      obtain ⟨head, held⟩ := first
      obtain ⟨hnew, hnodup⟩ := List.nodup_cons.mp hnodup
      obtain ⟨hfirst, hrest⟩ := List.forall_mem_cons.mp hkeys
      have hvalues : values ((head, held) :: rest) = held ++ values rest := rfl
      rw [hvalues, List.filter_append, ih hnodup hrest, group, group, lookup_cons_eq]
      by_cases hk : k = head
      · subst hk
        have hnone : rest.lookup k = none := by
          rw [List.lookup_eq_none_iff]
          intro g hg
          rw [bne_iff_ne]
          rintro rfl
          exact hnew (List.mem_map.mpr ⟨g, hg, rfl⟩)
        have hall : held.filter (key · == k) = held :=
          List.filter_eq_self.mpr fun value hvalue => by simp [hfirst value hvalue]
        simp [hall, hnone]
      · have hnone : held.filter (key · == k) = [] :=
          List.filter_eq_nil_iff.mpr fun value hvalue => by
            simpa [hfirst value hvalue] using Ne.symm hk
        simp [hnone, hk]

theorem filter_values_ofList (key : α → String) (items : List α) (k : String) :
    (ofList key id items).values.filter (key · == k) = items.filter (key · == k) := by
  rw [(keyed_ofList key items).filter_values, group_ofList, List.map_id]

theorem ofList_append_singleton (key : α → String) (value : α → β) (items : List α) (a : α) :
    ofList key value (items ++ [a]) = (ofList key value items).add (key a) (value a) := by
  simp [ofList]

theorem keys_ofList (key : α → String) (value : α → β) (items : List α) :
    (ofList key value items).map (·.1) = (items.map key).eraseDups := by
  induction items using List.reverseRecOn with
  | nil => rfl
  | append_singleton items a ih =>
      rw [ofList_append_singleton, keys_add, ih, List.map_append, List.map_singleton,
        List.eraseDups_append]
      by_cases hmem : key a ∈ items.map key
      · have hnone : [key a].removeAll (items.map key) = [] := by
          simpa [List.removeAll] using hmem
        rw [if_pos (List.mem_eraseDups.mpr hmem), hnone, List.eraseDups_nil, List.append_nil]
      · have hone : [key a].removeAll (items.map key) = [key a] := by
          simpa [List.removeAll] using hmem
        rw [if_neg fun h => hmem (List.mem_eraseDups.mp h), hone]
        rfl

theorem group_of_mem {groups : Groups β} (h : (groups.map (·.1)).Nodup) {g : String × List β}
    (hg : g ∈ groups) : groups.group g.1 = g.2 := by
  induction groups with
  | nil => cases hg
  | cons first rest ih =>
      obtain ⟨hnew, hnodup⟩ := List.nodup_cons.mp h
      rw [group, lookup_cons_eq]
      rcases List.mem_cons.mp hg with rfl | hg
      · rw [if_pos rfl, Option.getD_some]
      · have hne : g.1 ≠ first.1 := fun heq => hnew (List.mem_map.mpr ⟨g, hg, heq⟩)
        rw [if_neg hne]
        exact ih hnodup hg

theorem values_ofList (key : α → String) (items : List α) :
    (ofList key id items).values =
      (items.map key).eraseDups.flatMap fun k => items.filter (key · == k) := by
  rw [← keys_ofList key id, values, List.flatMap_map]
  refine List.flatMap_congr fun g hg => ?_
  rw [← group_of_mem (keyed_ofList key items).nodup hg, group_ofList, List.map_id]

theorem values_add_perm (groups : Groups β) (key : String) (value : β) :
    (groups.add key value).values.Perm (groups.values ++ [value]) := by
  induction groups with
  | nil => exact .refl _
  | cons first rest ih =>
      obtain ⟨head, held⟩ := first
      have hvalues : ∀ held : List β, values ((head, held) :: rest) = held ++ values rest :=
        fun _ => rfl
      rw [add]
      split
      · rw [hvalues, hvalues, List.append_assoc, List.append_assoc]
        exact List.perm_append_comm.append_left held
      · rw [hvalues, List.append_assoc]
        exact ih.append_left held

theorem values_ofList_perm (key : α → String) (items : List α) :
    (ofList key id items).values.Perm items := by
  induction items using List.reverseRecOn with
  | nil => exact .refl _
  | append_singleton items a ih =>
      rw [ofList_append_singleton]
      exact (values_add_perm _ _ _).trans (ih.append_right [a])

/-! ## Images -/

theorem map_add (f : β → γ) (groups : Groups β) (key : String) (value : β) :
    (groups.add key value).map (fun g => (g.1, g.2.map f)) =
      Groups.add (groups.map fun g => (g.1, g.2.map f)) key (f value) := by
  induction groups with
  | nil => rfl
  | cons first rest ih =>
      obtain ⟨head, held⟩ := first
      rw [add, List.map_cons, add]
      split
      · simp
      · rw [List.map_cons, ih]

theorem map_ofList (f : β → γ) (key : α → String) (value : α → β) (items : List α) :
    (ofList key value items).map (fun g => (g.1, g.2.map f)) =
      ofList key (fun a => f (value a)) items := by
  unfold ofList
  have hempty : ([] : Groups β).map (fun g => (g.1, g.2.map f)) = [] := rfl
  rw [← hempty]
  generalize ([] : Groups β) = groups
  induction items generalizing groups with
  | nil => rfl
  | cons a rest ih => rw [List.foldl_cons, List.foldl_cons, ih, map_add]

theorem ofList_map (f : γ → α) (key : α → String) (value : α → β) (items : List γ) :
    ofList key value (items.map f) = ofList (fun a => key (f a)) (fun a => value (f a)) items :=
  List.foldl_map

theorem lookup_map (f : β → γ) (groups : Groups β) (k : String) :
    (groups.map fun g => (g.1, g.2.map f)).lookup k = (groups.lookup k).map (List.map f) := by
  induction groups with
  | nil => rfl
  | cons first rest ih =>
      obtain ⟨head, held⟩ := first
      rw [List.map_cons, lookup_cons_eq, lookup_cons_eq, ih]
      split <;> rfl

end RecordLoom.Catalog.Groups
