import RecordLoom.Json.Reader
import RecordLoom.Proofs.Json.Members

/-!
# Paths into documents

A path of keys leads from object to object to a value inside a document.  Documents that are read
from a text have no key twice in any object on a path.
-/

namespace RecordLoom.Json

def isObject : Json → Bool
  | obj _ => true
  | _ => false

/-- The value that a path of keys leads to. -/
def at? (value : Json) : List String → Option Json
  | [] => some value
  | key :: path => (value.get? key).bind fun inner => inner.at? path

def endsBefore (value : Json) : List String → Bool
  | [] => false
  | key :: path => !value.isObject || (value.get? key).any fun inner => inner.endsBefore path

/-- No object on a path has a key twice. -/
def HasDistinctKeys (value : Json) : Prop :=
  ∀ path members, value.at? path = some (.obj members) → (members.map (·.1)).Nodup

theorem get?_eq_none {value : Json} (h : value.isObject = false) (key : String) :
    value.get? key = none := by
  cases value with
  | obj => cases h
  | _ => rfl

theorem at?_cons_eq_none {value : Json} (h : value.isObject = false) (key : String)
    (path : List String) : value.at? (key :: path) = none := by
  rw [at?, get?_eq_none h, Option.bind_none]

theorem exists_members {value : Json} (h : value.isObject = true) :
    ∃ members, value = .obj members := by
  cases value with
  | obj members => exact ⟨members, rfl⟩
  | _ => cases h

theorem endsBefore_iff {value : Json} {path : List String} :
    value.endsBefore path = true ↔ ∃ before after inner, path = before ++ after ∧ after ≠ [] ∧
      value.at? before = some inner ∧ inner.isObject = false := by
  induction path generalizing value with
  | nil =>
      refine iff_of_false Bool.false_ne_true ?_
      rintro ⟨before, after, -, hpath, hafter, -⟩
      exact hafter (List.append_eq_nil_iff.mp hpath.symm).2
  | cons key path ih =>
      simp only [endsBefore, Bool.or_eq_true, Bool.not_eq_true', Option.any_eq_true, ih]
      constructor
      · rintro (hvalue | ⟨inner, hget, before, after, found, rfl, hafter, hfound, hends⟩)
        · exact ⟨[], key :: path, value, rfl, List.cons_ne_nil _ _, rfl, hvalue⟩
        · refine ⟨key :: before, after, found, rfl, hafter, ?_, hends⟩
          rw [at?, hget, Option.bind_some, hfound]
      · rintro ⟨before, after, found, hpath, hafter, hfound, hends⟩
        cases before with
        | nil =>
            cases hfound
            exact .inl hends
        | cons first before =>
            obtain ⟨rfl, rfl⟩ := List.cons.inj hpath
            obtain ⟨inner, hget, hfound⟩ := Option.bind_eq_some_iff.mp hfound
            exact .inr ⟨inner, hget, before, after, found, rfl, hafter, hfound, hends⟩

/-! ## Distinct keys -/

theorem HasDistinctKeys.nodup {members : List (String × Json)}
    (h : (Json.obj members).HasDistinctKeys) : (members.map (·.1)).Nodup :=
  h [] members rfl

theorem HasDistinctKeys.inner {value inner : Json} {key : String} (h : value.HasDistinctKeys)
    (hget : value.get? key = some inner) : inner.HasDistinctKeys := by
  intro path members hpath
  refine h (key :: path) members ?_
  rw [at?, hget, Option.bind_some, hpath]

theorem hasDistinctKeys_of_isObject {value : Json} (h : value.isObject = false) :
    value.HasDistinctKeys := by
  intro path members hpath
  cases path with
  | nil =>
      cases hpath
      cases h
  | cons key path =>
      rw [at?_cons_eq_none h] at hpath
      cases hpath

theorem hasDistinctKeys_obj {members : List (String × Json)} (hkeys : (members.map (·.1)).Nodup)
    (hvalues : ∀ m ∈ members, m.2.HasDistinctKeys) : (Json.obj members).HasDistinctKeys := by
  intro path found hpath
  cases path with
  | nil =>
      cases hpath
      exact hkeys
  | cons key path =>
      obtain ⟨inner, hget, hinner⟩ := Option.bind_eq_some_iff.mp hpath
      obtain ⟨before, after, rfl, -⟩ := List.lookup_eq_some_iff.mp hget
      exact hvalues (key, inner) (by simp) path found hinner

/-! ## Documents that are read -/

theorem words_isObject : ∀ entry ∈ words, entry.2.isObject = false := by decide

theorem isObject_of_readNumber? {negative : Bool} {cs rest : List Char} {value : Json}
    (h : readNumber? negative cs = some (value, rest)) : value.isObject = false := by
  simp only [readNumber?, Option.bind_eq_bind, Option.bind_eq_some_iff] at h
  obtain ⟨_, -, h⟩ := h
  split at h
  · split at h
    · cases h
    · cases h
      rfl
  · cases h
    rfl

theorem isObject_of_readWord? {cs rest : List Char} {value : Json}
    (h : readWord? cs = some (value, rest)) : value.isObject = false := by
  obtain ⟨entry, hfound, hvalue⟩ := Option.map_eq_some_iff.mp h
  cases hvalue
  exact words_isObject _ (List.mem_of_find?_eq_some hfound)

theorem read_hasDistinctKeys (fuel : Nat) :
    (∀ cs value rest, readValue? fuel cs = some (value, rest) → value.HasDistinctKeys) ∧
      ∀ cs members rest, readMembers? fuel cs = some (members, rest) →
        ∀ m ∈ members, m.2.HasDistinctKeys := by
  induction fuel with
  | zero =>
      constructor
      · intro cs value rest h
        cases h
      · intro cs members rest h
        cases h
  | succ fuel ih =>
      obtain ⟨ihValue, ihMembers⟩ := ih
      constructor
      · intro cs value rest h
        rw [readValue?] at h
        split at h
        case h_1 =>
          obtain ⟨read, -, hvalue⟩ := Option.map_eq_some_iff.mp h
          cases hvalue
          exact hasDistinctKeys_of_isObject rfl
        case h_2 =>
          split at h
          · cases h
            exact hasDistinctKeys_of_isObject rfl
          · obtain ⟨read, -, hvalue⟩ := Option.map_eq_some_iff.mp h
            cases hvalue
            exact hasDistinctKeys_of_isObject rfl
        case h_3 =>
          split at h
          · cases h
            exact hasDistinctKeys_obj List.nodup_nil (List.forall_mem_nil _)
          · obtain ⟨⟨members, after⟩, hread, hvalue⟩ := Option.map_eq_some_iff.mp h
            cases hvalue
            exact hasDistinctKeys_obj (nodup_ofMembers members)
              fun m hm => ihMembers _ _ _ hread m (mem_ofMembers hm)
        case h_4 =>
          split at h
          case h_1 hword =>
            cases h
            exact hasDistinctKeys_of_isObject (isObject_of_readWord? hword)
          case h_2 =>
            split at h <;>
              exact hasDistinctKeys_of_isObject (isObject_of_readNumber? h)
      · intro cs members rest h
        rw [readMembers?] at h
        split at h
        case h_1 =>
          obtain ⟨⟨key, afterKey⟩, -, h⟩ := Option.bind_eq_some_iff.mp h
          simp only at h
          split at h
          case h_1 =>
            obtain ⟨⟨value, after⟩, hvalue, h⟩ := Option.bind_eq_some_iff.mp h
            have hdistinct := ihValue _ _ _ hvalue
            simp only at h
            split at h
            · obtain ⟨⟨others, tail⟩, hothers, h⟩ := Option.bind_eq_some_iff.mp h
              cases h
              exact List.forall_mem_cons.mpr ⟨hdistinct, ihMembers _ _ _ hothers⟩
            · cases h
              exact List.forall_mem_singleton.mpr hdistinct
            · cases h
          case h_2 => cases h
        case h_2 => cases h

/-- Every document that is read from a text has distinct keys. -/
theorem hasDistinctKeys_of_parse? {text : String} {value : Json} (h : parse? text = some value) :
    value.HasDistinctKeys := by
  rw [parse?] at h
  split at h
  case h_1 hread =>
    split at h
    case isTrue =>
      cases h
      exact (read_hasDistinctKeys _).1 _ _ _ hread
    case isFalse => cases h
  case h_2 => cases h

end RecordLoom.Json
