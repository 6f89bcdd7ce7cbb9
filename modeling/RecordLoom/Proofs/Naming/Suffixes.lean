import RecordLoom.Naming.Relationships

/-!
# Suffixes of relationship names

A relationship to one record is called after its property, short of a suffix such as `Id`.  A suffix
is taken off only if something is left of the name, and `Shortens` says what: the suffixes are tried
in their order, and the first that fits decides.  The one exception is the empty suffix.  It ends
every name, and where its turn comes it takes off the whole name in place of nothing.
-/

namespace RecordLoom.Naming

open RecordLoom.Casing
open RecordLoom.Entity
open RecordLoom.Text

/-- Whether a suffix ends a name and is not all of it. -/
def IsProperEnd (suffix name : String) : Prop := ∃ stem, stem ≠ "" ∧ name = stem ++ suffix

theorem isProperEnd_iff {suffix name : String} :
    IsProperEnd suffix name ↔ (endsWith name suffix && name != suffix) = true := by
  rw [Bool.and_eq_true, bne_iff_ne]
  constructor
  · rintro ⟨stem, hstem, rfl⟩
    refine ⟨List.isSuffixOf_iff_suffix.mpr ⟨stem.toList, String.toList_append.symm⟩, ?_⟩
    exact fun hsame => hstem (by simpa using hsame)
  · rintro ⟨hends, hne⟩
    obtain ⟨stem, hstem⟩ := List.isSuffixOf_iff_suffix.mp hends
    have hname : name = .ofList stem ++ suffix :=
      String.toList_injective (by rw [String.toList_append, String.toList_ofList, hstem])
    refine ⟨.ofList stem, fun hempty => hne ?_, hname⟩
    rw [hname, hempty, String.empty_append]

/-- What is left of a name without the first suffix that is a proper end of it. -/
inductive Shortens (suffixes : List String) : String → String → Prop where
  | whole {name : String} :
      (∀ s ∈ suffixes, ¬IsProperEnd s name) → Shortens suffixes name name
  | short {before after : List String} {suffix stem : String} :
      suffixes = before ++ suffix :: after → stem ≠ "" →
      (∀ s ∈ before, ¬IsProperEnd s (stem ++ suffix)) → Shortens suffixes (stem ++ suffix) stem

theorem Shortens.ne_empty {suffixes : List String} {name short : String}
    (h : Shortens suffixes name short) (hname : name ≠ "") : short ≠ "" := by
  cases h with
  | whole _ => exact hname
  | short _ hstem _ => exact hstem

/-- Whether the empty suffix comes before every other that is a proper end of a name. -/
def Erases (suffixes : List String) (name : String) : Prop :=
  ∃ before after, suffixes = before ++ "" :: after ∧ ∀ s ∈ before, ¬IsProperEnd s name

theorem not_erases {suffixes : List String} (h : "" ∉ suffixes) (name : String) :
    ¬Erases suffixes name := by
  rintro ⟨before, after, rfl, -⟩
  exact h (List.mem_append_right _ List.mem_cons_self)

theorem stripSuffix_append (stem : String) {suffix : String} (h : suffix ≠ "") :
    stripSuffix (stem ++ suffix) suffix = stem := by
  have hlength : (stem ++ suffix).length - suffix.length = stem.toList.length := by
    rw [String.length_append, Nat.add_sub_cancel, String.length_toList]
  have hempty : suffix.isEmpty = false := by simpa using h
  apply String.toList_injective
  rw [stripSuffix, hempty, if_neg Bool.false_ne_true, dropLast, hlength, String.toList_append,
    List.take_left, String.toList_ofList]

/-! ## The first suffix that fits -/

def firstProperEnd? (suffixes : List String) (name : String) : Option String :=
  suffixes.find? fun s => endsWith name s && name != s

theorem firstProperEnd?_eq_none_iff {suffixes : List String} {name : String} :
    firstProperEnd? suffixes name = none ↔ ∀ s ∈ suffixes, ¬IsProperEnd s name := by
  simp only [firstProperEnd?, List.find?_eq_none, isProperEnd_iff]

theorem firstProperEnd?_eq_some_iff {suffixes : List String} {name suffix : String} :
    firstProperEnd? suffixes name = some suffix ↔
      IsProperEnd suffix name ∧ ∃ before after, suffixes = before ++ suffix :: after ∧
        ∀ s ∈ before, ¬IsProperEnd s name := by
  simp only [firstProperEnd?, List.find?_eq_some_iff_append, isProperEnd_iff, Bool.not_eq_true,
    Bool.not_eq_true']

/-! ## Names of relationships to one record -/

section

variable {o : Options} {p : Property}

theorem relationshipName_eq (o : Options) (p : Property) : o.relationshipName p =
    match firstProperEnd? o.relationshipSuffixes (upperFirst p.name) with
    | some suffix => stripSuffix (upperFirst p.name) suffix
    | none => upperFirst p.name := rfl

theorem relationshipName_of_erases (hp : upperFirst p.name ≠ "")
    (h : Erases o.relationshipSuffixes (upperFirst p.name)) : o.relationshipName p = "" := by
  have hends : IsProperEnd "" (upperFirst p.name) := ⟨_, hp, String.append_empty.symm⟩
  rw [relationshipName_eq, firstProperEnd?_eq_some_iff.mpr ⟨hends, h⟩]
  rfl

theorem shortens_relationshipName (h : ¬Erases o.relationshipSuffixes (upperFirst p.name)) :
    Shortens o.relationshipSuffixes (upperFirst p.name) (o.relationshipName p) := by
  rw [relationshipName_eq]
  cases hfirst : firstProperEnd? o.relationshipSuffixes (upperFirst p.name) with
  | none => exact .whole (firstProperEnd?_eq_none_iff.mp hfirst)
  | some suffix =>
      obtain ⟨⟨stem, hstem, hname⟩, before, after, hsplit, hbefore⟩ :=
        firstProperEnd?_eq_some_iff.mp hfirst
      have hsuffix : suffix ≠ "" := by
        rintro rfl
        exact h ⟨before, after, hsplit, hbefore⟩
      rw [hname] at hbefore ⊢
      dsimp only
      rw [stripSuffix_append stem hsuffix]
      exact .short hsplit hstem hbefore

theorem relationshipName_eq_empty_iff (hp : upperFirst p.name ≠ "") :
    o.relationshipName p = "" ↔ Erases o.relationshipSuffixes (upperFirst p.name) := by
  refine ⟨fun hempty => ?_, relationshipName_of_erases hp⟩
  by_cases h : Erases o.relationshipSuffixes (upperFirst p.name)
  case pos => exact h
  case neg => exact absurd hempty ((shortens_relationshipName h).ne_empty hp)

end

end RecordLoom.Naming
