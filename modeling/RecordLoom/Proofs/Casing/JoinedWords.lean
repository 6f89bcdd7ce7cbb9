import RecordLoom.Casing
import RecordLoom.Proofs.Text.CaseImages
import Mathlib.Data.List.Basic
import Mathlib.Data.List.Forall2
import Mathlib.Data.List.TakeWhile

/-!
# Joined words

Camel case keeps the leading underscores of a text.  Of what stands behind them it keeps the
characters that are no separators, in their order, each as it is but for the small letters of ASCII
that start a word.
-/

namespace RecordLoom.Casing

open RecordLoom.Text

/-! ## The characters of the words -/

/-- The characters that are no separators, each with whether it starts a word: one behind a
separator does, and the first one of the text if `first`.  -/
def wordChars (first : Bool) (cs : List Char) : List (Bool × Char) :=
  ((first :: cs.map isSeparator).zip cs).filter fun entry => !isSeparator entry.2

def joinedChar : Bool × Char → Char
  | (starts, c) => if starts then c.toUpper else c

theorem wordChars_cons (first : Bool) (c : Char) (rest : List Char) :
    wordChars first (c :: rest) =
      if isSeparator c then wordChars true rest else (first, c) :: wordChars false rest := by
  cases hc : isSeparator c <;> simp [wordChars, hc]

theorem map_snd_wordChars (first : Bool) (cs : List Char) :
    (wordChars first cs).map (·.2) = cs.filter (!isSeparator ·) := by
  induction cs generalizing first with
  | nil => rfl
  | cons c rest ih => cases hc : isSeparator c <;> simp [wordChars_cons, hc, ih]

theorem toUpper_of_not_isLower {c : Char} (h : ¬c.isLower = true) : c.toUpper = c := by
  by_cases hascii : c.toNat < 128
  case pos =>
    exact of_ascii (P := fun c => ¬c.isLower = true → c.toUpper = c) (by decide) hascii h
  case neg => exact toUpper_of_not_ascii hascii

theorem not_isLower_toUpper (c : Char) : ¬c.toUpper.isLower = true := by
  by_cases hascii : c.toNat < 128
  case pos => exact of_ascii (P := fun c => ¬c.toUpper.isLower = true) (by decide) hascii
  case neg =>
    rw [toUpper_of_not_ascii hascii]
    exact fun hsmall => hascii (lt_of_isLower hsmall)

theorem joinWords_eq_map (first : Bool) (cs : List Char) :
    joinWords first cs = (wordChars first cs).map joinedChar := by
  induction cs generalizing first with
  | nil => rfl
  | cons c rest ih =>
      rw [joinWords, wordChars_cons]
      split
      case isTrue => exact ih true
      case isFalse =>
        rw [List.map_cons, ← ih]
        split
        case isTrue hraised =>
          rw [Bool.and_eq_true, Bool.and_eq_true] at hraised
          rw [joinedChar, if_pos hraised.1.1]
        case isFalse hkept =>
          have hc : joinedChar (first, c) = c := by
            rw [joinedChar]
            split
            case isTrue hfirst =>
              refine toUpper_of_not_isLower fun hsmall => hkept ?_
              obtain ⟨hlow, hhigh⟩ := Bool.and_eq_true_iff.mp hsmall
              rw [hfirst, Bool.true_and, Bool.and_eq_true]
              exact ⟨hlow, hhigh⟩
            case isFalse => rfl
          rw [hc]

theorem joinWords_cons {c : Char} (hc : isSeparator c = false) (first : Bool) (rest : List Char) :
    joinWords first (c :: rest) = joinedChar (first, c) :: joinWords false rest := by
  rw [joinWords_eq_map, joinWords_eq_map, wordChars_cons, hc, if_neg (by decide), List.map_cons]

/-- The character itself, or the capital of a small letter of ASCII. -/
def Respells (c d : Char) : Prop := d = c ∨ c.isLower = true ∧ d = c.toUpper

theorem respells_joinedChar (entry : Bool × Char) : Respells entry.2 (joinedChar entry) := by
  obtain ⟨starts, c⟩ := entry
  rw [joinedChar]
  split
  case isTrue =>
    by_cases hsmall : c.isLower = true
    case pos => exact .inr ⟨hsmall, rfl⟩
    case neg => exact .inl (toUpper_of_not_isLower hsmall)
  case isFalse => exact .inl rfl

theorem forall₂_joinWords (first : Bool) (cs : List Char) :
    List.Forall₂ Respells (cs.filter (!isSeparator ·)) (joinWords first cs) := by
  rw [joinWords_eq_map, ← map_snd_wordChars first, List.forall₂_map_left_iff,
    List.forall₂_map_right_iff]
  exact List.forall₂_same.mpr fun entry _ => respells_joinedChar entry

theorem mem_joinWords {capitalize : Bool} {cs : List Char} {d : Char}
    (h : d ∈ joinWords capitalize cs) : ∃ c ∈ cs, isSeparator c = false ∧ Respells c d := by
  rw [joinWords_eq_map] at h
  obtain ⟨entry, hentry, rfl⟩ := List.mem_map.mp h
  have hmem : entry.2 ∈ cs.filter (!isSeparator ·) :=
    map_snd_wordChars capitalize cs ▸ List.mem_map_of_mem hentry
  obtain ⟨hcs, hc⟩ := List.mem_filter.mp hmem
  exact ⟨entry.2, hcs, by simpa using hc, respells_joinedChar entry⟩

theorem isSeparator_of_mem_joinWords {capitalize : Bool} {cs : List Char} {d : Char}
    (h : d ∈ joinWords capitalize cs) : isSeparator d = false := by
  obtain ⟨c, -, hc, rfl | ⟨hsmall, rfl⟩⟩ := mem_joinWords h
  · exact hc
  · exact of_ascii (P := fun c => isSeparator c = false → isSeparator c.toUpper = false)
      (by decide) (lt_of_isLower hsmall) hc

/-! ## Texts without separators in their words -/

def Joined (cs : List Char) : Prop :=
  ∃ marks words, cs = marks ++ words ∧ (∀ c ∈ marks, c = '_') ∧ ∀ c ∈ words, isSeparator c = false

theorem joinWords_append {cs : List Char} (h : ∀ c ∈ cs, isSeparator c = false)
    (rest : List Char) : joinWords false (cs ++ rest) = cs ++ joinWords false rest := by
  induction cs with
  | nil => rfl
  | cons c cs ih =>
      obtain ⟨hc, hcs⟩ := List.forall_mem_cons.mp h
      rw [List.cons_append, joinWords_cons hc, ih hcs]
      rfl

theorem joinWords_eq_self {cs : List Char} (h : ∀ c ∈ cs, isSeparator c = false) :
    joinWords false cs = cs := by
  simpa [joinWords] using joinWords_append h []

theorem joined_camelChars (capitalize : Bool) (cs : List Char) :
    Joined (camelChars capitalize cs) :=
  ⟨_, _, rfl, fun _ hc => by simpa using List.mem_takeWhile_imp hc,
    fun _ => isSeparator_of_mem_joinWords⟩

theorem ne_mark_of_not_separator {c : Char} (h : isSeparator c = false) : c ≠ '_' := by
  rintro rfl
  exact absurd h (by decide)

theorem camelChars_append {marks words : List Char} (hmarks : ∀ c ∈ marks, c = '_')
    (hwords : ∀ c ∈ words.head?, c ≠ '_') (capitalize : Bool) :
    camelChars capitalize (marks ++ words) = marks ++ joinWords capitalize words := by
  have hmarks : ∀ c ∈ marks, decide (c = '_') = true := by simpa using hmarks
  have hsplit : words.takeWhile (· = '_') = [] ∧ words.dropWhile (· = '_') = words := by
    cases words with
    | nil => exact ⟨rfl, rfl⟩
    | cons c rest => simp [hwords c rfl]
  rw [camelChars, List.takeWhile_append_of_pos hmarks, List.dropWhile_append_of_pos hmarks,
    hsplit.1, hsplit.2, List.append_nil]

theorem camelChars_cons {c : Char} (hc : isSeparator c = false) (capitalize : Bool)
    (rest : List Char) :
    camelChars capitalize (c :: rest) = joinedChar (capitalize, c) :: joinWords false rest := by
  have hhead : ∀ d ∈ (c :: rest).head?, d ≠ '_' := by
    rintro d ⟨⟩
    exact ne_mark_of_not_separator hc
  rw [← joinWords_cons hc]
  exact camelChars_append (List.forall_mem_nil _) hhead capitalize

theorem camelChars_of_joined {cs : List Char} (h : Joined cs) : camelChars false cs = cs := by
  obtain ⟨marks, words, rfl, hmarks, hwords⟩ := h
  have hhead : ∀ c ∈ words.head?, c ≠ '_' :=
    fun c hc => ne_mark_of_not_separator (hwords c (List.mem_of_mem_head? hc))
  rw [camelChars_append hmarks hhead, joinWords_eq_self hwords]

theorem head?_camelChars {cs : List Char} (h : ' ' ∉ cs.head?) :
    (camelChars false cs).head? = cs.head? := by
  cases cs with
  | nil => rfl
  | cons c rest =>
      by_cases hmark : c = '_'
      case pos => simp [camelChars, hmark]
      case neg =>
        have hseparator : isSeparator c = false := by
          simp_all [isSeparator]
        rw [camelChars_cons hseparator]
        rfl

theorem Joined.take {cs : List Char} (h : Joined cs) (count : Nat) : Joined (cs.take count) := by
  obtain ⟨marks, words, rfl, hmarks, hwords⟩ := h
  exact ⟨_, _, List.take_append, fun c hc => hmarks c (List.mem_of_mem_take hc),
    fun c hc => hwords c (List.mem_of_mem_take hc)⟩

theorem Joined.filter {cs : List Char} (h : Joined cs) (keep : Char → Bool) :
    Joined (cs.filter keep) := by
  obtain ⟨marks, words, rfl, hmarks, hwords⟩ := h
  exact ⟨_, _, List.filter_append .., fun c hc => hmarks c (List.mem_filter.mp hc).1,
    fun c hc => hwords c (List.mem_filter.mp hc).1⟩

theorem Joined.append {cs more : List Char} (h : Joined cs)
    (hmore : ∀ c ∈ more, isSeparator c = false) : Joined (cs ++ more) := by
  obtain ⟨marks, words, rfl, hmarks, hwords⟩ := h
  refine ⟨marks, words ++ more, by simp, hmarks, fun c hc => ?_⟩
  rcases List.mem_append.mp hc with hc | hc
  · exact hwords c hc
  · exact hmore c hc

theorem joined_of_not_separator {cs : List Char} (h : ∀ c ∈ cs, isSeparator c = false) :
    Joined cs :=
  ⟨[], cs, rfl, by simp, h⟩

/-! ## Joining once more -/

theorem joinWords_eq_self_iff (cs : List Char) :
    joinWords false cs = cs ↔ ∀ c ∈ cs, isSeparator c = false := by
  refine ⟨fun h c hc => ?_, joinWords_eq_self⟩
  rw [← h] at hc
  exact isSeparator_of_mem_joinWords hc

theorem head?_wordChars_true (cs : List Char) :
    ∀ entry ∈ (wordChars true cs).head?, entry.1 = true := by
  induction cs with
  | nil => rintro entry ⟨⟩
  | cons c rest ih =>
      rw [wordChars_cons]
      split
      case isTrue => exact ih
      case isFalse => rintro entry ⟨⟩; rfl

theorem not_isLower_head?_joinWords (cs : List Char) :
    ∀ d ∈ (joinWords true cs).head?, ¬d.isLower = true := by
  intro d hd
  rw [joinWords_eq_map, List.head?_map] at hd
  obtain ⟨⟨starts, c⟩, hentry, rfl⟩ := Option.map_eq_some_iff.mp hd
  obtain rfl : starts = true := head?_wordChars_true cs _ hentry
  exact not_isLower_toUpper c

theorem joinWords_true_eq_self {cs : List Char} (h : ∀ c ∈ cs, isSeparator c = false)
    (hhead : ∀ c ∈ cs.head?, ¬c.isLower = true) : joinWords true cs = cs := by
  cases cs with
  | nil => rfl
  | cons c rest =>
      obtain ⟨hc, hrest⟩ := List.forall_mem_cons.mp h
      rw [joinWords_cons hc true, joinWords_eq_self hrest, joinedChar, if_pos rfl,
        toUpper_of_not_isLower (hhead c rfl)]

theorem joinWords_joinWords (first : Bool) (cs : List Char) :
    joinWords first (joinWords first cs) = joinWords first cs := by
  have hwords : ∀ d ∈ joinWords first cs, isSeparator d = false :=
    fun _ => isSeparator_of_mem_joinWords
  cases first with
  | false => exact joinWords_eq_self hwords
  | true => exact joinWords_true_eq_self hwords (not_isLower_head?_joinWords cs)

theorem camelChars_camelChars (capitalize : Bool) (cs : List Char) :
    camelChars capitalize (camelChars capitalize cs) = camelChars capitalize cs := by
  have hmarks : ∀ c ∈ cs.takeWhile (· = '_'), c = '_' :=
    fun c hc => by simpa using List.mem_takeWhile_imp hc
  have hhead : ∀ d ∈ (joinWords capitalize (cs.dropWhile (· = '_'))).head?, d ≠ '_' :=
    fun d hd =>
      ne_mark_of_not_separator (isSeparator_of_mem_joinWords (List.mem_of_mem_head? hd))
  have hsplit : camelChars capitalize cs =
      cs.takeWhile (· = '_') ++ joinWords capitalize (cs.dropWhile (· = '_')) := rfl
  rw [hsplit, camelChars_append hmarks hhead, joinWords_joinWords]

theorem camelChars_eq_self_iff (cs : List Char) :
    camelChars false cs = cs ↔ ∀ c ∈ cs.dropWhile (· = '_'), isSeparator c = false := by
  have hsplit := List.takeWhile_append_dropWhile (p := (· = '_')) (l := cs)
  rw [← joinWords_eq_self_iff, camelChars]
  nth_rewrite 3 [← hsplit]
  exact List.append_right_inj _

/-- Camel case makes of a text its leading underscores and the characters of the words behind them,
capitals of ASCII where a word starts.  It leaves alone what holds no separator there, and a second
run changes nothing. -/
theorem camelCase_joined (s : String) (capitalize : Bool) :
    (∃ words, (camelCase s capitalize).toList = s.toList.takeWhile (· = '_') ++ words ∧
        words = (wordChars capitalize (s.toList.dropWhile (· = '_'))).map joinedChar ∧
        List.Forall₂ Respells ((s.toList.dropWhile (· = '_')).filter (!isSeparator ·)) words) ∧
      (camelCase s = s ↔ ∀ c ∈ s.toList.dropWhile (· = '_'), isSeparator c = false) ∧
      camelCase (camelCase s capitalize) capitalize = camelCase s capitalize := by
  refine ⟨⟨_, String.toList_ofList, joinWords_eq_map _ _, forall₂_joinWords _ _⟩, ?_, ?_⟩
  · rw [← camelChars_eq_self_iff, camelCase, ← String.toList_inj, String.toList_ofList]
  · rw [camelCase, camelCase, String.toList_ofList, camelChars_camelChars]

end RecordLoom.Casing
