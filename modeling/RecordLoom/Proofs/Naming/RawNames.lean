import RecordLoom.Naming.Identifiers
import RecordLoom.Proofs.Casing.JoinedWords
import RecordLoom.Proofs.Casing.Repetition
import RecordLoom.Proofs.Inflection.LetterCase

/-!
# Raw names

The SQL-style names of a record are made from its camel-cased name.  For an SQL name of words in
small letters and digits, snake case gives back exactly that name, unless a word of one letter is
joined to the word behind it: its capital then continues a run.
-/

namespace RecordLoom

open RecordLoom.Casing
open RecordLoom.Entity
open RecordLoom.Text

namespace Casing

/-! ## Names of words -/

/-- A small letter of ASCII, with small letters and digits of ASCII behind it. -/
structure Word where
  first : Char
  more : List Char
  first_small : first.isLower = true
  more_plain : ∀ c ∈ more, c.isLower = true ∨ c.isDigit = true

namespace Word

def chars (w : Word) : List Char := w.first :: w.more

def capital (w : Word) : List Char := w.first.toUpper :: w.more

def IsLong (w : Word) : Prop := 2 ≤ w.chars.length

theorem isLong_iff (w : Word) : w.IsLong ↔ w.more.isEmpty = false := by
  cases hmore : w.more <;> simp [IsLong, chars, hmore]

end Word

/-- The cases of a small letter or digit of ASCII. -/
@[mk_iff]
structure SmallChar (c : Char) : Prop where
  ascii : c.toNat < 128
  not_separator : isSeparator c = false
  ends : endsWord c = true
  identifier : isIdentifierChar c = true
  lower : c.toLower = c

/-- The two forms of a small letter of ASCII. -/
@[mk_iff]
structure SmallLetter (c : Char) : Prop where
  letter : isLetter c = true
  ascii_upper : c.toUpper.toNat < 128
  upper : isUpper c.toUpper = true
  upper_not_separator : isSeparator c.toUpper = false
  upperOf : upperOf c = [c.toUpper]
  lower_upper : c.toUpper.toLower = c
  unmarked : c ≠ 'Z'

instance (c : Char) : Decidable (SmallChar c) := decidable_of_iff' _ (smallChar_iff c)

instance (c : Char) : Decidable (SmallLetter c) := decidable_of_iff' _ (smallLetter_iff c)

theorem smallChar {c : Char} (h : c.isLower = true ∨ c.isDigit = true) : SmallChar c := by
  have hascii : c.toNat < 128 := h.elim lt_of_isLower lt_of_isDigit
  exact of_ascii (P := fun c => c.isLower = true ∨ c.isDigit = true → SmallChar c)
    (by decide +kernel) hascii h

theorem smallLetter {c : Char} (h : c.isLower = true) : SmallLetter c :=
  of_ascii (P := fun c => c.isLower = true → SmallLetter c) (by decide +kernel) (lt_of_isLower h) h

namespace Word

variable (w : Word)

theorem first_smallChar : SmallChar w.first := smallChar (.inl w.first_small)

theorem more_smallChar : ∀ c ∈ w.more, SmallChar c := fun c hc => smallChar (w.more_plain c hc)

theorem more_not_separator : ∀ c ∈ w.more, isSeparator c = false :=
  fun c hc => (w.more_smallChar c hc).not_separator

theorem more_ends : ∀ c ∈ w.more, endsWord c = true := fun c hc => (w.more_smallChar c hc).ends

end Word

/-- A name of words with underscores between them. -/
structure SnakeName where
  first : Word
  rest : List Word

namespace SnakeName

def text (n : SnakeName) : String :=
  "_".intercalate ((n.first :: n.rest).map fun w => .ofList w.chars)

/-- The words between the first and the last are long, and so is the first one if it gets a capital
and another word follows. -/
structure IsRecoverable (n : SnakeName) (capitalize : Bool) : Prop where
  inner : ∀ w ∈ n.rest.dropLast, w.IsLong
  first : capitalize = false ∨ n.rest = [] ∨ n.first.IsLong

end SnakeName

/-! ## Words one after another -/

def markedWords (ws : List Word) : List Char := ws.flatMap fun w => '_' :: w.chars

/-- Words in one spelling, with an underscore before each that follows a long one; `afterEnd` tells
whether the first one gets an underscore. -/
def apart (spelling : Word → List Char) (afterEnd : Bool) : List Word → List Char
  | [] => []
  | w :: rest =>
      (if afterEnd then ['_'] else []) ++ spelling w ++ apart spelling (!w.more.isEmpty) rest

theorem markedWords_cons (w : Word) (ws : List Word) :
    markedWords (w :: ws) = '_' :: w.first :: (w.more ++ markedWords ws) := by
  simp [markedWords, Word.chars]

theorem SnakeName.toList_text (n : SnakeName) :
    n.text.toList = n.first.first :: (n.first.more ++ markedWords n.rest) := by
  have hwords (w : Word) (ws : List Word) :
      ['_'].intercalate ((w :: ws).map Word.chars) = w.chars ++ markedWords ws := by
    induction ws generalizing w with
    | nil => simp [markedWords]
    | cons v ws ih =>
        rw [List.map_cons, List.map_cons, List.intercalate_cons_cons, ← List.map_cons, ih,
          markedWords_cons]
        simp [Word.chars]
  rw [text, String.toList_intercalate, List.map_map]
  have hspelled : String.toList ∘ (fun w : Word => String.ofList w.chars) = Word.chars :=
    funext fun w => String.toList_ofList
  rw [hspelled]
  exact hwords n.first n.rest

/-- Words are marked where all of them follow long ones. -/
theorem apart_eq_markedWords_iff (afterEnd : Bool) (ws : List Word) :
    apart Word.chars afterEnd ws = markedWords ws ↔
      (afterEnd = true ∨ ws = []) ∧ ∀ w ∈ ws.dropLast, w.IsLong := by
  induction ws generalizing afterEnd with
  | nil => simp [apart, markedWords]
  | cons w ws ih =>
      rw [apart, markedWords_cons]
      cases afterEnd with
      | false =>
          have hfirst : w.first ≠ '_' := fun hmark => by
            have hsmall := w.first_small
            rw [hmark] at hsmall
            exact absurd hsmall (by decide)
          simp [Word.chars, hfirst]
      | true =>
          have hlong := w.isLong_iff
          cases ws with
          | nil => simp [Word.chars, apart, markedWords]
          | cons v ws => simp [Word.chars, ih, hlong]

/-! ## Joining words -/

theorem joinWords_markedWords (ws : List Word) :
    joinWords false (markedWords ws) = ws.flatMap Word.capital := by
  induction ws with
  | nil => rfl
  | cons w ws ih =>
      rw [markedWords_cons, joinWords, if_pos (by decide),
        joinWords_cons w.first_smallChar.not_separator, joinWords_append w.more_not_separator, ih]
      rfl

theorem SnakeName.camelChars_text (n : SnakeName) (capitalize : Bool) :
    camelChars capitalize n.text.toList = joinedChar (capitalize, n.first.first) ::
      (n.first.more ++ n.rest.flatMap Word.capital) := by
  rw [n.toList_text, camelChars_cons n.first.first_smallChar.not_separator,
    joinWords_append n.first.more_not_separator, joinWords_markedWords]

/-! ## Putting words apart -/

theorem separateWords_capitals (previous : Char) (ws : List Word) :
    separateWords (some previous) (ws.flatMap Word.capital) =
      apart Word.capital (endsWord previous) ws := by
  induction ws generalizing previous with
  | nil => rfl
  | cons w ws ih =>
      have hupper := (smallLetter w.first_small).upper
      have hlast : endsWord (w.more.getLastD w.first.toUpper) = !w.more.isEmpty := by
        rw [endsWord_getLastD w.more_ends]
        simp [endsWord, hupper]
      have hstarts : startsWord (some previous) w.first.toUpper = endsWord previous := by
        simp [startsWord, endsWord, hupper]
      rw [List.flatMap_cons, Word.capital, List.cons_append, separateWords, hstarts,
        separateWords_append w.more_ends, ih, hlast, apart, Word.capital]
      cases endsWord previous <;> rfl

theorem SnakeName.separateWords_joined (n : SnakeName) (capitalize : Bool) :
    separateWords none (camelChars capitalize n.text.toList) =
      joinedChar (capitalize, n.first.first) ::
        (n.first.more ++ apart Word.capital (!n.first.more.isEmpty || !capitalize) n.rest) := by
  have hends : endsWord (joinedChar (capitalize, n.first.first)) = !capitalize := by
    cases capitalize with
    | false => exact n.first.first_smallChar.ends
    | true => simp [joinedChar, endsWord, (smallLetter n.first.first_small).upper]
  rw [n.camelChars_text, separateWords, if_neg (by simp [startsWord]),
    separateWords_append n.first.more_ends, separateWords_capitals,
    endsWord_getLastD n.first.more_ends, hends]

/-! ## Small letters -/

theorem map_toLower_more (w : Word) : w.more.map Char.toLower = w.more := by
  rw [List.map_congr_left fun c hc => (w.more_smallChar c hc).lower, List.map_id']

theorem toLower_joinedChar {c : Char} (h : c.isLower = true) (capitalize : Bool) :
    (joinedChar (capitalize, c)).toLower = c ∧ (joinedChar (capitalize, c)).toNat < 128 := by
  cases capitalize with
  | false => exact ⟨(smallChar (.inl h)).lower, lt_of_isLower h⟩
  | true => exact ⟨(smallLetter h).lower_upper, (smallLetter h).ascii_upper⟩

theorem map_toLower_apart (afterEnd : Bool) (ws : List Word) :
    (apart Word.capital afterEnd ws).map Char.toLower = apart Word.chars afterEnd ws := by
  induction ws generalizing afterEnd with
  | nil => rfl
  | cons w ws ih =>
      have hfirst := (smallLetter w.first_small).lower_upper
      have hmark : (if afterEnd then ['_'] else []).map Char.toLower =
          if afterEnd then ['_'] else [] := by cases afterEnd <;> rfl
      simp only [apart, List.map_append, hmark, ih, Word.capital, Word.chars, List.map_cons, hfirst,
        map_toLower_more]

theorem ascii_apart (afterEnd : Bool) (ws : List Word) :
    Inflection.Ascii (apart Word.capital afterEnd ws) := by
  induction ws generalizing afterEnd with
  | nil => exact List.forall_mem_nil _
  | cons w ws ih =>
      have hmark : Inflection.Ascii (if afterEnd then ['_'] else []) := by
        cases afterEnd with
        | false => exact List.forall_mem_nil _
        | true => exact List.forall_mem_singleton.mpr (by decide)
      have hcapital : Inflection.Ascii w.capital :=
        List.forall_mem_cons.mpr ⟨(smallLetter w.first_small).ascii_upper,
          fun c hc => (w.more_smallChar c hc).ascii⟩
      exact List.forall_mem_append.mpr ⟨List.forall_mem_append.mpr ⟨hmark, hcapital⟩, ih _⟩

theorem SnakeName.snakeChars_joined (n : SnakeName) (capitalize : Bool) :
    snakeChars true (camelChars capitalize n.text.toList) = n.first.first ::
      (n.first.more ++ apart Word.chars (!n.first.more.isEmpty || !capitalize) n.rest) := by
  obtain ⟨hfirst, hascii⟩ := toLower_joinedChar n.first.first_small capitalize
  have hmore : Inflection.Ascii n.first.more := fun c hc => (n.first.more_smallChar c hc).ascii
  rw [snakeChars_true, n.separateWords_joined, Inflection.lowerChars_of_ascii, List.map_cons, hfirst,
    List.map_append, map_toLower_more, map_toLower_apart]
  exact List.forall_mem_cons.mpr ⟨hascii, List.forall_mem_append.mpr ⟨hmore, ascii_apart _ _⟩⟩

theorem SnakeName.snakeCase_camelCase_iff (n : SnakeName) (capitalize : Bool) :
    snakeCase (camelCase n.text capitalize) = n.text ↔ n.IsRecoverable capitalize := by
  have hlong := n.first.isLong_iff
  have hcond : (!n.first.more.isEmpty || !capitalize) = true ∨ n.rest = [] ↔
      capitalize = false ∨ n.rest = [] ∨ n.first.IsLong := by
    rw [hlong]
    cases capitalize <;> cases n.first.more.isEmpty <;> simp [or_comm]
  rw [snakeCase, camelCase, String.toList_ofList, ← String.toList_inj, String.toList_ofList,
    n.snakeChars_joined, n.toList_text, List.cons_inj_right, List.append_right_inj,
    apart_eq_markedWords_iff, hcond]
  exact ⟨fun h => ⟨h.2, h.1⟩, fun h => ⟨h.first, h.inner⟩⟩

/-- A word of one letter is lost between two others. -/
example : camelCase "pos_x_y" = "posXY" ∧ snakeCase "posXY" = "pos_xy" := by decide +kernel

end Casing

namespace Naming

/-! ## Names of records -/

variable {o : Options}

theorem toIdentifier_text (n : SnakeName) : toIdentifier n.text = n.text := by
  have hchars (w : Word) : ∀ c ∈ w.first :: w.more, isIdentifierChar c = true :=
    List.forall_mem_cons.mpr
      ⟨w.first_smallChar.identifier, fun c hc => (w.more_smallChar c hc).identifier⟩
  have hmarked : ∀ c ∈ markedWords n.rest, isIdentifierChar c = true := by
    intro c hc
    obtain ⟨w, -, hc⟩ := List.mem_flatMap.mp hc
    rcases List.mem_cons.mp hc with rfl | hc
    · decide
    · exact hchars w c hc
  have hfirst := (smallLetter n.first.first_small).letter
  refine toIdentifier_of_isIdentifier ⟨?_, _, _, n.toList_text, by rw [hfirst, Bool.true_or]⟩
  rw [n.toList_text, ← List.cons_append]
  exact List.forall_mem_append.mpr ⟨hchars n.first, hmarked⟩

theorem not_stripsMark_text (n : SnakeName) : o.stripsMark n.text = false := by
  have hfirst := (smallLetter n.first.first_small).unmarked
  have hname : isCoreDataName n.text = false := by
    simp [isCoreDataName, startsWith, n.toList_text, Ne.symm hfirst]
  rw [Options.stripsMark, hname, Bool.and_false, Bool.false_and]

theorem camelCase_upperFirst_text (n : SnakeName) :
    camelCase (upperFirst n.text) = camelCase n.text true := by
  have hfirst := smallLetter n.first.first_small
  rw [camelCase, camelCase, upperFirst, String.toList_ofList, n.toList_text, upperFirstChars_cons,
    hfirst.upperOf, List.singleton_append, camelChars_cons hfirst.upper_not_separator,
    camelChars_cons n.first.first_smallChar.not_separator]
  rfl

theorem recordStem_text (n : SnakeName) (hcamel : o.camelCaseRecordNames = true)
    (hkept : o.replaceCharacters n.text = n.text) :
    o.recordStem n.text = camelCase n.text o.capitalizeRecordNames := by
  simp only [Options.recordStem, not_stripsMark_text, hkept, toIdentifier_text, hcamel, applyIf,
    if_true, Bool.false_eq_true, if_false]
  cases o.capitalizeRecordNames with
  | false => rfl
  | true => exact camelCase_upperFirst_text n

/-- Snake case gives an SQL name of words back from its camel-cased spelling exactly if it is
recoverable.  The spelling is what record names are made from, and a record of such a name gets its
SQL-style names from the SQL name itself. -/
theorem rawNames_recovered (n : SnakeName) :
    (∀ capitalize, snakeCase (camelCase n.text capitalize) = n.text ↔ n.IsRecoverable capitalize) ∧
      (∀ o : Options, o.camelCaseRecordNames = true → o.replaceCharacters n.text = n.text →
        o.recordStem n.text = camelCase n.text o.capitalizeRecordNames) ∧
      ∀ (o : Options) (taken : Taken) (e : Entity) (capitalize : Bool), n.IsRecoverable capitalize →
        (renameEntity o taken e).1.name = camelCase n.text capitalize →
        (renameEntity o taken e).1.singularName =
            freeName (applyIf o.singularizeRecordNames Inflection.singularize n.text)
              taken.rawNames ∧
          (renameEntity o taken e).1.pluralName =
            freeName (Inflection.pluralize n.text)
              (claim (renameEntity o taken e).1.singularName taken.rawNames) := by
  refine ⟨n.snakeCase_camelCase_iff, fun o => recordStem_text n, ?_⟩
  intro o taken e capitalize hn hname
  have hsnake : snakeCase (renameEntity o taken e).1.name = n.text := by
    rw [hname, (n.snakeCase_camelCase_iff capitalize).mpr hn]
  rw [← hsnake]
  exact ⟨rfl, rfl⟩

def orderItem : SnakeName where
  first := ⟨'o', ['r', 'd', 'e', 'r'], by decide, List.forall_iff_forall_mem.mp (by decide)⟩
  rest := [⟨'i', ['t', 'e', 'm'], by decide, List.forall_iff_forall_mem.mp (by decide)⟩]

def orderItems : Entity where
  raw := "order_items"
  name := "order_items"
  kind := .table
  properties := []
  relationships := []
  sql := ""
  referenceName := ""
  singularName := ""
  pluralName := ""
  indexSql := []
  triggerSql := []

/-- The names of the table `order_items` are made from `order_item`. -/
theorem orderItems_rawNames :
    orderItem.IsRecoverable true ∧
      Options.default.recordStem orderItem.text = camelCase orderItem.text true ∧
      (renameEntity .default .none orderItems).1.name = camelCase orderItem.text true ∧
      (renameEntity .default .none orderItems).1.singularName = "order_item" ∧
      (renameEntity .default .none orderItems).1.pluralName = "order_items" := by
  have hn : orderItem.IsRecoverable true :=
    ⟨List.forall_mem_nil _, .inr (.inr (orderItem.first.isLong_iff.mpr rfl))⟩
  have hname : (renameEntity .default .none orderItems).1.name = camelCase orderItem.text true := by
    decide +kernel
  have hstem := (rawNames_recovered orderItem).2.1 .default rfl (by decide +kernel)
  obtain ⟨hsingular, hplural⟩ :=
    (rawNames_recovered orderItem).2.2 .default .none orderItems true hn hname
  rw [hplural, hsingular]
  exact ⟨hn, hstem, hname, by decide +kernel, by decide +kernel⟩

end Naming

end RecordLoom
