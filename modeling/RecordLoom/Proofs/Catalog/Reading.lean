import Mathlib.Data.List.TakeWhile
import RecordLoom.Catalog.Fetch
import RecordLoom.Proofs.Text.Characters

/-!
# What cannot be read

Texts of a catalog that have the form of a constant and still no value: numbers with more digits
than an integer may have, and blobs in which the last byte has one digit only.  All other texts of
defaults and declared types are read.
-/

namespace RecordLoom.Catalog

open RecordLoom.Number
open RecordLoom.Text

/-! ## Integers -/

/-- A sign or none, then more digits than an integer may have. -/
def Literal.TooLong (body : List Char) : Prop :=
  ∃ sign digits, body = sign ++ digits ∧ sign ∈ [[], ['-'], ['+']] ∧
    (∀ c ∈ digits, isDecimalDigit c = true) ∧ digitLimit < digits.length

theorem takeGroups_digits {digits : List Char} (h : ∀ c ∈ digits, isDecimalDigit c = true)
    (afterDigit : Bool) : takeGroups afterDigit digits = (digits.filterMap digitValue?, []) := by
  induction digits generalizing afterDigit with
  | nil => rfl
  | cons c rest ih =>
      obtain ⟨hc, hrest⟩ := List.forall_mem_cons.mp h
      obtain ⟨value, hvalue⟩ := Option.isSome_iff_exists.mp hc
      have hmark : c ≠ '_' := by
        rintro rfl
        cases hvalue
      simp [takeGroups, hmark, hvalue, ih hrest]

theorem length_filterMap_digitValue? {digits : List Char}
    (h : ∀ c ∈ digits, isDecimalDigit c = true) :
    (digits.filterMap digitValue?).length = digits.length := by
  induction digits with
  | nil => rfl
  | cons c rest ih =>
      obtain ⟨hc, hrest⟩ := List.forall_mem_cons.mp h
      obtain ⟨value, hvalue⟩ := Option.isSome_iff_exists.mp hc
      rw [List.filterMap_cons_some hvalue, List.length_cons, ih hrest, List.length_cons]

theorem takeSign_append {sign digits : List Char} (hsign : sign ∈ [[], ['-'], ['+']])
    (hdigits : ∀ c ∈ digits, isDecimalDigit c = true) :
    takeSign (sign ++ digits) = (sign == ['-'], digits) := by
  simp only [List.mem_cons, List.not_mem_nil, or_false] at hsign
  rcases hsign with rfl | rfl | rfl
  · cases digits with
    | nil => rfl
    | cons c rest =>
        have hc := hdigits c List.mem_cons_self
        have hminus : c ≠ '-' := by
          rintro rfl
          exact absurd hc (by decide)
        have hplus : c ≠ '+' := by
          rintro rfl
          exact absurd hc (by decide)
        simp [takeSign, hminus, hplus]
  · rfl
  · rfl

theorem isIntegerText_iff {body : List Char} :
    Literal.isIntegerText body = true ↔
      ∃ sign digits, body = sign ++ digits ∧ sign ∈ [[], ['-'], ['+']] ∧
        (∀ c ∈ digits, isDecimalDigit c = true) ∧ digits ≠ [] := by
  constructor
  · intro h
    have hsplit : ∃ sign ∈ [[], ['-'], ['+']], body = sign ++ (takeSign body).2 := by
      unfold takeSign
      split <;> simp
    obtain ⟨sign, hsign, hbody⟩ := hsplit
    simp only [Literal.isIntegerText, Bool.and_eq_true, Bool.not_eq_true',
      List.isEmpty_eq_false_iff, List.all_eq_true] at h
    exact ⟨sign, _, hbody, hsign, h.2, h.1⟩
  · rintro ⟨sign, digits, rfl, hsign, hdigits, hne⟩
    simpa [Literal.isIntegerText, takeSign_append hsign hdigits, hne] using hdigits

theorem isBlank_of_mem_signed {sign digits : List Char} (hsign : sign ∈ [[], ['-'], ['+']])
    (hdigits : ∀ c ∈ digits, isDecimalDigit c = true) :
    ∀ c ∈ sign ++ digits, isBlank c = false := by
  intro c hc
  rcases List.mem_append.mp hc with hc | hc
  · simp only [List.mem_cons, List.not_mem_nil, or_false] at hsign
    rcases hsign with rfl | rfl | rfl
    · cases hc
    · rw [List.mem_singleton.mp hc]
      decide
    · rw [List.mem_singleton.mp hc]
      decide
  · exact isBlank_of_isDecimalDigit (hdigits c hc)

theorem readInteger_eq {sign digits : List Char} (hsign : sign ∈ [[], ['-'], ['+']])
    (hdigits : ∀ c ∈ digits, isDecimalDigit c = true) (hne : digits ≠ []) :
    Literal.readInteger (.ofList (sign ++ digits)) =
      if digitLimit < digits.length then .error .tooManyDigits
      else
        .ok (.integer (signed (sign == ['-']) (natOfDigits (digits.filterMap digitValue?)))) := by
  have hblank : ∀ c ∈ sign ++ digits, isNumberBlank c = false := fun c hc => by
    rw [isNumberBlank, isBlank_of_mem_signed hsign hdigits c hc, Bool.false_and]
  have hends : dropEnds isNumberBlank (sign ++ digits) = sign ++ digits :=
    dropEnds_eq_self (fun c hc => hblank c (List.mem_of_head? hc))
      fun c hc => hblank c (List.mem_of_getLast? hc)
  -- The reader tells a text without digits from one that is read to its end.
  have hvalues : digits.filterMap digitValue? ≠ [] := by
    rw [← List.length_pos_iff, length_filterMap_digitValue? hdigits]
    exact List.length_pos_iff.mpr hne
  have hread : readInt (.ofList (sign ++ digits)) =
      if digitLimit < digits.length then .tooLong
      else .value (signed (sign == ['-']) (natOfDigits (digits.filterMap digitValue?))) := by
    rw [← length_filterMap_digitValue? hdigits]
    simp only [readInt, String.toList_ofList, hends, takeSign_append hsign hdigits, takeGrouped,
      takeGroups_digits hdigits]
  rw [Literal.readInteger, hread]
  by_cases hlong : digitLimit < digits.length
  · rw [if_pos hlong, if_pos hlong]
  · rw [if_neg hlong, if_neg hlong]

/-! ## Blobs -/

/-- A blob literal with an odd number of digits. -/
def Literal.OddBlob (body : List Char) : Prop :=
  ∃ mark digits, body = mark :: '\'' :: digits ++ ['\''] ∧ (mark = 'x' ∨ mark = 'X') ∧
    (∀ c ∈ digits, (Json.hexValue? c).isSome = true) ∧ digits.length % 2 = 1

theorem betweenQuotes?_eq_some_iff {body inner : List Char} :
    Literal.betweenQuotes? body = some inner ↔ body = '\'' :: inner ++ ['\''] := by
  constructor
  · intro h
    unfold Literal.betweenQuotes? at h
    split at h
    case h_1 rest =>
        split at h
        case isTrue hlast =>
            cases h
            obtain ⟨start, rfl⟩ := List.getLast?_eq_some_iff.mp (beq_iff_eq.mp hlast)
            rw [List.dropLast_concat, List.cons_append]
        case isFalse => cases h
    case h_2 => cases h
  · rintro rfl
    simp [Literal.betweenQuotes?]

theorem mapM_hexValue? {digits : List Char} {values : List Nat} :
    digits.mapM Json.hexValue? = some values ↔ digits.map Json.hexValue? = values.map some := by
  induction digits generalizing values with
  | nil => cases values <;> simp
  | cons c rest ih =>
      cases values with
      | nil => simp [List.mapM_cons, bind, Option.bind_eq_some_iff]
      | cons value values => simp [List.mapM_cons, Option.bind_eq_some_iff, ih]

theorem forall_hexValue?_iff {digits : List Char} :
    (∀ c ∈ digits, (Json.hexValue? c).isSome = true) ↔
      ∃ values : List Nat, digits.map Json.hexValue? = values.map some := by
  induction digits with
  | nil => exact ⟨fun _ => ⟨[], rfl⟩, fun _ => nofun⟩
  | cons c rest ih =>
      rw [List.forall_mem_cons, ih, Option.isSome_iff_exists]
      constructor
      · rintro ⟨⟨value, hvalue⟩, values, hvalues⟩
        exact ⟨value :: values, by rw [List.map_cons, hvalue, hvalues, List.map_cons]⟩
      · rintro ⟨values, hvalues⟩
        cases values with
        | nil => cases hvalues
        | cons value values =>
            obtain ⟨hvalue, hrest⟩ := List.cons.inj hvalues
            exact ⟨⟨value, hvalue⟩, values, hrest⟩

theorem length_of_hexValue? {digits : List Char} {values : List Nat}
    (h : digits.map Json.hexValue? = values.map some) : digits.length = values.length := by
  simpa using congrArg List.length h

theorem blobDigits?_eq_some_iff {body : List Char} {values : List Nat} :
    Literal.blobDigits? body = some values ↔
      ∃ mark digits, body = mark :: '\'' :: digits ++ ['\''] ∧ (mark = 'x' ∨ mark = 'X') ∧
        digits.map Json.hexValue? = values.map some := by
  cases body with
  | nil => simp [Literal.blobDigits?]
  | cons first rest =>
      have hdigits : Literal.blobDigits? (first :: rest) =
          if first = 'x' ∨ first = 'X' then
            (Literal.betweenQuotes? rest).bind (·.mapM Json.hexValue?)
          else none := by
        simp [Literal.blobDigits?]
      rw [hdigits]
      constructor
      · intro h
        split at h
        case isTrue hmark =>
            obtain ⟨digits, hquoted, hvalues⟩ := Option.bind_eq_some_iff.mp h
            rw [betweenQuotes?_eq_some_iff.mp hquoted]
            exact ⟨first, digits, rfl, hmark, mapM_hexValue?.mp hvalues⟩
        case isFalse => cases h
      · rintro ⟨mark, digits, hbody, hmark, hvalues⟩
        obtain ⟨rfl, hrest⟩ := List.cons.inj hbody
        rw [if_pos hmark, betweenQuotes?_eq_some_iff.mpr hrest, Option.bind_some]
        exact mapM_hexValue?.mpr hvalues

theorem pairDigits_eq_error_iff {fault : ConversionFault} {digits : List Nat} :
    Literal.pairDigits digits = .error fault ↔ fault = .oddHexDigits ∧ digits.length % 2 = 1 := by
  induction digits using Literal.pairDigits.induct with
  | case1 => simp [Literal.pairDigits]
  | case2 => simp [Literal.pairDigits, eq_comm]
  | case3 high low rest ih =>
      have hlength : (high :: low :: rest).length % 2 = rest.length % 2 := by
        rw [List.length_cons, List.length_cons, Nat.add_assoc, Nat.add_mod_right]
      rw [Literal.pairDigits, hlength, ← ih]
      cases Literal.pairDigits rest <;> simp [Except.map]

/-! ## Defaults -/

inductive Literal.Parses (body : String) : Except ConversionFault Literal → Prop where
  | null : Parses body (.ok .null)
  | boolean (value : Bool) : Parses body (.ok (.boolean value))
  | integer (hform : isIntegerText body.toList = true) : Parses body (readInteger body)
  | real : Parses body (.ok (.real ((readDouble? body).getD .nan)))
  | text {inner : List Char} (hinner : betweenQuotes? body.toList = some inner) :
      Parses body (.ok (.text (replace "''" "'" (.ofList inner))))
  | blob {digits : List Nat} (hdigits : blobDigits? body.toList = some digits) :
      Parses body ((pairDigits digits).map .blob)
  | expression : Parses body (.ok (.expression body))

theorem parse_parses (text : String) : Literal.Parses (trim text) (Literal.parse text) := by
  simp only [Literal.parse]
  split
  · exact .null
  split
  · exact .boolean true
  split
  · exact .boolean false
  split
  case isTrue hform => exact .integer hform
  split
  · exact .real
  split
  case h_1 inner hinner => exact .text hinner
  split
  case h_1 digits hdigits => exact .blob hdigits
  case h_2 => exact .expression

theorem upper_ne_of_length {body word : String} (h : word.toList.length < body.toList.length) :
    upper body ≠ word := by
  rintro rfl
  have hlength := length_le_upperChars body.toList
  rw [upper, String.toList_ofList] at h
  omega

theorem upper_ne_of_mem {body word : String} {c : Char} (hc : upperOf c = [c])
    (hbody : c ∈ body.toList) (hword : c ∉ word.toList) : upper body ≠ word := by
  rintro rfl
  rw [upper, String.toList_ofList] at hword
  exact hword (mem_upperChars hc hbody)

def Literal.words : List String := ["NULL", "TRUE", "FALSE"]

theorem Literal.TooLong.upper_ne {body word : String} (h : Literal.TooLong body.toList)
    (hword : word ∈ Literal.words) : upper body ≠ word := by
  obtain ⟨sign, digits, hbody, -, -, hlong⟩ := h
  have hshort : ∀ word ∈ Literal.words, word.toList.length ≤ 5 := by decide
  apply upper_ne_of_length
  have hword := hshort word hword
  rw [hbody, List.length_append]
  simp only [digitLimit] at hlong
  omega

theorem upper_ne_of_quoted {body word : String} (h : '\'' ∈ body.toList)
    (hword : word ∈ Literal.words) : upper body ≠ word := by
  have hunquoted : ∀ word ∈ Literal.words, '\'' ∉ word.toList := by decide
  exact upper_ne_of_mem (by decide) h (hunquoted word hword)

theorem parse_tooLong {text : String} (h : Literal.TooLong (trim text).toList) :
    Literal.parse text = .error .tooManyDigits := by
  have hwords : ∀ word ∈ Literal.words, upper (trim text) ≠ word :=
    fun word => Literal.TooLong.upper_ne h
  obtain ⟨sign, digits, hbody, hsign, hdigits, hlong⟩ := h
  have hne : digits ≠ [] := by
    rintro rfl
    exact absurd hlong (Nat.not_lt_zero _)
  have hform : Literal.isIntegerText (trim text).toList = true :=
    isIntegerText_iff.mpr ⟨sign, digits, hbody, hsign, hdigits, hne⟩
  have hread : Literal.readInteger (trim text) = .error .tooManyDigits := by
    rw [← String.ofList_toList (s := trim text), hbody, readInteger_eq hsign hdigits hne,
      if_pos hlong]
  simp [Literal.parse, hwords "NULL" (by decide), hwords "TRUE" (by decide),
    hwords "FALSE" (by decide), hform, hread]

theorem parse_oddBlob {text : String} (h : Literal.OddBlob (trim text).toList) :
    Literal.parse text = .error .oddHexDigits := by
  obtain ⟨mark, digits, hbody, hmark, hhex, hodd⟩ := h
  have hwords : ∀ word ∈ Literal.words, upper (trim text) ≠ word :=
    fun word => upper_ne_of_quoted (by simp [hbody])
  obtain ⟨values, hvalues⟩ := forall_hexValue?_iff.mp hhex
  rw [length_of_hexValue? hvalues] at hodd
  have hblob : Literal.blobDigits? (trim text).toList = some values :=
    blobDigits?_eq_some_iff.mpr ⟨mark, digits, hbody, hmark, hvalues⟩
  have hinteger : Literal.isIntegerText (trim text).toList = false := by
    rcases hmark with rfl | rfl <;> rw [hbody] <;> rfl
  have hreal : Literal.isRealText (trim text).toList = false := by
    rcases hmark with rfl | rfl <;> rw [hbody] <;> rfl
  have hquotes : Literal.betweenQuotes? (trim text).toList = none := by
    rcases hmark with rfl | rfl <;> rw [hbody] <;> rfl
  simp [Literal.parse, hwords "NULL" (by decide), hwords "TRUE" (by decide),
    hwords "FALSE" (by decide), hinteger, hreal, hquotes, hblob,
    pairDigits_eq_error_iff.mpr ⟨rfl, hodd⟩, Except.map]

/-- The defaults that have no value, with the reason. -/
theorem parse_eq_error_iff {text : String} {fault : ConversionFault} :
    Literal.parse text = .error fault ↔
      fault = .tooManyDigits ∧ Literal.TooLong (trim text).toList ∨
        fault = .oddHexDigits ∧ Literal.OddBlob (trim text).toList := by
  constructor
  · intro h
    have hparses := parse_parses text
    generalize Literal.parse text = result at h hparses
    -- Only integers and blobs have a form that some texts have in vain.
    cases hparses with
    | integer hform =>
        left
        obtain ⟨sign, digits, hbody, hsign, hdigits, hne⟩ := isIntegerText_iff.mp hform
        rw [← String.ofList_toList (s := trim text), hbody, readInteger_eq hsign hdigits hne] at h
        split at h
        case isTrue hlong =>
          cases h
          exact ⟨rfl, sign, digits, hbody, hsign, hdigits, hlong⟩
        case isFalse => cases h
    | @blob values hvalues =>
        right
        obtain ⟨mark, digits, hbody, hmark, hdigits⟩ := blobDigits?_eq_some_iff.mp hvalues
        have hpairs : Literal.pairDigits values = .error fault := by
          cases hpairs : Literal.pairDigits values with
          | ok bytes => simp [hpairs, Except.map] at h
          | error reason => simpa [hpairs, Except.map] using h
        obtain ⟨rfl, hodd⟩ := pairDigits_eq_error_iff.mp hpairs
        rw [← length_of_hexValue? hdigits] at hodd
        exact ⟨rfl, mark, digits, hbody, hmark, forall_hexValue?_iff.mpr ⟨values, hdigits⟩, hodd⟩
    | _ => cases h
  · rintro (⟨rfl, hlong⟩ | ⟨rfl, hodd⟩)
    · exact parse_tooLong hlong
    · exact parse_oddBlob hodd

example : Literal.parse "x'0'" = .error .oddHexDigits := by decide

/-! ## Declared types -/

/-- `VARCHAR` in any case and digits in brackets, with white space around both brackets and the
digits, and perhaps a line feed at the end. -/
def ColumnType.SpellsWidth (declared digits : List Char) : Prop :=
  ∃ word before inside behind finish,
    declared = word ++ before ++ '(' :: inside ++ digits ++ behind ++ ')' :: finish ∧
    word.map Char.toUpper = "VARCHAR".toList ∧
    (∀ c ∈ before ++ inside ++ behind, isBlank c = true) ∧
    (∀ c ∈ digits, isDecimalDigit c = true) ∧ digits ≠ [] ∧ (finish = [] ∨ finish = ['\n'])

theorem afterWord?_eq_some_iff {word cs rest : List Char} :
    ColumnType.afterWord? word cs = some rest ↔
      ∃ spelled, cs = spelled ++ rest ∧ spelled.map Char.toUpper = word := by
  unfold ColumnType.afterWord?
  constructor
  · intro h
    split at h
    case isTrue hword =>
        cases h
        exact ⟨cs.take word.length, (List.take_append_drop ..).symm, beq_iff_eq.mp hword⟩
    case isFalse => cases h
  · rintro ⟨spelled, rfl, rfl⟩
    simp

theorem after?_eq_some_iff {c : Char} {cs rest : List Char} :
    ColumnType.after? c cs = some rest ↔ cs = c :: rest := by
  cases cs with
  | nil => simp [ColumnType.after?]
  | cons d tail =>
      rw [ColumnType.after?]
      split
      case isTrue heq => simp [heq]
      case isFalse hne => simp [hne]

theorem dropWhile_append_cons {p : Char → Bool} {before rest : List Char} {c : Char}
    (hbefore : ∀ b ∈ before, p b = true) (hc : p c = false) :
    (before ++ c :: rest).dropWhile p = c :: rest := by
  rw [List.dropWhile_append_of_pos hbefore, List.dropWhile_cons_of_neg (by simp [hc])]

theorem takeWhile_append_cons {p : Char → Bool} {before rest : List Char} {c : Char}
    (hbefore : ∀ b ∈ before, p b = true) (hc : p c = false) :
    (before ++ c :: rest).takeWhile p = before := by
  rw [List.takeWhile_append_of_pos hbefore, List.takeWhile_cons_of_neg (by simp [hc]),
    List.append_nil]

theorem spellsWidth_of_widthDigits? {declared : List Char} {values : List Nat}
    (h : ColumnType.widthDigits? declared = some values) :
    ∃ digits, ColumnType.SpellsWidth declared digits ∧ values = digits.filterMap digitValue? := by
  simp only [ColumnType.widthDigits?, Option.bind_eq_bind, Option.bind_eq_some_iff,
    afterWord?_eq_some_iff, after?_eq_some_iff] at h
  obtain ⟨afterName, ⟨word, rfl, hword⟩, inside, hopen, finish, hclose, h⟩ := h
  split at h
  case isTrue => cases h
  case isFalse hform =>
    cases h
    simp only [Bool.or_eq_true, not_or, List.isEmpty_iff, Bool.not_eq_true', Bool.not_eq_false,
      beq_iff_eq] at hform
    refine ⟨(inside.dropWhile isBlank).takeWhile isDecimalDigit, ⟨word,
      afterName.takeWhile isBlank, inside.takeWhile isBlank,
      ((inside.dropWhile isBlank).dropWhile isDecimalDigit).takeWhile isBlank, finish, ?_, hword,
      ?_, ?_, hform.1, hform.2⟩, rfl⟩
    · simp only [List.append_assoc, List.cons_append, ← hclose,
        List.takeWhile_append_dropWhile, ← hopen]
    · simp only [List.forall_mem_append]
      exact ⟨⟨fun c => List.mem_takeWhile_imp, fun c => List.mem_takeWhile_imp⟩,
        fun c => List.mem_takeWhile_imp⟩
    · exact fun c => List.mem_takeWhile_imp

theorem exists_cons_behind_digits {behind : List Char}
    (hbehind : ∀ c ∈ behind, isBlank c = true) (finish : List Char) :
    ∃ c rest, behind ++ ')' :: finish = c :: rest ∧ isDecimalDigit c = false := by
  cases behind with
  | nil => exact ⟨')', finish, rfl, by decide⟩
  | cons c rest =>
      refine ⟨c, rest ++ ')' :: finish, rfl, ?_⟩
      rw [Bool.eq_false_iff]
      intro hdigit
      exact Bool.false_ne_true
        ((isBlank_of_isDecimalDigit hdigit).symm.trans (hbehind c List.mem_cons_self))

theorem widthDigits?_of_spellsWidth {declared digits : List Char}
    (h : ColumnType.SpellsWidth declared digits) :
    ColumnType.widthDigits? declared = some (digits.filterMap digitValue?) := by
  obtain ⟨word, before, inside, behind, finish, rfl, hword, hblank, hdigits, hne, hfinish⟩ := h
  simp only [List.forall_mem_append] at hblank
  obtain ⟨⟨hbefore, hinside⟩, hbehind⟩ := hblank
  obtain ⟨d, ds, rfl⟩ := List.exists_cons_of_ne_nil hne
  have hd : isBlank d = false := isBlank_of_isDecimalDigit (hdigits d List.mem_cons_self)
  obtain ⟨c, rest, hrest, hc⟩ := exists_cons_behind_digits hbehind finish
  have hname : ColumnType.afterWord? "VARCHAR".toList
      (word ++ before ++ '(' :: inside ++ (d :: ds) ++ behind ++ ')' :: finish) =
        some (before ++ '(' :: (inside ++ d :: (ds ++ (behind ++ ')' :: finish)))) :=
    afterWord?_eq_some_iff.mpr ⟨word, by simp, hword⟩
  have hopen : (before ++ '(' :: (inside ++ d :: (ds ++ (behind ++ ')' :: finish)))).dropWhile
      isBlank = '(' :: (inside ++ d :: (ds ++ (behind ++ ')' :: finish))) :=
    dropWhile_append_cons hbefore (by decide)
  have hnumber : (inside ++ d :: (ds ++ (behind ++ ')' :: finish))).dropWhile isBlank =
      (d :: ds) ++ c :: rest := by
    rw [dropWhile_append_cons hinside hd, hrest, List.cons_append]
  have hclose : (c :: rest).dropWhile isBlank = ')' :: finish := by
    rw [← hrest, dropWhile_append_cons hbehind (by decide)]
  have hform : ((d :: ds).isEmpty || !(finish == [] || finish == ['\n'])) = false := by
    rcases hfinish with rfl | rfl <;> rfl
  simp only [ColumnType.widthDigits?, Option.bind_eq_bind, hname, Option.bind_some, hopen,
    after?_eq_some_iff.mpr rfl, hnumber, takeWhile_append_cons hdigits hc,
    dropWhile_append_cons hdigits hc, hclose, hform]
  rfl

theorem widthDigits?_eq_some_iff {declared : List Char} {values : List Nat} :
    ColumnType.widthDigits? declared = some values ↔
      ∃ digits, ColumnType.SpellsWidth declared digits ∧ values = digits.filterMap digitValue? := by
  constructor
  · exact spellsWidth_of_widthDigits?
  · rintro ⟨digits, hspells, rfl⟩
    exact widthDigits?_of_spellsWidth hspells

/-- A width with more digits than an integer may have. -/
def ColumnType.TooWide (declared : List Char) : Prop :=
  ∃ digits, ColumnType.SpellsWidth declared digits ∧ digitLimit < digits.length

theorem ColumnType.SpellsWidth.digits {declared digits : List Char}
    (h : ColumnType.SpellsWidth declared digits) : ∀ c ∈ digits, isDecimalDigit c = true := by
  obtain ⟨word, before, inside, behind, finish, -, -, -, hdigits, -⟩ := h
  exact hdigits

theorem keywords_unbracketed : ∀ entry ∈ ColumnType.keywords, '(' ∉ entry.1.toList := by decide

theorem lookup_keywords_eq_none {declared : String} {digits : List Char}
    (h : ColumnType.SpellsWidth declared.toList digits) :
    ColumnType.keywords.lookup (upper declared) = none := by
  obtain ⟨word, before, inside, behind, finish, hdeclared, -⟩ := h
  have hbracket : '(' ∈ declared.toList := by simp [hdeclared]
  cases hlookup : ColumnType.keywords.lookup (upper declared) with
  | none => rfl
  | some type =>
      have hunbracketed := keywords_unbracketed _ (lookup_mem hlookup)
      exact absurd rfl (upper_ne_of_mem (by decide) hbracket hunbracketed)

inductive ColumnType.Parses (declared : String) : Except ConversionFault (Option ColumnType) → Prop
    where
  | empty (hempty : declared = "") : Parses declared (.ok none)
  | keyword {type : ColumnType} (hfound : keywords.lookup (upper declared) = some type) :
      Parses declared (.ok (some type))
  | tooWide {digits : List Char} (hspells : SpellsWidth declared.toList digits)
      (hlong : digitLimit < digits.length) : Parses declared (.error .tooManyDigits)
  | varchar {digits : List Char} (hspells : SpellsWidth declared.toList digits)
      (hshort : digits.length ≤ digitLimit) :
      Parses declared (.ok (some (.varchar (some (natOfDigits (digits.filterMap digitValue?))))))
  | custom (hother : keywords.lookup (upper declared) = none)
      (hplain : ∀ digits, ¬SpellsWidth declared.toList digits) :
      Parses declared (.ok (some (.custom declared)))

theorem parseType_parses (declared : String) :
    ColumnType.Parses declared (ColumnType.parse declared) := by
  unfold ColumnType.parse
  split
  case isTrue hempty => exact .empty (String.isEmpty_iff.mp hempty)
  split
  case h_1 type hfound => exact .keyword hfound
  case h_2 hother =>
    split
    case h_1 values hvalues =>
      obtain ⟨digits, hspells, rfl⟩ := widthDigits?_eq_some_iff.mp hvalues
      rw [length_filterMap_digitValue? hspells.digits]
      split
      case isTrue hlong => exact .tooWide hspells hlong
      case isFalse hshort => exact .varchar hspells (Nat.not_lt.mp hshort)
    case h_2 hnone =>
      refine .custom hother fun digits hspells => ?_
      rw [widthDigits?_of_spellsWidth hspells] at hnone
      cases hnone

theorem parseType_eq_error_iff {declared : String} {fault : ConversionFault} :
    ColumnType.parse declared = .error fault ↔
      fault = .tooManyDigits ∧ ColumnType.TooWide declared.toList := by
  constructor
  · intro h
    have hparses := parseType_parses declared
    rw [h] at hparses
    cases hparses with
    | @tooWide digits hspells hlong => exact ⟨rfl, digits, hspells, hlong⟩
  · rintro ⟨rfl, digits, hspells, hlong⟩
    have hwidth := widthDigits?_eq_some_iff.mpr ⟨digits, hspells, rfl⟩
    have hlookup := lookup_keywords_eq_none hspells
    have hdigits := hspells.digits
    obtain ⟨word, before, inside, behind, finish, hdeclared, -⟩ := hspells
    have hne : declared.isEmpty = false := by
      rw [Bool.eq_false_iff]
      intro hempty
      rw [String.isEmpty_iff.mp hempty] at hdeclared
      simp at hdeclared
    simp [ColumnType.parse, hne, hlookup, hwidth, length_filterMap_digitValue? hdigits, hlong]

/-! ## Rows -/

/-- A row that describes a column by texts of which one has no value. -/
def ColumnRow.Unreadable (row : ColumnRow) : Prop :=
  (∃ declared, row.type = some declared ∧ ColumnType.TooWide declared.toList) ∨
    ∃ text, row.default = some text ∧
      (Literal.TooLong (trim text).toList ∨ Literal.OddBlob (trim text).toList)

theorem exists_error_bind_iff {α β ε : Type} {x : Except ε α} {f : α → Except ε β} {P : Prop}
    (hf : ∀ a, (∃ e, f a = .error e) ↔ P) :
    (∃ e, x >>= f = .error e) ↔ (∃ e, x = .error e) ∨ P := by
  cases x with
  | error e => exact ⟨fun _ => .inl ⟨e, rfl⟩, fun _ => ⟨e, rfl⟩⟩
  | ok a =>
      rw [← hf a]
      exact ⟨.inr, fun h => h.resolve_left nofun⟩

theorem exists_error_pure_iff {α ε : Type} {a : α} :
    (∃ e, (pure a : Except ε α) = .error e) ↔ False :=
  ⟨nofun, False.elim⟩

theorem parseType?_error_iff {declared : Option String} :
    (∃ fault, ColumnType.parse? declared = .error fault) ↔
      ∃ text, declared = some text ∧ ColumnType.TooWide text.toList := by
  cases declared <;> simp [ColumnType.parse?, parseType_eq_error_iff]

theorem parse?_error_iff {default : Option String} :
    (∃ fault, Literal.parse? default = .error fault) ↔
      ∃ text, default = some text ∧
        (Literal.TooLong (trim text).toList ∨ Literal.OddBlob (trim text).toList) := by
  cases default with
  | none => simp [Literal.parse?]
  | some text =>
      have hmap : (∃ fault, (Literal.parse text).map some = .error fault) ↔
          ∃ fault, Literal.parse text = .error fault := by
        cases Literal.parse text <;> simp [Except.map]
      simp only [Literal.parse?, Option.elim_some, hmap, parse_eq_error_iff, exists_or,
        exists_eq_left, Option.some.injEq, exists_eq_left']

theorem toColumn_error_iff {row : ColumnRow} :
    (∃ fault, row.toColumn = .error fault) ↔ row.Unreadable := by
  rw [ColumnRow.toColumn, ColumnRow.Unreadable, ← parseType?_error_iff, ← parse?_error_iff]
  refine exists_error_bind_iff fun type => ?_
  rw [exists_error_bind_iff fun default => exists_error_pure_iff, or_false]

theorem mapM_toColumn_error_iff {rows : List ColumnRow} :
    (∃ fault, rows.mapM ColumnRow.toColumn = .error fault) ↔ ∃ row ∈ rows, row.Unreadable := by
  induction rows with
  | nil => simp [pure, Except.pure]
  | cons row rest ih =>
      have hrest : ∀ column : Column,
          (∃ fault, (rest.mapM ColumnRow.toColumn >>= fun columns => pure (column :: columns)) =
            .error fault) ↔ ∃ row ∈ rest, row.Unreadable := by
        intro column
        rw [exists_error_bind_iff fun columns => exists_error_pure_iff, or_false, ih]
      rw [List.mapM_cons, exists_error_bind_iff hrest, toColumn_error_iff]
      simp

end RecordLoom.Catalog
