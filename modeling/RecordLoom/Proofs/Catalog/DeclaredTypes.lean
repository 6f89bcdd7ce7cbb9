import RecordLoom.Proofs.Catalog.Reading
import RecordLoom.Proofs.Number.Integers

/-!
# Normal forms of declared types

Many texts declare one type: words in any case, aliases, and widths with white space, zeros in front
or the digits of any script.  The spelling of a type that has been read is one of them, so it is
read as the same type, and texts declare the same type exactly if these spellings agree.
-/

namespace RecordLoom.Catalog

open RecordLoom.Number
open RecordLoom.Text

/-! ## What a spelling is read as -/

theorem keywords_spelling : ∀ entry ∈ ColumnType.keywords,
    ColumnType.parse entry.2.spelling = .ok (some entry.2) := by
  decide +kernel

theorem toList_spelling (width : Nat) :
    (ColumnType.varchar (some width)).spelling.toList =
      "VARCHAR(".toList ++ (Nat.toDigits 10 width ++ [')']) := by
  have hspelling : (ColumnType.varchar (some width)).spelling =
      "VARCHAR(" ++ String.ofList (Nat.toDigits 10 width) ++ ")" := by
    rw [← Nat.toString_eq_ofList_toDigits]
    rfl
  simp [hspelling]

theorem isDecimalDigit_of_mem_toDigits {width : Nat} {c : Char}
    (hc : c ∈ Nat.toDigits 10 width) : isDecimalDigit c = true := by
  have hdigit := Nat.isDigit_of_mem_toDigits (by decide) (by decide) hc
  rw [isDecimalDigit, digitValue?_of_isDigit hdigit, Option.isSome_some]

theorem spelling_spellsWidth (width : Nat) :
    ColumnType.SpellsWidth (ColumnType.varchar (some width)).spelling.toList
      (Nat.toDigits 10 width) := by
  refine ⟨"VARCHAR".toList, [], [], [], [], ?_, by decide, nofun,
    fun c => isDecimalDigit_of_mem_toDigits, Nat.toDigits_ne_nil, .inl rfl⟩
  rw [toList_spelling]
  simp

theorem parse_spelling_varchar {width : Nat} (h : width < 10 ^ digitLimit) :
    ColumnType.parse (ColumnType.varchar (some width)).spelling =
      .ok (some (.varchar (some width))) := by
  have hspells := spelling_spellsWidth width
  have hne : (ColumnType.varchar (some width)).spelling.isEmpty = false := by
    rw [← Bool.not_eq_true, String.isEmpty_iff, ← String.toList_eq_nil_iff, toList_spelling]
    simp
  have hdigits : ((Nat.toDigits 10 width).filterMap digitValue?).length ≤ digitLimit := by
    rw [length_filterMap_digitValue? hspells.digits]
    exact (Nat.length_toDigits_le_iff (by decide) (by decide)).mpr h
  simp [ColumnType.parse, hne, lookup_keywords_eq_none hspells,
    widthDigits?_eq_some_iff.mpr ⟨_, hspells, rfl⟩, Nat.not_lt.mpr hdigits, natOfDigits_toDigits]

/-! ## What a declared type is read as -/

theorem parse_eq_some_cases {declared : String} {type : ColumnType}
    (h : ColumnType.parse declared = .ok (some type)) :
    (∃ word, (word, type) ∈ ColumnType.keywords) ∨
      (∃ width < 10 ^ digitLimit, type = .varchar (some width)) ∨ type = .custom declared := by
  have hparses := parseType_parses declared
  rw [h] at hparses
  cases hparses with
  | keyword hfound => exact .inl ⟨_, lookup_mem hfound⟩
  | @varchar digits hspells hshort =>
      have hsmall : ∀ d ∈ digits.filterMap digitValue?, d < 10 := by
        intro d hd
        obtain ⟨c, -, hvalue⟩ := List.mem_filterMap.mp hd
        exact digitValue?_lt hvalue
      rw [← length_filterMap_digitValue? hspells.digits] at hshort
      refine .inr (.inl ⟨_, ?_, rfl⟩)
      calc natOfDigits (digits.filterMap digitValue?)
        _ < 10 ^ (digits.filterMap digitValue?).length := natOfDigits_lt hsmall
        _ ≤ 10 ^ digitLimit := Nat.pow_le_pow_right (by decide) hshort
  | custom => exact .inr (.inr rfl)

theorem parseType_eq_none_iff {declared : String} :
    ColumnType.parse declared = .ok none ↔ declared = "" := by
  constructor
  · intro h
    have hparses := parseType_parses declared
    rw [h] at hparses
    cases hparses with
    | empty hempty => exact hempty
  · rintro rfl
    rfl

theorem parse_spelling {declared : String} {type : ColumnType}
    (h : ColumnType.parse declared = .ok (some type)) :
    ColumnType.parse type.spelling = .ok (some type) := by
  rcases parse_eq_some_cases h with ⟨word, hword⟩ | ⟨width, hwidth, rfl⟩ | rfl
  · exact keywords_spelling _ hword
  · exact parse_spelling_varchar hwidth
  · exact h

theorem spelling_inj {declared other : String} {type again : ColumnType}
    (h : ColumnType.parse declared = .ok (some type))
    (hother : ColumnType.parse other = .ok (some again)) (hsame : again.spelling = type.spelling) :
    again = type := by
  have hagain := parse_spelling hother
  rw [hsame, parse_spelling h] at hagain
  exact (Option.some.inj (Except.ok.inj hagain)).symm

/-- A declared type that can be read has a normal form, which is read as the same type: the spelling
of the type.  Texts that can be read declare the same type exactly if they have the same normal
form, and a column whose declared type is replaced by the normal form is the same column.  -/
theorem parse_normalForm {declared : String} {parsed : Option ColumnType} (hne : declared ≠ "")
    (h : ColumnType.parse declared = .ok parsed) :
    ∃ type, parsed = some type ∧ ColumnType.parse type.spelling = .ok parsed ∧
      (∀ other again, ColumnType.parse other = .ok (some again) →
        (again.spelling = type.spelling ↔
          ColumnType.parse other = ColumnType.parse declared)) ∧
      ∀ row : ColumnRow, row.type = some declared →
        { row with type := some type.spelling }.toColumn = row.toColumn := by
  obtain ⟨type, rfl⟩ : ∃ type, parsed = some type := by
    refine Option.ne_none_iff_exists'.mp ?_
    rintro rfl
    exact hne (parseType_eq_none_iff.mp h)
  have hspelling := parse_spelling h
  refine ⟨type, rfl, hspelling, ?_, ?_⟩
  · intro other again hother
    constructor
    · intro hsame
      rw [hother, h, spelling_inj h hother hsame]
    · intro hsame
      rw [hother, h] at hsame
      rw [Option.some.inj (Except.ok.inj hsame)]
  · intro row hrow
    simp only [ColumnRow.toColumn, ColumnType.parse?, hrow, Option.elim_some, hspelling, h]

/-- The width is written in Arabic digits with a zero in front. -/
theorem varchar_normalForm :
    ColumnType.parse "varchar ( ٠١٢ )\n" = .ok (some (.varchar (some 12))) ∧
      ∃ type, some (ColumnType.varchar (some 12)) = some type ∧
        ColumnType.parse type.spelling = .ok (some (.varchar (some 12))) ∧
        (∀ other again, ColumnType.parse other = .ok (some again) →
          (again.spelling = type.spelling ↔
            ColumnType.parse other = ColumnType.parse "varchar ( ٠١٢ )\n")) ∧
        ∀ row : ColumnRow, row.type = some "varchar ( ٠١٢ )\n" →
          { row with type := some type.spelling }.toColumn = row.toColumn := by
  have hparse : ColumnType.parse "varchar ( ٠١٢ )\n" = .ok (some (.varchar (some 12))) := by
    decide +kernel
  exact ⟨hparse, parse_normalForm (by decide) hparse⟩

end RecordLoom.Catalog
