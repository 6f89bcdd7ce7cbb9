import RecordLoom.Proofs.Catalog.Reading
import RecordLoom.Proofs.Text.CaseImages
import Mathlib.Data.Bool.AllAny

/-!
# Affinities of declared types

The engine gives a column the affinity that certain words in its declared type stand for, wherever
they stand in it.  A type that has been read has this affinity unless it is a `VARCHAR`: the engine
takes this one for text, by the word `CHAR` in it, and its affinity here is numeric.
-/

namespace RecordLoom

/-! ## Parts of a text -/

namespace Text

theorem containsChars_iff {pattern cs : List Char} :
    containsChars pattern cs = true ↔ pattern <:+: cs := by
  induction cs with
  | nil => simp [containsChars]
  | cons c rest ih => simp [containsChars, ih, List.infix_cons_iff]

theorem contains_iff {pattern s : String} :
    contains pattern s = true ↔ pattern.toList <:+: s.toList :=
  containsChars_iff

end Text

namespace Catalog

open RecordLoom.Number
open RecordLoom.Text

/-! ## The rule of the engine -/

def HoldsOne (words : List String) (capitals : String) : Prop :=
  ∃ word ∈ words, word.toList <:+: capitals.toList

/-- The affinity of a declared type by its text in capitals. -/
inductive Affinity.Suits (capitals : String) : Affinity → Prop
  | integer : HoldsOne ["INT"] capitals → Suits capitals .integer
  | text : ¬HoldsOne ["INT"] capitals → HoldsOne ["CHAR", "CLOB", "TEXT"] capitals →
      Suits capitals .text
  | blob : ¬HoldsOne ["INT", "CHAR", "CLOB", "TEXT"] capitals → HoldsOne ["BLOB"] capitals →
      Suits capitals .blob
  | real : ¬HoldsOne ["INT", "CHAR", "CLOB", "TEXT", "BLOB"] capitals →
      HoldsOne ["REAL", "FLOA", "DOUB"] capitals → Suits capitals .real
  | numeric :
      ¬HoldsOne ["INT", "CHAR", "CLOB", "TEXT", "BLOB", "REAL", "FLOA", "DOUB"] capitals →
      Suits capitals .numeric

theorem holdsOne_cons {word : String} {words : List String} {capitals : String} :
    HoldsOne (word :: words) capitals ↔
      contains word capitals = true ∨ HoldsOne words capitals := by
  simp [HoldsOne, contains_iff]

theorem not_holdsOne_nil {capitals : String} : ¬HoldsOne [] capitals := by
  simp [HoldsOne]

theorem Affinity.suits_iff {name : String} {affinity : Affinity} :
    affinity.Suits (upper name) ↔ affinity = .ofName name := by
  constructor
  · intro h
    cases h <;> simp only [holdsOne_cons, not_holdsOne_nil, or_false] at * <;>
      grind [Affinity.ofName]
  · intro h
    rw [h]
    fun_cases Affinity.ofName <;> constructor <;>
      simp only [holdsOne_cons, not_holdsOne_nil, or_false] <;> grind

/-! ## Types that have been read -/

/-- A declared type that is read as a `VARCHAR`: the word alone, or with a width. -/
def ColumnType.SpellsVarchar (declared : String) : Prop :=
  upper declared = "VARCHAR" ∨ ∃ digits, ColumnType.SpellsWidth declared.toList digits

theorem keywords_affinity : ∀ entry ∈ ColumnType.keywords,
    upper entry.1 = entry.1 ∧
      (entry.1 = "VARCHAR" → entry.2 = .varchar none) ∧
      (entry.1 ≠ "VARCHAR" → entry.2.affinity = .ofName entry.1) := by
  decide +kernel

theorem ColumnType.SpellsWidth.upper {declared digits : List Char}
    (h : ColumnType.SpellsWidth declared digits) :
    ∃ rest, upperChars declared = "VARCHAR".toList ++ rest ∧
      ∀ c ∈ rest, isBlank c = true ∨ isDecimalDigit c = true ∨ c = '(' ∨ c = ')' := by
  obtain ⟨word, before, inside, behind, finish, hdeclared, hword, hblank, hdigits, -, hfinish⟩ := h
  let rest := before ++ '(' :: inside ++ digits ++ behind ++ ')' :: finish
  have hrest : ∀ c ∈ rest, isBlank c = true ∨ isDecimalDigit c = true ∨ c = '(' ∨ c = ')' := by
    have hline : isBlank '\n' = true := by decide
    simp only [rest, List.mem_append, List.mem_cons] at hblank ⊢
    grind
  have hstays : ∀ c ∈ rest, upperOf c = [c] := by
    intro c hc
    rcases hrest c hc with hblank | hdigit | rfl | rfl
    · exact upperOf_of_caseless (.inl hblank)
    · exact upperOf_of_caseless (.inr hdigit)
    · decide
    · decide
  refine ⟨rest, ?_, hrest⟩
  have hsplit : declared = word ++ rest := by simp [hdeclared, rest]
  have hascii : ∀ c ∈ "VARCHAR".toList, c.toNat < 128 :=
    List.all_iff_forall_prop.mp (by decide)
  rw [hsplit, upperChars_append, upperChars_of_map_toUpper hascii hword,
    upperChars_of_stays hstays]

theorem suits_of_spellsVarchar {declared : String} (h : ColumnType.SpellsVarchar declared) :
    Affinity.text.Suits (upper declared) := by
  rcases h with hword | ⟨digits, hwidth⟩
  case inl =>
    have hupper : upper "VARCHAR" = "VARCHAR" := by decide +kernel
    rw [hword, ← hupper, Affinity.suits_iff]
    decide +kernel
  case inr =>
    obtain ⟨rest, hupper, hrest⟩ := hwidth.upper
    have htext : (upper declared).toList = "VARCHAR".toList ++ rest := by
      rw [upper, String.toList_ofList, hupper]
    constructor
    · rintro ⟨word, hword, hinfix⟩
      obtain rfl : word = "INT" := by simpa using hword
      have hmem : 'I' ∈ (upper declared).toList := hinfix.subset (by decide)
      rw [htext, List.mem_append] at hmem
      rcases hmem with hname | hbehind
      · revert hname
        decide
      · exact absurd (hrest 'I' hbehind) (by decide)
    · have hname : "CHAR".toList <:+: "VARCHAR".toList := ⟨"VAR".toList, [], rfl⟩
      refine ⟨"CHAR", by simp, ?_⟩
      rw [htext]
      exact hname.trans (List.prefix_append "VARCHAR".toList rest).isInfix

theorem parseType_cases {declared : String} {parsed : Option ColumnType} (hne : declared ≠ "")
    (h : ColumnType.parse declared = .ok parsed) :
    (ColumnType.SpellsVarchar declared ∧ ∃ width, parsed = some (.varchar width)) ∨
      (¬ColumnType.SpellsVarchar declared ∧
        ∃ type, parsed = some type ∧ type.affinity.Suits (upper declared)) := by
  have hparses := parseType_parses declared
  rw [h] at hparses
  cases hparses with
  | empty hempty => exact absurd hempty hne
  | @keyword type hfound =>
      have hkeyword := keywords_affinity _ (lookup_mem hfound)
      simp only at hkeyword
      obtain ⟨hupper, hvarchar, haffinity⟩ := hkeyword
      by_cases hword : upper declared = "VARCHAR"
      case pos => exact .inl ⟨.inl hword, none, congrArg some (hvarchar hword)⟩
      case neg =>
        have hsuits : type.affinity.Suits (upper declared) := by
          rw [← hupper, Affinity.suits_iff]
          exact haffinity hword
        refine .inr ⟨?_, type, rfl, hsuits⟩
        rintro (hsame | ⟨digits, hwidth⟩)
        · exact hword hsame
        · simp [lookup_keywords_eq_none hwidth] at hfound
  | @varchar digits hwidth => exact .inl ⟨.inr ⟨digits, hwidth⟩, _, rfl⟩
  | custom hother hplain =>
      have hsuits : (ColumnType.custom declared).affinity.Suits (upper declared) := by
        rw [Affinity.suits_iff, ColumnType.affinity]
      refine .inr ⟨?_, .custom declared, rfl, hsuits⟩
      rintro (hsame | ⟨digits, hwidth⟩)
      · rw [hsame] at hother
        exact absurd hother (by decide)
      · exact hplain digits hwidth

/-- A declared type that can be read has the affinity that the engine gives it exactly if it is no
`VARCHAR`.  The affinity of a `VARCHAR` is numeric here and text for the engine. -/
theorem parse_affinity {declared : String} {parsed : Option ColumnType} (hne : declared ≠ "")
    (h : ColumnType.parse declared = .ok parsed) :
    ∃ type, parsed = some type ∧
      (type.affinity.Suits (upper declared) ↔ ¬ColumnType.SpellsVarchar declared) ∧
      (ColumnType.SpellsVarchar declared →
        type.affinity = .numeric ∧ Affinity.text.Suits (upper declared)) := by
  rcases parseType_cases hne h with ⟨hvarchar, width, rfl⟩ | ⟨hvarchar, type, rfl, hsuits⟩
  · have htext := suits_of_spellsVarchar hvarchar
    refine ⟨.varchar width, rfl, ?_, fun _ => ⟨rfl, htext⟩⟩
    have hnot : ¬(ColumnType.varchar width).affinity.Suits (upper declared) := by
      intro hsuits
      have hsame := (Affinity.suits_iff.mp hsuits).trans (Affinity.suits_iff.mp htext).symm
      cases hsame
    exact iff_of_false hnot (not_not_intro hvarchar)
  · exact ⟨type, rfl, iff_of_true hsuits hvarchar, fun h => absurd h hvarchar⟩

theorem varchar_affinity :
    ColumnType.parse "varchar(10)" = .ok (some (.varchar (some 10))) ∧
      ColumnType.SpellsVarchar "varchar(10)" ∧
      ∃ type, some (ColumnType.varchar (some 10)) = some type ∧
        (type.affinity.Suits (upper "varchar(10)") ↔
          ¬ColumnType.SpellsVarchar "varchar(10)") ∧
        (ColumnType.SpellsVarchar "varchar(10)" →
          type.affinity = .numeric ∧ Affinity.text.Suits (upper "varchar(10)")) := by
  have hparse : ColumnType.parse "varchar(10)" = .ok (some (.varchar (some 10))) := by
    decide +kernel
  have hspells : ColumnType.SpellsWidth "varchar(10)".toList "10".toList :=
    ⟨"varchar".toList, [], [], [], [], by decide, by decide, nofun,
      List.all_eq_true.mp (by decide), by decide⟩
  exact ⟨hparse, .inr ⟨_, hspells⟩, parse_affinity (by decide) hparse⟩

end Catalog

end RecordLoom
