import RecordLoom.Proofs.Code.UnitOccurrences
import RecordLoom.Proofs.Text.CaseImages

/-!
# How types are spelled

A declaration puts the name of its type in quotes if it is a reserved word, and so does an
expression that is a name.  A type reference has the name as it is.  So a type is spelled alike
throughout a unit exactly if its name is no reserved word, or no type reference has it.
-/

namespace RecordLoom.Code

namespace Part

/-- The name by which a part refers to a type: that of a type reference, or that of an expression
for a type with members. -/
def referred? : Part → Option String
  | .type (.namedType name _) => some name
  | .expression (.variableRef name) => some name
  | _ => none

def isType : Part → Bool
  | .type _ => true
  | _ => false

end Part

def Names (name text : String) : Prop :=
  text = name ∨ ∃ arguments, text = name ++ "<" ++ arguments ++ ">"

theorem Names.head? {name text : String} (h : Names name text) {c : Char}
    (hc : name.toList.head? = some c) : text.toList.head? = some c := by
  rcases h with rfl | ⟨arguments, rfl⟩
  · exact hc
  · simp [List.head?_append, hc]

theorem Spelling.exists_of_isReserved {name : String} (h : Spelling.swift.isReserved name = true) :
    ∃ c, name.toList.head? = some c ∧ c.isLower = true := by
  have hall : ∀ word ∈ Spelling.swiftReservedWords, word.toList.head?.any Char.isLower = true := by
    decide
  exact (Option.any_eq_true ..).mp (hall name (List.contains_iff_mem.mp h))

theorem Spelling.identifier_of_not_isReserved {s : Spelling} {name : String}
    (h : s.isReserved name = false) : s.identifier name = name := by
  rw [identifier, h, if_neg Bool.false_ne_true]

/-- No text is a reserved word both with and without quotes. -/
theorem Spelling.not_names_identifier {name text : String}
    (hreserved : Spelling.swift.isReserved name = true) (h : Names name text) :
    ¬Names (Spelling.swift.identifier name) text := by
  intro hquoted
  obtain ⟨c, hc, hlower⟩ := exists_of_isReserved hreserved
  have hquote : (Spelling.swift.identifier name).toList.head? = some '`' := by
    rw [identifier, hreserved, if_pos rfl, quote]
    simp [Spelling.swift]
  obtain rfl : c = '`' := Option.some.inj ((h.head? hc).symm.trans (hquoted.head? hquote))
  exact absurd hlower (by decide)

namespace Printer

variable {p : Printer}

/-- A text is the first line of a type up to its name, and what may follow. -/
def DeclaresAs (p : Printer) (d : TypeDef) (name text : String) : Prop :=
  ∃ omitted keyword rest, p.spelling.typeKeyword? d.kind = some keyword ∧
    text = p.visibilityText d.visibility omitted ++ keyword ++ " " ++ name ++ rest

theorem Declares.quoted {d : TypeDef} {text : String} (h : p.Declares d text) :
    p.DeclaresAs d (p.spelling.identifier d.name) text := by
  obtain ⟨omitted, hhead⟩ := h
  obtain ⟨keyword, hkeyword, hhead⟩ := bind_eq_ok hhead
  obtain ⟨texts, -, hhead⟩ := bind_eq_ok hhead
  cases hhead
  have hkeyword := eq_some_of_spelled hkeyword
  split
  · exact ⟨omitted, keyword, "", hkeyword, by simp⟩
  · exact ⟨omitted, keyword, p.style.conformanceSeparator ++ p.join texts, hkeyword,
      by simp [String.append_assoc]⟩

theorem Writes.names {part : Part} {name text : String} (h : p.Writes part text)
    (hname : part.referred? = some name) :
    Names (if part.isType then name else p.spelling.identifier name) text := by
  cases h with
  | @type node _ h =>
      cases node with
      | namedType _ arguments =>
          obtain rfl := Option.some.inj hname
          obtain ⟨texts, -, h⟩ := bind_eq_ok h
          cases h
          cases arguments with
          | nil => exact .inl rfl
          | cons => exact .inr ⟨p.join texts, rfl⟩
      | _ => cases hname
  | @expression node _ level b b' h htext =>
      cases node with
      | variableRef _ =>
          obtain rfl := Option.some.inj hname
          cases h
          rw [Buffer.text_append] at htext
          exact .inl ((String.append_right_inj _).mp htext).symm
      | _ => cases hname
  | noResult => cases hname
  | statement => cases hname
  | value => cases hname
  | definition => cases hname

end Printer

namespace CompilationUnit

/-- Wherever a unit refers to a type, it spells the name as the declaration of the type does. -/
def SpellsAlike (u : CompilationUnit) (p : Printer) (d : TypeDef) : Prop :=
  ∀ part written, u.Holds part → part.referred? = some d.name → p.Writes part written →
    Names (p.spelling.identifier d.name) written

/-- How the text of a unit spells the names of types. -/
structure Spelled (u : CompilationUnit) (p : Printer) (text : String) : Prop where
  declared : ∀ d ∈ u.structures, Contains (p.DeclaresAs d (p.spelling.identifier d.name)) text
  written : ∀ part, u.Holds part → Contains (p.Writes part) text
  /-- Expressions put a reserved word in quotes, and type references do not. -/
  referred : ∀ part name written, part.referred? = some name → p.Writes part written →
    Names (if part.isType then name else p.spelling.identifier name) written
  /-- Types whose names are reserved words are spelled alike only if no type reference has them. -/
  alike : ∀ d, u.SpellsAlike p d ↔ (p.spelling.isReserved d.name = true →
    ∀ arguments, ¬u.Holds (.type (.namedType d.name arguments)))

theorem render_spelled {u : CompilationUnit} {style : Style} {text : String}
    (h : u.render style .swift = .ok text) : u.Spelled ⟨style, .swift⟩ text := by
  obtain ⟨hdeclared, hwritten⟩ :=
    contains_render (p := ⟨style, .swift⟩) Spelling.swift_fillsTypes h
  refine ⟨fun d hd => (hdeclared d hd).trans fun _ hhead => .whole hhead.quoted, hwritten,
    fun _ _ _ hname hpart => hpart.names hname, fun d => ⟨?_, ?_⟩⟩
  · intro halike hreserved arguments hheld
    obtain ⟨_, written, _, -, hpart⟩ := hwritten _ hheld
    exact Spelling.not_names_identifier hreserved (hpart.names rfl)
      (halike _ written hheld rfl hpart)
  · intro hfree part written hheld hname hpart
    have hnames := hpart.names hname
    cases part with
    | type node =>
        cases node with
        | namedType _ arguments =>
            obtain rfl := Option.some.inj hname
            have hplain : Spelling.swift.isReserved d.name = false :=
              eq_false_of_ne_true fun hreserved => hfree hreserved arguments hheld
            rwa [Spelling.identifier_of_not_isReserved hplain]
        | _ => cases hname
    | expression => exact hnames
    | statement | definition => cases hname

end CompilationUnit

end RecordLoom.Code
