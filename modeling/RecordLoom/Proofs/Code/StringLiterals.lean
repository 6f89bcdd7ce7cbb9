import RecordLoom.Code.Printer

/-!
# String literals

A string literal is read from its opening quote on: a backslash and the character behind it stand
for one character, and the first quote without a backslash ends the literal.  Whatever follows a
printed literal, reading ends where the literal does and gives back the text that was printed.
-/

namespace RecordLoom.Code

namespace StringLiteral

/-- The character that a backslash and a character behind it stand for. -/
def escaped? : Char → Option Char
  | '\\' => some '\\'
  | '"' => some '"'
  | 'n' => some '\n'
  | 'r' => some '\r'
  | 't' => some '\t'
  | _ => none

/-- Reads up to the first quote without a backslash: what has been read, and what follows the
quote. -/
def readBody? : List Char → Option (List Char × List Char)
  | [] => none
  | '"' :: rest => some ([], rest)
  | '\\' :: [] => none
  | '\\' :: mark :: rest =>
      (escaped? mark).bind fun c => (readBody? rest).map (·.map (c :: ·) id)
  | c :: rest => (readBody? rest).map (·.map (c :: ·) id)

/-- Reads a literal at the start of a text: its value, and what follows the literal. -/
def read? (text : String) : Option (String × String) :=
  match text.toList with
  | '"' :: rest =>
      (readBody? rest).map fun (value, following) => (.ofList value, .ofList following)
  | _ => none

end StringLiteral

open StringLiteral

namespace Printer

/-! ## One character -/

def isEscaped (c : Char) : Bool := c = '\\' || c = '"' || c = '\n' || c = '\r' || c = '\t'

def isControl (c : Char) : Bool := c = '\n' || c = '\r' || c = '\t'

theorem escapeChar_cases (c : Char) :
    isEscaped c = false ∧ escapeChar c = [c] ∨
      ∃ mark, isControl mark = false ∧ escapeChar c = ['\\', mark] ∧ escaped? mark = some c := by
  unfold escapeChar
  split
  case h_6 hbackslash hquote hfeed hreturn htab =>
      left
      simp_all [isEscaped]
  all_goals exact .inr ⟨_, by decide, rfl, rfl⟩

theorem readBody?_plain {c : Char} (hc : isEscaped c = false) (rest : List Char) :
    readBody? (c :: rest) = (readBody? rest).map (·.map (c :: ·) id) := by
  have hquote : c ≠ '"' := by
    rintro rfl
    cases hc
  have hbackslash : c ≠ '\\' := by
    rintro rfl
    cases hc
  rw [readBody?] <;> simp [hquote, hbackslash]

theorem readBody?_escapeChar (c : Char) (rest : List Char) :
    readBody? (escapeChar c ++ rest) = (readBody? rest).map (·.map (c :: ·) id) := by
  rcases escapeChar_cases c with ⟨hplain, hc⟩ | ⟨mark, -, hc, hmark⟩
  · rw [hc, List.singleton_append, readBody?_plain hplain]
  · rw [hc, List.cons_append, List.singleton_append, readBody?, hmark, Option.bind_some]

theorem not_mem_escapeChar {d : Char} (hd : isControl d = true) (c : Char) :
    d ∉ escapeChar c := by
  rcases escapeChar_cases c with ⟨hplain, hc⟩ | ⟨mark, hmark, hc, -⟩
  · rw [hc, List.mem_singleton]
    rintro rfl
    simp_all [isEscaped, isControl]
  · rw [hc]
    rintro hmem
    simp only [List.mem_cons, List.not_mem_nil, or_false] at hmem
    rcases hmem with rfl | rfl
    · cases hd
    · exact Bool.false_ne_true (hmark.symm.trans hd)

/-! ## A literal -/

theorem readBody?_escaped (cs rest : List Char) :
    readBody? (cs.flatMap escapeChar ++ '"' :: rest) = some (cs, rest) := by
  induction cs with
  | nil => rfl
  | cons c cs ih =>
      rw [List.flatMap_cons, List.append_assoc, readBody?_escapeChar, ih]
      rfl

theorem read?_stringText (s following : String) :
    read? (stringText s ++ following) = some (s, following) := by
  have htext : (stringText s ++ following).toList =
      '"' :: (s.toList.flatMap escapeChar ++ '"' :: following.toList) := by
    simp [stringText]
  rw [read?, htext]
  simp only [readBody?_escaped, Option.map_some, String.ofList_toList]

theorem not_mem_stringText {d : Char} (hd : isControl d = true) (s : String) :
    d ∉ (stringText s).toList := by
  have hquote : d ≠ '"' := by
    rintro rfl
    cases hd
  simp [stringText, hquote, not_mem_escapeChar hd]

theorem writeExpression_stringLiteral (p : Printer) (level : Nat) (s : String) (b : Buffer) :
    p.writeExpression level (.stringLiteral s) b = .ok (b.append (stringText s)) := by
  rw [writeExpression.eq_def]
  rfl

/-- A literal is printed for every text, the same one at every place.  It has no line ends and no
tabs, and a reader comes to its end, whatever follows, with the text that it stands for. -/
theorem stringLiteral_readBack (p : Printer) (s : String) :
    ∃ text, p.literalText (.stringLiteral s) = .ok text ∧
      (∀ level b, p.writeExpression level (.stringLiteral s) b = .ok (b.append text)) ∧
      (∀ following, read? (text ++ following) = some (s, following)) ∧
      '\n' ∉ text.toList ∧ '\r' ∉ text.toList ∧ '\t' ∉ text.toList :=
  ⟨stringText s, rfl, fun level b => p.writeExpression_stringLiteral level s b,
    read?_stringText s, not_mem_stringText rfl s, not_mem_stringText rfl s,
    not_mem_stringText rfl s⟩

end Printer

end RecordLoom.Code
