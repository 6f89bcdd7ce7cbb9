import RecordLoom.Code.Unit

/-!
# What is written, but for white space

The ink of a text is what is left of it without white space.  Line ends, indentation and the blanks
that keep things apart have no ink, so that what a printer puts on lines has the ink of the texts
that it is given, on however many lines they come to stand.
-/

namespace RecordLoom

namespace Text

/-- The characters of a text that are no white space, in their order. -/
def ink (s : String) : List Char := s.toList.filter fun c => !isBlank c

@[simp] theorem ink_empty : ink "" = [] := by simp [ink]

@[simp] theorem ink_append (s t : String) : ink (s ++ t) = ink s ++ ink t := by simp [ink]

theorem ink_blank : ink " " = [] := by decide

theorem ink_join (texts : List String) : ink (String.join texts) = texts.flatMap ink := by
  rw [ink, String.toList_join, List.filter_flatMap]
  rfl

theorem ink_intercalate (separator : String) (texts : List String) :
    ink (separator.intercalate texts) = (ink separator).intercalate (texts.map ink) := by
  rw [ink, String.toList_intercalate]
  induction texts with
  | nil => rfl
  | cons text rest ih =>
      cases rest with
      | nil => simp [ink]
      | cons next rest =>
          simp only [List.map_cons, List.intercalate_cons_cons, List.filter_append] at ih ⊢
          rw [ih]
          rfl

end Text

namespace Code

open Text

namespace Buffer

def ink (b : Buffer) : List Char := Text.ink b.text

@[simp] theorem ink_text (b : Buffer) : Text.ink b.text = b.ink := rfl

@[simp] theorem ink_empty : Buffer.empty.ink = [] := by decide

@[simp] theorem ink_append (b : Buffer) (text : String) :
    (b.append text).ink = b.ink ++ Text.ink text := by
  unfold Buffer.append
  split
  case isTrue h => simp [String.isEmpty_iff.mp h]
  case isFalse => simp [Buffer.ink, Buffer.text, Text.ink_join, -ink_text]

theorem ink_append_congr {b c : Buffer} (h : b.ink = c.ink) {text text' : String}
    (htext : Text.ink text = Text.ink text') : (b.append text).ink = (c.append text').ink := by
  rw [ink_append, ink_append, h, htext]

theorem ink_ensure {finish : String} (h : Text.ink finish = []) (b : Buffer) :
    (b.ensure finish).ink = b.ink := by
  unfold ensure
  split
  · rfl
  · simp [h]

end Buffer

/-- Indentation and line ends are white space, and items of a list have a comma between them. -/
structure Style.Spaced (s : Style) : Prop where
  indent : ink s.indent = []
  eol : ink s.eol = []
  separator : ink s.listSeparator = [',']

namespace Printer

variable {p : Printer} (h : p.style.Spaced)

def commaJoined (items : List String) : String := ",".intercalate items

theorem ink_commaLines (items : List String) :
    (commaLines items).flatMap ink = ink (commaJoined items) := by
  rw [commaJoined, ink_intercalate]
  induction items with
  | nil => rfl
  | cons item rest ih =>
      cases rest with
      | nil => simp [commaLines]
      | cons next rest =>
          simp only [List.map_cons, List.intercalate_cons_cons] at ih ⊢
          rw [commaLines, List.flatMap_cons, ih, ink_append]
          nofun

include h

theorem ink_join (items : List String) : ink (p.join items) = ink (commaJoined items) := by
  have hcomma : ink "," = [','] := by decide
  rw [join, commaJoined, ink_intercalate, ink_intercalate, h.separator, hcomma]

theorem ink_indent (level : Nat) : ink (p.indent level) = [] := by
  rw [indent, Text.ink_join, List.flatMap_eq_nil_iff]
  intro text htext
  rw [List.eq_of_mem_replicate htext, h.indent]

theorem ink_line (level : Nat) (text : String) (b : Buffer) :
    (p.line level text b).ink = b.ink ++ ink text := by
  unfold line
  dsimp only
  split
  case isTrue hempty => simp [String.isEmpty_iff.mp hempty, h.eol]
  case isFalse => simp [ink_indent h, h.eol]

theorem ink_blankLine (b : Buffer) : (p.blankLine b).ink = b.ink := by
  simp [blankLine, h.eol]

theorem ink_lines (level : Nat) (texts : List String) (b : Buffer) :
    (p.lines level texts b).ink = b.ink ++ texts.flatMap ink := by
  unfold lines
  induction texts generalizing b with
  | nil => simp
  | cons text rest ih => simp [ih, ink_line h]

omit h in
theorem ink_openBlock (start : String) (b : Buffer) :
    (openBlock start b).ink = b.ink ++ ink "\x7b" ++ ink start := by
  simp [openBlock]

theorem ink_closeBlock (level : Nat) (finish : String) (b : Buffer) :
    (p.closeBlock level finish b).ink = b.ink ++ ink "\x7d" ++ ink finish := by
  simp [closeBlock, Buffer.ink_ensure h.eol, ink_indent h]

omit h in
theorem listText_eq_or (level : Nat) (head : String) (items : List String) (tail : String) :
    p.listText level head items tail = [head ++ "(" ++ p.join items ++ ")" ++ tail] ∨
      ∃ text texts, text :: texts = commaLines items ++ [")" ++ tail] ∧
        p.listText level head items tail = (head ++ "(") :: text :: texts := by
  unfold listText
  dsimp only
  split
  case isTrue => exact .inl rfl
  case isFalse =>
    cases hlines : commaLines items ++ [")" ++ tail] with
    | nil => simp at hlines
    | cons text texts => exact .inr ⟨text, texts, rfl, rfl⟩

theorem ink_writeArguments (level : Nat) (head : String) (arguments : List String) (b : Buffer) :
    (p.writeArguments level head arguments b).ink =
      b.ink ++ ink (head ++ "(" ++ commaJoined arguments ++ ")") := by
  rcases p.listText_eq_or level head arguments "" with hlist | ⟨text, texts, htexts, hlist⟩
  · simp [writeArguments, hlist, ink_join h]
  · have hlast : (text :: texts).dropLast = commaLines arguments := by
      rw [htexts, List.dropLast_concat]
    simp only [writeArguments, hlist, List.head?_cons, Option.getD_some, List.drop_succ_cons,
      List.drop_zero, hlast]
    simp [ink_lines h, ink_commaLines, ink_indent h, h.eol]

theorem ink_writeList (level : Nat) (head : String) (items : List String) (tail : String)
    (b : Buffer) :
    (p.writeList level head items tail b).ink =
      b.ink ++ ink (head ++ "(" ++ commaJoined items ++ ")" ++ tail) := by
  rcases p.listText_eq_or level head items tail with hlist | ⟨text, texts, htexts, hlist⟩
  · simp [writeList, hlist, ink_line h, ink_join h]
  · have hlast : (text :: texts).dropLast = commaLines items := by
      rw [htexts, List.dropLast_concat]
    simp only [writeList, hlist, List.take_succ_cons, List.take_zero, List.drop_succ_cons,
      List.drop_zero, hlast]
    simp [ink_lines h, ink_line h, ink_commaLines]

end Printer

end Code

end RecordLoom
