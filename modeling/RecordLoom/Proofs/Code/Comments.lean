import RecordLoom.Code.Comment
import RecordLoom.Proofs.Code.Ink
import Mathlib.Logic.Basic

/-!
# Comments that stay comments

What a comment says is written on lines as it is.  It stays in the comment if nothing in it is taken
for the end: no terminator within a block, and no line end within a line after which code would
follow.
-/

namespace RecordLoom

namespace Text

/-! ## Lines with a mark -/

def isLineEnd (c : Char) : Bool := c == '\n' || c == '\r'

/-- White space apart, a marker comes first, or nothing at all. -/
def Marked (marker cs : List Char) : Prop :=
  cs.dropWhile isBlank = [] ∨ marker <+: cs.dropWhile isBlank

def MarkedInside (marker cs : List Char) : Prop :=
  ∀ c rest, c :: rest <:+ cs → isLineEnd c = true → Marked marker rest

instance (marker cs : List Char) : Decidable (Marked marker cs) :=
  inferInstanceAs (Decidable (_ ∨ _))

theorem markedInside_nil (marker : List Char) : MarkedInside marker [] := by
  intro c rest hsuffix
  simp at hsuffix

theorem markedInside_cons {marker cs : List Char} {c : Char} :
    MarkedInside marker (c :: cs) ↔
      (isLineEnd c = true → Marked marker cs) ∧ MarkedInside marker cs := by
  simp only [MarkedInside, List.suffix_cons_iff, or_imp, forall_and, List.cons.injEq, and_imp,
    forall_eq_apply_imp_iff, forall_eq]

theorem marked_marker_append {marker : List Char} (hmarker : ∀ c ∈ marker, isBlank c = false)
    (cs : List Char) (hne : marker ≠ []) : Marked marker (marker ++ cs) := by
  obtain ⟨c, rest, rfl⟩ := List.exists_cons_of_ne_nil hne
  refine .inr ?_
  rw [List.cons_append, List.dropWhile_cons_of_neg (by simp [hmarker c List.mem_cons_self])]
  exact List.prefix_append (c :: rest) cs

theorem marked_blank_append {marker blanks : List Char} (hblanks : ∀ c ∈ blanks, isBlank c = true)
    (cs : List Char) : Marked marker (blanks ++ cs) ↔ Marked marker cs := by
  rw [Marked, Marked, List.dropWhile_append_of_pos hblanks]

theorem marked_append {marker cs rest : List Char} (hmarker : ∀ c ∈ marker, isBlank c = false)
    (hrest : Marked marker rest) (hblank : ∃ c ∈ rest.head?, isBlank c = true) :
    Marked marker (cs ++ rest) ↔ Marked marker cs := by
  induction cs with
  | nil => exact iff_of_true hrest (.inl rfl)
  | cons c cs ih =>
      cases hc : isBlank c with
      | true =>
          have hsingle : ∀ d ∈ [c], isBlank d = true := by simpa using hc
          have hcons : ∀ ds, Marked marker (c :: ds) ↔ Marked marker ds :=
            marked_blank_append hsingle
          exact (hcons (cs ++ rest)).trans (ih.trans (hcons cs).symm)
      | false =>
          have hdrop : ∀ ds, (c :: ds).dropWhile isBlank = c :: ds := fun ds => by
            rw [List.dropWhile_cons_of_neg (by simp [hc])]
          rw [List.cons_append, Marked, Marked, hdrop, hdrop]
          simp only [reduceCtorEq, false_or]
          refine ⟨fun hprefix => ?_,
            fun hprefix => hprefix.trans (List.prefix_append (c :: cs) rest)⟩
          rcases List.prefix_or_prefix_of_prefix hprefix (List.prefix_append (c :: cs) rest)
            with hshort | ⟨more, hmore⟩
          · exact hshort
          · -- What is missing of the marker would start with the blank.
            rw [← hmore, ← List.cons_append, List.prefix_append_right_inj] at hprefix
            cases more with
            | nil => exact ⟨[], by simpa using hmore.symm⟩
            | cons d more =>
                obtain ⟨e, he, hblank⟩ := hblank
                obtain ⟨tail, rfl⟩ := hprefix
                obtain rfl : d = e := by simpa using he
                have hd := hmarker d (by simp [← hmore])
                rw [hd] at hblank
                cases hblank

theorem markedInside_append {marker cs rest : List Char} :
    MarkedInside marker (cs ++ rest) ↔
      (∀ c later, c :: later <:+ cs → isLineEnd c = true → Marked marker (later ++ rest)) ∧
        MarkedInside marker rest := by
  induction cs with
  | nil => simp
  | cons c cs ih =>
      rw [List.cons_append, markedInside_cons, ih]
      simp only [List.suffix_cons_iff, or_imp, forall_and, List.cons.injEq, and_imp,
        forall_eq_apply_imp_iff, forall_eq, and_assoc]

theorem markedInside_blank_append {marker blanks rest : List Char}
    (hblanks : ∀ c ∈ blanks, isBlank c = true) (hrest : Marked marker rest) :
    MarkedInside marker (blanks ++ rest) ↔ MarkedInside marker rest := by
  rw [markedInside_append]
  refine and_iff_right fun c later hlater _ => ?_
  rw [marked_blank_append fun d hd => hblanks d (hlater.mem (List.mem_cons_of_mem c hd))]
  exact hrest

theorem markedInside_unbroken_append {marker cs rest : List Char}
    (hcs : ∀ c ∈ cs, isLineEnd c = false) :
    MarkedInside marker (cs ++ rest) ↔ MarkedInside marker rest := by
  rw [markedInside_append]
  refine and_iff_right fun c later hlater hend => ?_
  rw [hcs c (hlater.mem List.mem_cons_self)] at hend
  cases hend

theorem markedInside_append_blank {marker cs rest : List Char}
    (hmarker : ∀ c ∈ marker, isBlank c = false) (hrest : Marked marker rest)
    (hblank : ∃ c ∈ rest.head?, isBlank c = true) :
    MarkedInside marker (cs ++ rest) ↔ MarkedInside marker cs ∧ MarkedInside marker rest := by
  rw [markedInside_append]
  simp only [marked_append hmarker hrest hblank]
  rfl

/-! ## The end of a block -/

def terminator : List Char := ['*', '/']

theorem ne_of_isBlank {c : Char} (h : isBlank c = true) : c ≠ '*' ∧ c ≠ '/' := by
  constructor
  all_goals
    rintro rfl
    revert h
    decide

theorem not_terminator_blank {cs : List Char} (h : ∀ c ∈ cs, isBlank c = true) :
    ¬terminator <:+: cs := by
  intro hfound
  exact (ne_of_isBlank (h '*' (hfound.mem List.mem_cons_self))).1 rfl

theorem getLast?_blank_ne {cs : List Char} (hcs : ∀ c ∈ cs, isBlank c = true) :
    cs.getLast? ≠ some '*' := fun hlast =>
  (ne_of_isBlank (hcs '*' (List.mem_of_getLast? hlast))).1 rfl

theorem terminator_prefix_iff {c : Char} {cs : List Char} :
    terminator <+: c :: cs ↔ c = '*' ∧ cs.head? = some '/' := by
  cases cs <;> simp [terminator, List.cons_prefix_cons, eq_comm]

theorem terminator_append_iff {cs rest : List Char}
    (h : cs.getLast? ≠ some '*' ∨ rest.head? ≠ some '/') :
    terminator <:+: cs ++ rest ↔ terminator <:+: cs ∨ terminator <:+: rest := by
  induction cs with
  | nil => simp [terminator]
  | cons c cs ih =>
      rw [List.cons_append, List.infix_cons_iff, List.infix_cons_iff, terminator_prefix_iff,
        terminator_prefix_iff]
      cases cs with
      | nil =>
          have hnot : ¬(c = '*' ∧ rest.head? = some '/') := by
            rintro ⟨rfl, hrest⟩
            simp [hrest] at h
          simp [hnot, terminator]
      | cons d cs =>
          rw [ih (by simpa using h), or_assoc]
          rfl

end Text

namespace Code

open Text

/-! ## What is printed of a comment -/

@[simp] theorem Buffer.text_empty : Buffer.empty.text = "" := by decide

@[simp] theorem Buffer.text_append (b : Buffer) (text : String) :
    (b.append text).text = b.text ++ text := by
  unfold Buffer.append
  split
  case isTrue h => simp [String.isEmpty_iff.mp h]
  case isFalse => simp [Buffer.text, String.join_append]

/-- Layout of white space, with line ends that end lines. -/
structure Style.Lined (s : Style) : Prop where
  indent : ∀ c ∈ s.indent.toList, isBlank c = true
  eol : ∀ c ∈ s.eol.toList, isBlank c = true
  ends : ∃ c ∈ s.eol.toList, isLineEnd c = true

def CommentStyle.isBlock : CommentStyle → Bool
  | stars | doubleStars => true
  | dashes | tripleDashes | none => false

/-- Whether a printed comment is nothing else: every line of it has the mark, or the first
terminator in it is its last line. -/
def CommentStyle.Encloses (style : CommentStyle) (eol text : String) : Prop :=
  match style with
  | dashes => Marked "//".toList text.toList ∧ MarkedInside "//".toList text.toList
  | tripleDashes => Marked "///".toList text.toList ∧ MarkedInside "///".toList text.toList
  | stars | doubleStars =>
      text = "" ∨ ∃ inside, text.toList = inside ++ terminator ++ eol.toList ∧
        ¬terminator <:+: inside
  | none => text = ""

/-- Whether a line may stand in a comment as it is. -/
def CommentStyle.Carries (style : CommentStyle) (line : String) : Prop :=
  match style with
  | dashes => MarkedInside "//".toList line.toList
  | tripleDashes => MarkedInside "///".toList line.toList
  | stars | doubleStars => ¬terminator <:+: line.toList
  | none => True

theorem CommentStyle.carries_iff_of_isBlock {style : CommentStyle} (h : style.isBlock = true)
    (line : String) : style.Carries line ↔ ¬terminator <:+: line.toList := by
  cases style with
  | stars | doubleStars => exact Iff.rfl
  | dashes | tripleDashes | none => cases h

namespace Printer

variable {p : Printer} (h : p.style.Lined)

def lineChars (p : Printer) (level : Nat) (text : String) : List Char :=
  (p.indent level).toList ++ text.toList ++ p.style.eol.toList

theorem text_lines (level : Nat) {texts : List String} (htexts : ∀ text ∈ texts, text ≠ "")
    (b : Buffer) :
    (p.lines level texts b).text.toList = b.text.toList ++ texts.flatMap (p.lineChars level) := by
  unfold lines
  induction texts generalizing b with
  | nil => simp
  | cons text rest ih =>
      obtain ⟨htext, hrest⟩ := List.forall_mem_cons.mp htexts
      rw [List.foldl_cons, ih hrest, List.flatMap_cons, ← List.append_assoc]
      simp [line, lineChars, htext, String.isEmpty_iff]

include h

theorem indent_blank (level : Nat) : ∀ c ∈ (p.indent level).toList, isBlank c = true := by
  intro c hc
  rw [indent, String.toList_join, List.mem_flatMap] at hc
  obtain ⟨text, htext, hc⟩ := hc
  rw [List.eq_of_mem_replicate htext] at hc
  exact h.indent c hc

theorem eol_head (rest : List Char) :
    ∃ c ∈ (p.style.eol.toList ++ rest).head?, isBlank c = true := by
  obtain ⟨c, hc, -⟩ := h.ends
  obtain ⟨d, tail, hsplit⟩ := List.exists_cons_of_ne_nil (List.ne_nil_of_mem hc)
  refine ⟨d, by simp [hsplit], h.eol d (by simp [hsplit])⟩

structure LineMark (marker start : String) : Prop where
  ne_nil : marker.toList ≠ []
  spaced : start = marker ++ " "
  trimmed : trimEnd start = marker
  chars : ∀ c ∈ marker.toList, isBlank c = false ∧ isLineEnd c = false

omit h in
theorem LineMark.markedLine {marker start : String} (hmark : LineMark marker start)
    (text : String) : ∃ lead : List Char, (∀ c ∈ lead, isLineEnd c = false) ∧
      (Printer.markedLine start text).toList = marker.toList ++ (lead ++ text.toList) := by
  unfold Printer.markedLine
  split
  case isTrue hempty =>
    refine ⟨[], List.forall_mem_nil _, ?_⟩
    rw [hmark.trimmed, String.isEmpty_iff.mp hempty]
    simp
  case isFalse =>
    refine ⟨[' '], List.forall_mem_singleton.mpr rfl, ?_⟩
    simp [hmark.spaced]

theorem marked_lines {marker start : String} (hmark : LineMark marker start) (level : Nat)
    (texts : List String) :
    let printed := (texts.map (markedLine start)).flatMap (p.lineChars level)
    Marked marker.toList printed ∧
      (MarkedInside marker.toList printed ↔
        ∀ text ∈ texts, MarkedInside marker.toList text.toList) := by
  have hblank : ∀ c ∈ marker.toList, isBlank c = false := fun c hc => (hmark.chars c hc).1
  have hunbroken : ∀ c ∈ marker.toList, isLineEnd c = false := fun c hc => (hmark.chars c hc).2
  induction texts with
  | nil => exact ⟨.inl rfl, iff_of_true (markedInside_nil _) (List.forall_mem_nil _)⟩
  | cons text rest ih =>
      obtain ⟨hmarked, hinside⟩ := ih
      obtain ⟨lead, hlead, hline⟩ := hmark.markedLine text
      intro printed
      generalize hprinted : (rest.map (markedLine start)).flatMap (p.lineChars level) = later
        at hmarked hinside
      have hsplit : printed = (p.indent level).toList ++
          (marker.toList ++ (lead ++ (text.toList ++ (p.style.eol.toList ++ later)))) := by
        simp only [printed, List.map_cons, List.flatMap_cons, hprinted, lineChars, hline,
          List.append_assoc]
      have hend : Marked marker.toList (p.style.eol.toList ++ later) :=
        (marked_blank_append h.eol later).mpr hmarked
      have hfirst : ∀ cs, Marked marker.toList (marker.toList ++ cs) := fun cs =>
        marked_marker_append hblank cs hmark.ne_nil
      rw [hsplit]
      refine ⟨(marked_blank_append (indent_blank h level) _).mpr (hfirst _), ?_⟩
      rw [markedInside_blank_append (indent_blank h level) (hfirst _),
        markedInside_unbroken_append hunbroken, markedInside_unbroken_append hlead,
        markedInside_append_blank hblank hend (eol_head h later),
        markedInside_blank_append h.eol hmarked, hinside, List.forall_mem_cons]

theorem getLast?_lineChars (level : Nat) (text : String) :
    (p.lineChars level text).getLast? ≠ some '*' := by
  have hne : p.style.eol.toList ≠ [] := List.ne_nil_of_mem h.ends.choose_spec.1
  rw [lineChars, List.getLast?_append, List.getLast?_eq_some_getLast hne, Option.some_or,
    ← List.getLast?_eq_some_getLast hne]
  exact getLast?_blank_ne h.eol

theorem terminator_lineChars (level : Nat) (text : String) :
    terminator <:+: p.lineChars level text ↔ terminator <:+: text.toList := by
  have hindent := not_terminator_blank (indent_blank h level)
  have heol := not_terminator_blank h.eol
  have hhead : p.style.eol.toList.head? ≠ some '/' := by
    obtain ⟨c, hc, hblank⟩ := eol_head h []
    rw [List.append_nil] at hc
    intro hslash
    obtain rfl : c = '/' := Option.some.inj (hc.symm.trans hslash)
    exact (ne_of_isBlank hblank).2 rfl
  rw [lineChars, terminator_append_iff (.inr hhead),
    terminator_append_iff (.inl (getLast?_blank_ne (indent_blank h level)))]
  simp [hindent, heol]

omit h in
theorem terminator_markedLine (text : String) :
    terminator <:+: (markedLine " * " text).toList ↔ terminator <:+: text.toList := by
  unfold markedLine
  split
  case isTrue hempty =>
    rw [String.isEmpty_iff.mp hempty]
    decide
  case isFalse =>
    rw [String.toList_append, terminator_append_iff (.inl (by decide))]
    exact or_iff_right (by decide)

theorem terminator_lines (level : Nat) (texts : List String) :
    let printed := texts.flatMap (p.lineChars level)
    (terminator <:+: printed ↔ ∃ text ∈ texts, terminator <:+: text.toList) ∧
      printed.getLast? ≠ some '*' := by
  induction texts with
  | nil => simp [terminator]
  | cons text rest ih =>
      obtain ⟨hrest, hlast⟩ := ih
      intro printed
      have hsplit : printed = p.lineChars level text ++ rest.flatMap (p.lineChars level) :=
        List.flatMap_cons
      rw [hsplit, terminator_append_iff (.inl (getLast?_lineChars h level text)), hrest,
        terminator_lineChars h]
      refine ⟨by simp, ?_⟩
      rw [List.getLast?_append]
      cases hlater : (rest.flatMap (p.lineChars level)).getLast? with
      | none => exact getLast?_lineChars h level text
      | some c =>
          rw [hlater] at hlast
          exact hlast

omit h in
theorem markedLine_ne {start : String} (hstart : trimEnd start ≠ "") (text : String) :
    markedLine start text ≠ "" := by
  unfold markedLine
  split
  case isTrue => exact hstart
  case isFalse htext =>
    intro hempty
    exact htext (by simp [(String.append_eq_empty_iff.mp hempty).2])

omit h in
theorem writeComment_nil (level : Nat) (style : CommentStyle) (b : Buffer) :
    p.writeComment level style [] b = b := by
  unfold writeComment
  split <;> rfl

omit h in
theorem writeComment_of_ne_nil (level : Nat) {style : CommentStyle} {marks : CommentMarks}
    (hmarks : style.marks? = some marks) {texts : List String} (htexts : texts ≠ []) (b : Buffer) :
    p.writeComment level style texts b =
      p.lines level (marks.opener.toList ++ texts.map (markedLine marks.start) ++
        marks.closer.toList) b := by
  unfold writeComment
  split <;> simp_all

omit h in
theorem text_writeComment (level : Nat) {style : CommentStyle} {marks : CommentMarks}
    (hmarks : style.marks? = some marks) {texts : List String} (htexts : texts ≠ [])
    (hlines : ∀ line ∈ marks.opener.toList ++ texts.map (markedLine marks.start) ++
      marks.closer.toList, line ≠ "") :
    (p.writeComment level style texts .empty).text.toList =
      marks.opener.toList.flatMap (p.lineChars level) ++
        ((texts.map (markedLine marks.start)).flatMap (p.lineChars level) ++
          marks.closer.toList.flatMap (p.lineChars level)) := by
  rw [writeComment_of_ne_nil level hmarks htexts, text_lines level hlines]
  simp

theorem lines_encloses_iff {marker start : String} (hmark : LineMark marker start)
    {style : CommentStyle} (hmarks : style.marks? = some ⟨none, start, none⟩) (level : Nat)
    (texts : List String) :
    let printed := (p.writeComment level style texts .empty).text.toList
    Marked marker.toList printed ∧ MarkedInside marker.toList printed ↔
      ∀ text ∈ texts, MarkedInside marker.toList text.toList := by
  intro printed
  cases texts with
  | nil =>
      have hprinted : printed = [] := by simp [printed, writeComment_nil]
      rw [hprinted]
      exact iff_of_true ⟨.inl rfl, markedInside_nil _⟩ (List.forall_mem_nil _)
  | cons text rest =>
      have hprinted : printed = _ := text_writeComment level hmarks (List.cons_ne_nil text rest) (by
        intro line hline
        obtain ⟨said, -, rfl⟩ : ∃ said ∈ text :: rest, markedLine start said = line := by
          simpa [-List.map_cons] using hline
        refine markedLine_ne ?_ said
        rw [hmark.trimmed]
        exact fun hempty => hmark.ne_nil (by simp [hempty]))
      obtain ⟨hmarked, hinside⟩ := marked_lines h hmark level (text :: rest)
      rw [hprinted]
      simp only [Option.toList_none, List.flatMap_nil, List.nil_append, List.append_nil]
      exact (and_iff_right hmarked).trans hinside

theorem block_encloses_iff {opener : String} (hopener : opener ≠ "")
    (hopen : ¬terminator <:+: opener.toList) {style : CommentStyle}
    (hmarks : style.marks? = some ⟨some opener, " * ", some " */"⟩) (level : Nat)
    (texts : List String) :
    let printed := (p.writeComment level style texts .empty).text
    (printed = "" ∨ ∃ inside, printed.toList = inside ++ terminator ++ p.style.eol.toList ∧
        ¬terminator <:+: inside) ↔
      ∀ text ∈ texts, ¬terminator <:+: text.toList := by
  intro printed
  cases texts with
  | nil => exact iff_of_true (.inl (by simp [printed, writeComment_nil])) (List.forall_mem_nil _)
  | cons text rest =>
      have hprinted : printed.toList = _ :=
        text_writeComment level hmarks (List.cons_ne_nil text rest) (by
          intro line hline
          simp only [Option.toList_some, List.mem_append, List.mem_singleton, List.mem_map] at hline
          rcases hline with (rfl | ⟨said, -, rfl⟩) | rfl
          · exact hopener
          · exact markedLine_ne (by decide) said
          · decide)
      let lines := (opener :: (text :: rest).map (markedLine " * ")).flatMap (p.lineChars level)
      let inside := lines ++ (p.indent level).toList ++ [' ']
      have hsplit : printed.toList = inside ++ terminator ++ p.style.eol.toList := by
        simp [hprinted, inside, lines, lineChars, terminator]
      have hinside : terminator <:+: inside ↔
          ∃ said ∈ text :: rest, terminator <:+: said.toList := by
        obtain ⟨hlines, hlast⟩ := terminator_lines h level
          (opener :: (text :: rest).map (markedLine " * "))
        have hindent := indent_blank h level
        rw [terminator_append_iff (.inr (by decide)), terminator_append_iff (.inl hlast),
          or_iff_left (not_terminator_blank hindent), or_iff_left (by decide), hlines]
        simp only [List.mem_cons, List.mem_map, exists_eq_or_imp, or_iff_right hopen,
          exists_exists_and_eq_and, terminator_markedLine, List.map_cons]
      have hne : printed ≠ "" := by
        rintro hempty
        simp [hempty, terminator] at hsplit
      have hexists : (∃ inside, printed.toList = inside ++ terminator ++ p.style.eol.toList ∧
          ¬terminator <:+: inside) ↔ ¬terminator <:+: inside := by
        refine ⟨?_, fun hnone => ⟨inside, hsplit, hnone⟩⟩
        rintro ⟨other, hother, hnone⟩
        have hsame : inside ++ terminator = other ++ terminator :=
          List.append_cancel_right (hsplit.symm.trans hother)
        exact List.append_cancel_right hsame ▸ hnone
      rw [or_iff_right hne, hexists, hinside]
      simp only [not_exists, not_and]

/-- A printed comment is a comment and nothing else exactly if its lines may stand in it. -/
theorem encloses_iff (level : Nat) (style : CommentStyle) (texts : List String) :
    style.Encloses p.style.eol (p.writeComment level style texts .empty).text ↔
      ∀ text ∈ texts, style.Carries text := by
  have hslash : isBlank '/' = false ∧ isLineEnd '/' = false := by decide
  cases style with
  | dashes =>
      have hchars : ∀ c ∈ "//".toList, isBlank c = false ∧ isLineEnd c = false :=
        fun c hc => List.eq_of_mem_replicate (n := 2) hc ▸ hslash
      exact lines_encloses_iff h ⟨by decide, by decide, by decide, hchars⟩ rfl level texts
  | tripleDashes =>
      have hchars : ∀ c ∈ "///".toList, isBlank c = false ∧ isLineEnd c = false :=
        fun c hc => List.eq_of_mem_replicate (n := 3) hc ▸ hslash
      exact lines_encloses_iff h ⟨by decide, by decide, by decide, hchars⟩ rfl level texts
  | stars => exact block_encloses_iff h (by decide) (by decide) rfl level texts
  | doubleStars => exact block_encloses_iff h (by decide) (by decide) rfl level texts
  | none => exact iff_of_true Buffer.text_empty fun _ _ => trivial

end Printer

end Code

end RecordLoom
