import RecordLoom.Proofs.Code.UnitComments
import Mathlib.Data.List.TakeWhile

/-!
# Comments that quote texts

A text without a terminator and without carriage returns may be quoted in comments of every style:
on one line if it has no line feeds, else split into lines.  Comments that quote such texts only
are enclosed by their marks.
-/

namespace RecordLoom

namespace Text

/-! ## Texts to quote -/

/-- A text that may be quoted once it is split into lines. -/
structure Passage (s : String) : Prop where
  unterminated : ¬terminator <:+: s.toList
  unreturned : '\r' ∉ s.toList

/-- A text that may be quoted on one line. -/
structure Quotable (s : String) : Prop extends Passage s where
  unbroken : '\n' ∉ s.toList

/-- A text that may be quoted on one line behind any other one. -/
structure Phrase (s : String) : Prop extends Quotable s where
  head : s.toList.head? ≠ some '/'

def isHarmless (c : Char) : Bool := c != '*' && c != '/' && c != '\n' && c != '\r'

theorem not_mem_of_harmless {cs : List Char} (h : ∀ c ∈ cs, isHarmless c = true) {c : Char}
    (hc : isHarmless c = false) : c ∉ cs := by
  intro hmem
  rw [h c hmem] at hc
  cases hc

theorem getLast?_ne_of_harmless {cs : List Char} (h : ∀ c ∈ cs, isHarmless c = true) :
    cs.getLast? ≠ some '*' :=
  fun hlast => not_mem_of_harmless h rfl (List.mem_of_getLast? hlast)

/-- A text that is not taken for anything else wherever it stands. -/
def Harmless (s : String) : Prop := ∀ c ∈ s.toList, isHarmless c = true

theorem Harmless.phrase {s : String} (h : Harmless s) : Phrase s where
  unterminated hfound := not_mem_of_harmless h rfl (hfound.mem (List.mem_cons_self (a := '*')))
  unreturned := not_mem_of_harmless h rfl
  unbroken := not_mem_of_harmless h rfl
  head hhead := not_mem_of_harmless h rfl (List.mem_of_mem_head? hhead)

theorem Passage.append {s t : String} (hs : Passage s) (ht : Passage t)
    (h : s.toList.getLast? ≠ some '*' ∨ t.toList.head? ≠ some '/') : Passage (s ++ t) where
  unterminated := by
    rw [String.toList_append, terminator_append_iff h]
    exact not_or.mpr ⟨hs.unterminated, ht.unterminated⟩
  unreturned := by
    rw [String.toList_append, List.mem_append]
    exact not_or.mpr ⟨hs.unreturned, ht.unreturned⟩

theorem Quotable.append {s t : String} (hs : Quotable s) (ht : Quotable t)
    (h : s.toList.getLast? ≠ some '*' ∨ t.toList.head? ≠ some '/') : Quotable (s ++ t) where
  toPassage := hs.toPassage.append ht.toPassage h
  unbroken := by
    rw [String.toList_append, List.mem_append]
    exact not_or.mpr ⟨hs.unbroken, ht.unbroken⟩

theorem Phrase.append {s t : String} (hs : Phrase s) (ht : Phrase t) : Phrase (s ++ t) where
  toQuotable := hs.toQuotable.append ht.toQuotable (.inr ht.head)
  head := by
    rw [String.toList_append, List.head?_append]
    cases hhead : s.toList.head? with
    | none => exact ht.head
    | some c => simpa [hhead] using hs.head

theorem Harmless.ofList {cs : List Char} (h : cs.all isHarmless = true) :
    Harmless (.ofList cs) := by
  rwa [Harmless, String.toList_ofList, ← List.all_eq_true]

theorem Phrase.ofList {cs : List Char} (h : cs.all isHarmless = true) : Phrase (.ofList cs) :=
  (Harmless.ofList h).phrase

theorem Phrase.within {cs ds : List Char} {s : String} (hs : Phrase s)
    (hcs : cs.all isHarmless = true) (hds : ds.all isHarmless = true) :
    Phrase (.ofList cs ++ s ++ .ofList ds) :=
  ((Phrase.ofList hcs).append hs).append (.ofList hds)

theorem Phrase.andThen {cs : List Char} {s t : String} (hs : Phrase s) (ht : Phrase t)
    (hcs : cs.all isHarmless = true) : Phrase (s ++ t ++ .ofList cs) :=
  (hs.append ht).append (.ofList hcs)

theorem Quotable.ofList {cs : List Char} (h : cs.all isHarmless = true) : Quotable (.ofList cs) :=
  (Phrase.ofList h).toQuotable

theorem Quotable.ofList_append {cs : List Char} (h : cs.all isHarmless = true) {s : String}
    (hs : Quotable s) : Quotable (.ofList cs ++ s) :=
  (Quotable.ofList h).append hs <| .inl <| by
    rw [String.toList_ofList]
    exact getLast?_ne_of_harmless (List.all_eq_true.mp h)

theorem Passage.of_infix {s t : String} (h : Passage s) (hwithin : t.toList <:+: s.toList) :
    Passage t where
  unterminated hfound := h.unterminated (hfound.trans hwithin)
  unreturned hmem := h.unreturned (hwithin.mem hmem)

theorem dropEnds_infix (drop : Char → Bool) (cs : List Char) : dropEnds drop cs <:+: cs := by
  refine List.IsInfix.trans ?_ (List.dropWhile_suffix drop).isInfix
  rw [dropEnds, dropEnd, ← List.reverse_infix, List.reverse_reverse]
  exact (List.dropWhile_suffix drop).isInfix

theorem Passage.trimLineEnds {s : String} (h : Passage s) : Passage (trimLineEnds s) := by
  refine h.of_infix ?_
  rw [Text.trimLineEnds, String.toList_ofList]
  exact dropEnds_infix _ s.toList

theorem splitOn_parts (a : Char) (cs : List Char) :
    (∃ first rest, cs.splitOn a = first :: rest ∧ first <+: cs) ∧
      ∀ part ∈ cs.splitOn a, part <:+: cs ∧ a ∉ part := by
  induction cs with
  | nil => exact ⟨⟨[], [], rfl, List.prefix_rfl⟩, by simp [List.splitOn_nil]⟩
  | cons c cs ih =>
      obtain ⟨⟨first, rest, hsplit, hfirst⟩, hparts⟩ := ih
      have hwithin := (List.suffix_cons c cs).isInfix
      have hcons : (c :: cs).splitOn a =
          if c == a then [] :: cs.splitOn a else (cs.splitOn a).modifyHead (c :: ·) :=
        List.splitOnP_cons_eq_if_modifyHead c cs
      rw [hcons]
      split
      case isTrue =>
        refine ⟨⟨[], _, rfl, List.nil_prefix⟩, List.forall_mem_cons.mpr ⟨?_, ?_⟩⟩
        · exact ⟨List.nil_infix, List.not_mem_nil⟩
        · exact fun part hpart => ⟨(hparts part hpart).1.trans hwithin, (hparts part hpart).2⟩
      case isFalse hne =>
        rw [hsplit] at hparts ⊢
        obtain ⟨⟨-, hnot⟩, hparts⟩ := List.forall_mem_cons.mp hparts
        have hstarts : c :: first <+: c :: cs := List.cons_prefix_cons.mpr ⟨rfl, hfirst⟩
        refine ⟨⟨c :: first, rest, rfl, hstarts⟩, List.forall_mem_cons.mpr ⟨?_, ?_⟩⟩
        · refine ⟨hstarts.isInfix, List.not_mem_cons_of_ne_of_not_mem ?_ hnot⟩
          rintro rfl
          exact hne (beq_self_eq_true a)
        · exact fun part hpart => ⟨(hparts part hpart).1.trans hwithin, (hparts part hpart).2⟩

theorem Passage.lines {s : String} (h : Passage s) : ∀ line ∈ lines s, Quotable line := by
  intro line hline
  obtain ⟨part, hpart, rfl⟩ := List.mem_map.mp hline
  obtain ⟨hwithin, hunbroken⟩ := (splitOn_parts '\n' s.toList).2 part hpart
  refine ⟨h.of_infix ?_, ?_⟩
  · rwa [String.toList_ofList]
  · rwa [String.toList_ofList]

/-! ## Texts that end a block -/

theorem exists_line_of_terminator {s : String} (h : terminator <:+: s.toList) :
    ∃ line ∈ lines s, terminator <:+: line.toList := by
  have hparts : ∀ parts : List (List Char), terminator <:+: ['\n'].intercalate parts →
      ∃ part ∈ parts, terminator <:+: part := by
    intro parts
    induction parts with
    | nil => simp [terminator]
    | cons part rest ih =>
        intro hfound
        cases rest with
        | nil => exact ⟨part, List.mem_cons_self, by simpa using hfound⟩
        | cons next rest =>
            rw [List.intercalate_cons_cons, terminator_append_iff (.inl (by simp)),
              terminator_append_iff (.inr (by decide))] at hfound
            rcases hfound with (hfound | hfound) | hfound
            · exact ⟨part, List.mem_cons_self, hfound⟩
            · exact absurd hfound (by decide)
            · obtain ⟨part, hpart, hfound⟩ := ih hfound
              exact ⟨part, List.mem_cons_of_mem _ hpart, hfound⟩
  have hjoined : ['\n'].intercalate (s.toList.splitOn '\n') = s.toList :=
    List.intercalate_splitOn '\n'
  rw [← hjoined] at h
  obtain ⟨part, hpart, hfound⟩ := hparts _ h
  exact ⟨.ofList part, List.mem_map_of_mem hpart, by rwa [String.toList_ofList]⟩

theorem not_mem_takeWhile {drop : Char → Bool} {c : Char} (h : drop c = false) (cs : List Char) :
    c ∉ cs.takeWhile drop := by
  intro hmem
  rw [List.mem_takeWhile_imp hmem] at h
  cases h

theorem terminator_dropWhile {drop : Char → Bool} (hstar : drop '*' = false) (cs : List Char) :
    terminator <:+: cs.dropWhile drop ↔ terminator <:+: cs := by
  have hdropped := not_mem_takeWhile hstar cs
  conv => rhs; rw [← List.takeWhile_append_dropWhile (p := drop) (l := cs)]
  rw [terminator_append_iff (.inl fun hlast => hdropped (List.mem_of_getLast? hlast)),
    or_iff_right fun hfound => hdropped (hfound.mem List.mem_cons_self)]

theorem terminator_dropEnd {drop : Char → Bool} (hslash : drop '/' = false) (cs : List Char) :
    terminator <:+: dropEnd drop cs ↔ terminator <:+: cs := by
  have hdropped : '/' ∉ (cs.reverse.takeWhile drop).reverse := fun hmem =>
    not_mem_takeWhile hslash cs.reverse (List.mem_reverse.mp hmem)
  have hsplit : dropEnd drop cs ++ (cs.reverse.takeWhile drop).reverse = cs := by
    rw [dropEnd, ← List.reverse_append, List.takeWhile_append_dropWhile, List.reverse_reverse]
  conv => rhs; rw [← hsplit]
  rw [terminator_append_iff (.inr fun hhead => hdropped (List.mem_of_mem_head? hhead)),
    or_iff_left fun hfound => hdropped (hfound.mem (by decide))]

theorem terminator_trimLineEnds (s : String) :
    terminator <:+: (trimLineEnds s).toList ↔ terminator <:+: s.toList := by
  rw [trimLineEnds, String.toList_ofList, dropEnds, terminator_dropEnd (by decide),
    terminator_dropWhile (by decide)]

end Text

namespace Code

open Text

theorem CommentStyle.carries_of_quotable (style : CommentStyle) {line : String}
    (h : Quotable line) : style.Carries line := by
  have hmarked : ∀ marker, MarkedInside marker line.toList := by
    intro marker c rest hsuffix hend
    have hmem : c ∈ line.toList := hsuffix.mem List.mem_cons_self
    rcases Bool.or_eq_true_iff.mp hend with hc | hc
    · exact absurd (eq_of_beq hc ▸ hmem) h.unbroken
    · exact absurd (eq_of_beq hc ▸ hmem) h.unreturned
  cases style with
  | dashes => exact hmarked _
  | tripleDashes => exact hmarked _
  | stars => exact h.unterminated
  | doubleStars => exact h.unterminated
  | none => trivial

/-! ## Comments of such texts -/

structure CodeExample.IsQuotable (e : CodeExample) : Prop where
  headline : Quotable e.headline
  code : Passage e.code
  language : ∀ language ∈ e.language, Quotable language

structure TypeComment.IsQuotable (c : TypeComment) : Prop where
  headline : Quotable c.headline
  info : ∀ info ∈ c.info, Passage info
  examples : ∀ e ∈ c.examples, e.IsQuotable
  sql : ∀ e ∈ c.sql, e.IsQuotable

structure ParamDoc.IsQuotable (d : ParamDoc) : Prop where
  name : Quotable d.name
  info : Quotable d.info

structure FunctionComment.IsQuotable (c : FunctionComment) : Prop where
  headline : Quotable c.headline
  info : ∀ info ∈ c.info, Passage info
  sample : ∀ sample ∈ c.sample, Passage sample
  parameters : ∀ d ∈ c.parameters, d.IsQuotable
  throwsInfo : ∀ info ∈ c.throwsInfo, Quotable info
  returnInfo : ∀ info ∈ c.returnInfo, Quotable info

/-- Each field of a comment is quoted where it may be: only some of them are split into lines. -/
def Comment.IsQuotable : Comment → Prop
  | .ofType c => c.IsQuotable
  | .ofFunction c => c.IsQuotable
  | .ofProperty text => Passage text

/-- The texts that a printer puts in comments on its own. -/
structure Printer.IsQuotable (p : Printer) : Prop where
  examplesHeader : Passage p.style.examplesHeader
  sqlHeader : Passage p.style.sqlHeader
  language : Quotable p.spelling.codeBlockLanguage

theorem codeBlock_quotable {code language : String} (hcode : Passage code)
    (hlanguage : Quotable language) : ∀ line ∈ codeBlock code language, Quotable line := by
  unfold codeBlock
  dsimp only
  split
  · exact List.forall_mem_nil _
  · refine List.forall_mem_cons.mpr ⟨?_, List.forall_mem_append.mpr ⟨hcode.trimLineEnds.lines, ?_⟩⟩
    · exact Quotable.ofList_append (by decide) hlanguage
    · exact List.forall_mem_singleton.mpr (.ofList (by decide))

theorem exists_line_codeBlock {code : String} (h : terminator <:+: code.toList)
    (language : String) : ∃ line ∈ codeBlock code language, terminator <:+: line.toList := by
  have htrimmed := (terminator_trimLineEnds code).mpr h
  obtain ⟨line, hline, hfound⟩ := exists_line_of_terminator htrimmed
  refine ⟨line, ?_, hfound⟩
  unfold codeBlock
  dsimp only
  rw [if_neg]
  · exact List.mem_cons_of_mem _ (List.mem_append_left _ hline)
  · rintro hempty
    rw [String.isEmpty_iff.mp hempty] at htrimmed
    exact absurd htrimmed (by decide)

theorem paragraph_quotable {text : Option String} (h : ∀ info ∈ text, Passage info) :
    ∀ line ∈ paragraph text, Quotable line := by
  unfold paragraph
  split
  · split
    · exact List.forall_mem_nil _
    · exact List.forall_mem_cons.mpr ⟨.ofList rfl, (h _ rfl).lines⟩
  · exact List.forall_mem_nil _

theorem forall_mem_none {α : Type} {P : α → Prop} : ∀ a ∈ (none : Option α), P a :=
  fun a h => absurd h (Option.not_mem_none a)

theorem forall_mem_nonEmpty? {P : String → Prop} {text : Option String} (h : ∀ s ∈ text, P s) :
    ∀ s ∈ nonEmpty? text, P s := by
  intro s hs
  exact h s (Option.mem_def.mpr (Option.filter_eq_some_iff.mp hs).1)

theorem CodeExample.IsQuotable.lines {e : CodeExample} (h : e.IsQuotable) {language : String}
    (hlanguage : Quotable language) : ∀ line ∈ e.lines language, Quotable line := by
  have hown : Quotable ((nonEmpty? e.language).getD language) := by
    cases hname : nonEmpty? e.language with
    | none => exact hlanguage
    | some name => exact forall_mem_nonEmpty? h.language name hname
  exact List.forall_mem_cons.mpr ⟨.ofList rfl, List.forall_mem_cons.mpr
    ⟨h.headline, codeBlock_quotable h.code hown⟩⟩

theorem TypeComment.IsQuotable.lines {c : TypeComment} (h : c.IsQuotable) {style : Style}
    {language : String} (hexamples : Passage style.examplesHeader) (hsql : Passage style.sqlHeader)
    (hlanguage : Quotable language) : ∀ line ∈ c.lines style language, Quotable line := by
  have hlistings : ∀ {listings : List CodeExample} {language : String}, Quotable language →
      (∀ e ∈ listings, e.IsQuotable) → ∀ line ∈ listings.flatMap (·.lines language),
        Quotable line := by
    intro listings language hlanguage hlistings line hline
    obtain ⟨e, he, hline⟩ := List.mem_flatMap.mp hline
    exact (hlistings e he).lines hlanguage line hline
  refine List.forall_mem_append.mpr ⟨List.forall_mem_append.mpr
    ⟨List.forall_mem_cons.mpr ⟨h.headline, paragraph_quotable h.info⟩, ?_⟩, ?_⟩
  · unfold exampleLines
    split
    case h_1 => exact List.forall_mem_nil _
    case h_2 only honly =>
      exact (h.examples only (honly ▸ List.mem_singleton_self only)).lines hlanguage
    case h_3 =>
      exact List.forall_mem_append.mpr ⟨List.forall_mem_cons.mpr ⟨.ofList rfl, hexamples.lines⟩,
        hlistings hlanguage h.examples⟩
  · unfold sqlLines
    split
    · exact List.forall_mem_nil _
    · exact List.forall_mem_append.mpr ⟨List.forall_mem_cons.mpr ⟨.ofList rfl, hsql.lines⟩,
        hlistings (.ofList (by decide)) h.sql⟩

theorem ParamDoc.IsQuotable.line {d : ParamDoc} (h : d.IsQuotable) :
    Quotable ("  - " ++ d.name ++ ": " ++ d.info) := by
  have hname : Quotable ("  - " ++ d.name) := .ofList_append (by decide) h.name
  have hcolon : Phrase (": " ++ d.info) :=
    { toQuotable := .ofList_append (by decide) h.info
      head := by simp }
  rw [String.append_assoc]
  exact hname.append hcolon.toQuotable (.inr hcolon.head)

theorem FunctionComment.IsQuotable.sampleLines {c : FunctionComment} (h : c.IsQuotable)
    {language : String} (hlanguage : Quotable language) :
    ∀ line ∈ c.sampleLines language, Quotable line := by
  have hsample : Passage (c.sample.getD "") := by
    cases hsample : c.sample with
    | none => exact (Quotable.ofList rfl).toPassage
    | some sample => exact h.sample sample hsample
  have hblock := codeBlock_quotable hsample hlanguage
  unfold FunctionComment.sampleLines
  split
  case h_1 => exact List.forall_mem_nil _
  case h_2 =>
    refine List.forall_mem_cons.mpr ⟨.ofList (by decide), ?_⟩
    refine List.forall_mem_cons.mpr ⟨.ofList (by decide), ?_⟩
    exact hblock

theorem FunctionComment.IsQuotable.lines {c : FunctionComment} (h : c.IsQuotable)
    {language : String} (hlanguage : Quotable language) :
    ∀ line ∈ c.lines language, Quotable line := by
  have htagged : ∀ {tag : List Char} {text : Option String}, tag.all isHarmless = true →
      (∀ info ∈ text, Quotable info) →
      ∀ line ∈ ((nonEmpty? text).map (String.ofList tag ++ ·)).toList, Quotable line := by
    intro tag text htag htext line hline
    obtain ⟨info, hinfo, rfl⟩ := Option.map_eq_some_iff.mp (Option.mem_toList.mp hline)
    exact .ofList_append htag (forall_mem_nonEmpty? htext info hinfo)
  refine List.forall_mem_append.mpr ⟨List.forall_mem_append.mpr ⟨List.forall_mem_append.mpr
    ⟨List.forall_mem_cons.mpr ⟨h.headline, paragraph_quotable h.info⟩, ?_⟩, ?_⟩, ?_⟩
  case refine_1 => exact h.sampleLines hlanguage
  case refine_2 =>
    unfold parameterLines
    split
    · split
      · exact List.forall_mem_nil _
      · exact List.forall_mem_singleton.mpr (.ofList rfl)
    · refine List.forall_mem_cons.mpr ⟨.ofList rfl, ?_⟩
      refine List.forall_mem_cons.mpr ⟨.ofList (by decide), ?_⟩
      exact List.forall_mem_map.mpr fun d hd => (h.parameters d hd).line
  case refine_3 =>
    exact List.forall_mem_append.mpr ⟨htagged (by decide) h.throwsInfo,
      htagged (by decide) h.returnInfo⟩

namespace Printer

variable {p : Printer}

theorem commentLines_quotable (hp : p.IsQuotable) {c : Comment} (hc : c.IsQuotable) :
    ∀ line ∈ p.commentLines c, Quotable line := by
  cases c with
  | ofType c => exact TypeComment.IsQuotable.lines hc hp.examplesHeader hp.sqlHeader hp.language
  | ofFunction c => exact FunctionComment.IsQuotable.lines hc hp.language
  | ofProperty text =>
      cases htext : text.isEmpty with
      | true => simp [commentLines, htext]
      | false =>
          rw [commentLines, htext]
          exact Passage.lines hc

/-- Whether a comment is nothing but a comment where it is printed. -/
def Encloses (p : Printer) (level : Nat) (c : Comment) : Prop :=
  (p.commentStyle c).Encloses p.style.eol (p.commentText level c)

/-- A comment of texts that may be quoted is enclosed, in every style and at every level. -/
theorem encloses_of_quotable (hlined : p.style.Lined) (hp : p.IsQuotable) {c : Comment}
    (hc : c.IsQuotable) (level : Nat) : p.Encloses level c :=
  (encloses_iff hlined level _ _).mpr fun line hline =>
    (p.commentStyle c).carries_of_quotable (commentLines_quotable hp hc line hline)

theorem not_encloses_of_terminator (hlined : p.style.Lined) {c : Comment}
    (hblock : (p.commentStyle c).isBlock = true)
    (h : ∃ line ∈ p.commentLines c, terminator <:+: line.toList) (level : Nat) :
    ¬p.Encloses level c := by
  intro hencloses
  obtain ⟨line, hline, hfound⟩ := h
  have hcarries := (encloses_iff hlined level _ _).mp hencloses line hline
  exact (CommentStyle.carries_iff_of_isBlock hblock line).mp hcarries hfound

end Printer

end Code

end RecordLoom
