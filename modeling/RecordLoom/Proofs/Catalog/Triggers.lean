import RecordLoom.Catalog.Sql
import RecordLoom.Proofs.Catalog.Reading
import RecordLoom.Proofs.Text.CaseImages
import Mathlib.Data.Bool.AllAny
import Mathlib.Data.List.Infix

/-!
# Triggers on views

A trigger on a view replaces a row change, and its statement says which one after its name.
`announced?` reads the statement as the engine does, past comments and quoted names.  `insteadOf?`
looks for the words wherever they come first.  Both find the same row change if nothing but white
space stands between the words.
-/

namespace RecordLoom.Catalog.Sql

open RecordLoom.Text

/-! ## Statements as the engine reads them -/

def isSpace (c : Char) : Bool := [' ', '\t', '\n', '\x0c', '\r'].contains c

def isNameChar (c : Char) : Bool :=
  c.isAlphanum || c = '_' || c = '$' || decide (128 ≤ c.toNat)

inductive Comment where
  | line
  | block

/-- The text after white space and comments; `open?` is the comment that the text starts in. -/
def afterGap : Option Comment → List Char → List Char
  | _, [] => []
  | none, '-' :: '-' :: rest => afterGap (some .line) rest
  | none, '/' :: '*' :: rest => afterGap (some .block) rest
  | none, c :: rest => if isSpace c then afterGap none rest else c :: rest
  | some .line, c :: rest => afterGap (if c = '\n' then none else some .line) rest
  | some .block, '*' :: '/' :: rest => afterGap none rest
  | some .block, _ :: rest => afterGap (some .block) rest

/-- The text after a keyword, in any case, and what separates it from the next word. -/
def afterKeyword? (word : String) (cs : List Char) : Option (List Char) :=
  if (cs.takeWhile isNameChar).map Char.toUpper = word.toList then
    some (afterGap none (cs.dropWhile isNameChar))
  else none

def closing? (c : Char) : Option Char :=
  if c = '[' then some ']' else if ['"', '\'', '`'].contains c then some c else none

/-- The text after a quoted name.  A quote that is written twice does not end it; `ended` tells
whether the character before the text was a quote that ends it unless a second one follows. -/
def afterClosing (close : Char) : Bool → List Char → Option (List Char)
  | true, [] => some []
  | false, [] => none
  | true, c :: rest =>
      if c = close && close != ']' then afterClosing close false rest else some (c :: rest)
  | false, c :: rest => afterClosing close (c == close) rest

def afterName? : List Char → Option (List Char)
  | [] => none
  | c :: rest =>
      match closing? c with
      | some close => (afterClosing close false rest).map (afterGap none)
      | none =>
          if isNameChar c then some (afterGap none ((c :: rest).dropWhile isNameChar)) else none

/-- The row change that a trigger replaces, by the statement that the engine keeps for it: the words
of its creation, its name, and what it stands for. -/
def announced? (sql : String) : Option Operation := do
  let rest ← afterKeyword? "CREATE" (afterGap none sql.toList)
  let rest ← afterKeyword? "TRIGGER" rest
  let rest ← afterName? rest
  let rest ← afterKeyword? "INSTEAD" rest
  let rest ← afterKeyword? "OF" rest
  Operation.all.find? fun operation => (afterKeyword? operation.name rest).isSome

example : announced? "CREATE TRIGGER t /* INSTEAD OF DELETE ON v */ INSTEAD OF INSERT ON v" =
    some .insert := by
  decide

/-! ## Plain statements -/

def IsGap (gap : List Char) : Prop := gap ≠ [] ∧ ∀ c ∈ gap, isSpace c = true

-- By `List.all`, so that the quantifier is never decided by going through every character.
instance (gap : List Char) : Decidable (IsGap gap) :=
  decidable_of_iff (gap ≠ [] ∧ gap.all isSpace = true) (by simp [IsGap])

/-- Words in any case, each with white space after it. -/
inductive Phrase : List String → List Char → Prop
  | nil : Phrase [] []
  | cons {word : String} {words : List String} {spelled gap cs : List Char} :
      spelled.map Char.toUpper = word.toList → IsGap gap → Phrase words cs →
      Phrase (word :: words) (spelled ++ gap ++ cs)

/-- A name as it is, or between quotes that it does not hold. -/
inductive IsName : List Char → Prop
  | bare {name : List Char} : name ≠ [] → (∀ c ∈ name, isNameChar c = true) → IsName name
  | quoted {q close : Char} {name : List Char} : closing? q = some close → close ∉ name →
      IsName (q :: name ++ [close])

/-- The word `INSTEAD` with white space after it stands somewhere in the text. -/
def HoldsInstead (cs : List Char) : Prop :=
  ∃ here ∈ cs.tails, (here.take 7).map foldLetter = "INSTEAD".toList ∧
    (here.drop 7).head?.any isBlank = true

instance (cs : List Char) : Decidable (HoldsInstead cs) :=
  inferInstanceAs (Decidable (∃ here ∈ cs.tails, _))

def SpellsLink (link : List Char) : Prop :=
  link.map Char.toUpper = "OF".toList ∨ link.map Char.toUpper = "ON".toList

/-- A statement with nothing but white space between its words, from its start to the `OF` or `ON`
after the row change. -/
def Plain (text : List Char) (operation : Operation) : Prop :=
  ∃ creation name gap announcement link rest,
    text = creation ++ name ++ gap ++ announcement ++ link ++ rest ∧
    Phrase ["CREATE", "TRIGGER"] creation ∧ IsName name ∧ IsGap gap ∧
    Phrase ["INSTEAD", "OF", operation.name] announcement ∧
    SpellsLink link ∧ endsWord rest = true ∧ ¬HoldsInstead (creation ++ name)

/-! ## Characters -/

structure Letter (c : Char) : Prop where
  nameChar : isNameChar c = true
  noSpace : isSpace c = false
  noBlank : isBlank c = false
  noDash : c ≠ '-'
  noSlash : c ≠ '/'
  fold : foldLetter c = c.toUpper

theorem letters_checked : ∀ code < 128, (Char.ofNat code).toUpper.isUpper = true →
    isNameChar (Char.ofNat code) = true ∧ isSpace (Char.ofNat code) = false ∧
      isBlank (Char.ofNat code) = false ∧ Char.ofNat code ≠ '-' ∧ Char.ofNat code ≠ '/' ∧
      foldLetter (Char.ofNat code) = (Char.ofNat code).toUpper := by
  decide +kernel

theorem letter_of_toUpper {c : Char} (h : c.toUpper.isUpper = true) : Letter c := by
  have hascii : c.toNat < 128 := by
    by_contra hnot
    rw [toUpper_of_not_ascii hnot] at h
    exact hnot (lt_of_isAlpha (Bool.or_eq_true_iff.mpr (.inl h)))
  obtain ⟨hname, hspace, hblank, hdash, hslash, hfold⟩ :=
    of_ascii (P := fun c => c.toUpper.isUpper = true → isNameChar c = true ∧ isSpace c = false ∧
      isBlank c = false ∧ c ≠ '-' ∧ c ≠ '/' ∧ foldLetter c = c.toUpper) letters_checked hascii h
  exact ⟨hname, hspace, hblank, hdash, hslash, hfold⟩

theorem spaces_checked : ∀ c ∈ [' ', '\t', '\n', '\x0c', '\r'],
    isBlank c = true ∧ isNameChar c = false ∧ isWordChar c = false ∧
      c ∉ [']', '"', '\'', '`'] ∧ (foldLetter c).isUpper = false :=
  List.all_iff_forall_prop.mp (by decide +kernel)

structure Space (c : Char) : Prop where
  blank : isBlank c = true
  noNameChar : isNameChar c = false
  noWordChar : isWordChar c = false
  noQuote : c ∉ [']', '"', '\'', '`']
  noCapital : (foldLetter c).isUpper = false

theorem space_of_isSpace {c : Char} (h : isSpace c = true) : Space c := by
  obtain ⟨hblank, hname, hword, hquote, hcapital⟩ :=
    spaces_checked c (by simpa [isSpace] using h)
  exact ⟨hblank, hname, hword, hquote, hcapital⟩

def IsKeyword (word : String) : Prop := word ≠ "" ∧ ∀ c ∈ word.toList, c.isUpper = true

instance (word : String) : Decidable (IsKeyword word) :=
  decidable_of_iff (word ≠ "" ∧ word.toList.all Char.isUpper = true) (by simp [IsKeyword])

theorem letters_of_spelled {word : String} {spelled : List Char} (hword : IsKeyword word)
    (h : spelled.map Char.toUpper = word.toList) : ∀ c ∈ spelled, Letter c := by
  intro c hc
  have hmem : c.toUpper ∈ word.toList := h ▸ List.mem_map_of_mem hc
  exact letter_of_toUpper (hword.2 _ hmem)

def Lettered (cs : List Char) : Prop := ∃ c rest, cs = c :: rest ∧ Letter c

theorem lettered_of_spelled {word : String} {spelled rest : List Char} (hword : IsKeyword word)
    (h : spelled.map Char.toUpper = word.toList) : Lettered (spelled ++ rest) := by
  cases spelled with
  | nil => exact absurd (String.toList_eq_nil_iff.mp h.symm) hword.1
  | cons c more =>
      exact ⟨c, more ++ rest, rfl, letters_of_spelled hword h c List.mem_cons_self⟩

theorem SpellsLink.lettered {link : List Char} (h : SpellsLink link) (rest : List Char) :
    Lettered (link ++ rest) := by
  rcases h with hof | hon
  · exact lettered_of_spelled (by decide) hof
  · exact lettered_of_spelled (by decide) hon

theorem Phrase.lettered {word : String} {words : List String} {cs : List Char}
    (h : Phrase (word :: words) cs) (hword : IsKeyword word) (rest : List Char) :
    Lettered (cs ++ rest) := by
  cases h with
  | cons hspelled _ _ =>
      rw [List.append_assoc, List.append_assoc]
      exact lettered_of_spelled hword hspelled

theorem IsGap.exists_cons {gap : List Char} (h : IsGap gap) :
    ∃ c rest, gap = c :: rest ∧ Space c := by
  obtain ⟨c, rest, rfl⟩ := List.exists_cons_of_ne_nil h.1
  exact ⟨c, rest, rfl, space_of_isSpace (h.2 c List.mem_cons_self)⟩

theorem IsGap.blank {gap : List Char} (h : IsGap gap) : ∀ c ∈ gap, isBlank c = true :=
  fun c hc => (space_of_isSpace (h.2 c hc)).blank

/-! ## Reading a plain statement -/

def Solid (cs : List Char) : Prop :=
  ∃ c rest, cs = c :: rest ∧ isSpace c = false ∧ c ≠ '-' ∧ c ≠ '/'

theorem afterGap_solid {cs : List Char} (h : Solid cs) : afterGap none cs = cs := by
  obtain ⟨c, rest, rfl, hspace, hdash, hslash⟩ := h
  simp [afterGap, hspace, hdash, hslash]

theorem afterGap_append {gap rest : List Char} (hgap : ∀ c ∈ gap, isSpace c = true)
    (hrest : Solid rest) : afterGap none (gap ++ rest) = rest := by
  induction gap with
  | nil => exact afterGap_solid hrest
  | cons c gap ih =>
      obtain ⟨hc, hgap⟩ := List.forall_mem_cons.mp hgap
      have hdash : c ≠ '-' := by
        rintro rfl
        exact absurd hc (by decide)
      have hslash : c ≠ '/' := by
        rintro rfl
        exact absurd hc (by decide)
      simp [afterGap, hc, hdash, hslash, ih hgap]

theorem afterKeyword?_append {word : String} {spelled gap rest : List Char}
    (hword : IsKeyword word) (hspelled : spelled.map Char.toUpper = word.toList) (hgap : IsGap gap)
    (hrest : Solid rest) : afterKeyword? word (spelled ++ gap ++ rest) = some rest := by
  have hletters : ∀ c ∈ spelled, isNameChar c = true :=
    fun c hc => (letters_of_spelled hword hspelled c hc).nameChar
  obtain ⟨c, gap', rfl, hc⟩ := hgap.exists_cons
  rw [afterKeyword?, List.append_assoc, List.cons_append,
    takeWhile_append_cons hletters hc.noNameChar, dropWhile_append_cons hletters hc.noNameChar,
    if_pos hspelled, ← List.cons_append, afterGap_append hgap.2 hrest]

theorem Lettered.solid {cs : List Char} (h : Lettered cs) : Solid cs := by
  obtain ⟨c, rest, rfl, hc⟩ := h
  exact ⟨c, rest, rfl, hc.noSpace, hc.noDash, hc.noSlash⟩

theorem Phrase.read {word : String} {words : List String} {cs : List Char}
    (h : Phrase (word :: words) cs) (hword : IsKeyword word) (rest : List Char)
    (hrest : ∀ more, Phrase words more → Solid (more ++ rest)) :
    ∃ more, Phrase words more ∧ afterKeyword? word (cs ++ rest) = some (more ++ rest) := by
  cases h with
  | @cons _ _ spelled gap more hspelled hgap hmore =>
      refine ⟨more, hmore, ?_⟩
      rw [List.append_assoc _ more]
      exact afterKeyword?_append hword hspelled hgap (hrest more hmore)

theorem quote_of_closing? {q close : Char} (h : closing? q = some close) :
    q ∈ ['[', '"', '\'', '`'] ∧ close ∈ [']', '"', '\'', '`'] := by
  unfold closing? at h
  split at h
  case isTrue hq =>
    cases h
    simp [hq]
  case isFalse =>
    split at h
    case isTrue hq =>
      cases h
      simp_all
    case isFalse => cases h

theorem closing?_of_isNameChar {c : Char} (h : isNameChar c = true) : closing? c = none := by
  have hquotes : ∀ q ∈ ['[', '"', '\'', '`'], isNameChar q = false :=
    List.all_iff_forall_prop.mp (by decide)
  cases hclosing : closing? c with
  | none => rfl
  | some close => simp [hquotes c (quote_of_closing? hclosing).1] at h

theorem afterClosing_append {close : Char} {name rest : List Char} (hname : close ∉ name)
    {c : Char} (hc : c ≠ close) :
    afterClosing close false (name ++ close :: c :: rest) = some (c :: rest) := by
  induction name with
  | nil => simp [afterClosing, hc]
  | cons d name ih =>
      rw [List.mem_cons, not_or] at hname
      have hd : (d == close) = false := beq_false_of_ne (Ne.symm hname.1)
      rw [List.cons_append, afterClosing, hd, ih hname.2]

theorem IsName.solid {name rest : List Char} (h : IsName name) : Solid (name ++ rest) := by
  cases h with
  | bare hne hchars =>
      obtain ⟨c, more, rfl⟩ := List.exists_cons_of_ne_nil hne
      have hc := hchars c List.mem_cons_self
      refine ⟨c, more ++ rest, rfl, ?_, ?_, ?_⟩
      · rw [Bool.eq_false_iff]
        intro hspace
        simp [(space_of_isSpace hspace).noNameChar] at hc
      · rintro rfl
        exact absurd hc (by decide)
      · rintro rfl
        exact absurd hc (by decide)
  | quoted hclosing _ =>
      have hquotes : ∀ q ∈ ['[', '"', '\'', '`'], isSpace q = false ∧ q ≠ '-' ∧ q ≠ '/' :=
        List.all_iff_forall_prop.mp (by decide)
      exact ⟨_, _, rfl, hquotes _ (quote_of_closing? hclosing).1⟩

theorem afterName?_append {name gap rest : List Char} (hname : IsName name) (hgap : IsGap gap)
    (hrest : Solid rest) : afterName? (name ++ gap ++ rest) = some rest := by
  obtain ⟨b, gap', rfl, hb⟩ := hgap.exists_cons
  have hafter := afterGap_append hgap.2 hrest
  cases hname with
  | bare hne hchars =>
      obtain ⟨c, more, rfl⟩ := List.exists_cons_of_ne_nil hne
      have hc := hchars c List.mem_cons_self
      have hdrop : ((c :: more) ++ b :: (gap' ++ rest)).dropWhile isNameChar =
          b :: (gap' ++ rest) := dropWhile_append_cons hchars hb.noNameChar
      simp only [List.append_assoc, List.cons_append] at hdrop hafter ⊢
      simp only [afterName?, closing?_of_isNameChar hc, hc, if_true, hdrop, hafter]
  | @quoted q close name hclosing hfree =>
      have hne : b ≠ close := by
        rintro rfl
        exact hb.noQuote (quote_of_closing? hclosing).2
      have hread : afterClosing close false (name ++ close :: b :: (gap' ++ rest)) =
          some (b :: (gap' ++ rest)) := afterClosing_append hfree hne
      simp only [List.append_assoc, List.cons_append, List.nil_append] at hread hafter ⊢
      simp only [afterName?, hclosing, hread, Option.map_some, hafter]

theorem afterKeyword?_isSome_iff {word : String} {cs : List Char} :
    (afterKeyword? word cs).isSome = true ↔
      (cs.takeWhile isNameChar).map Char.toUpper = word.toList := by
  unfold afterKeyword?
  split <;> simp [*]

theorem Operation.name_inj {operation other : Operation} :
    operation.name.toList = other.name.toList ↔ operation = other := by
  cases operation <;> cases other <;> decide

theorem find?_operation {cs rest : List Char} {operation : Operation}
    (h : afterKeyword? operation.name cs = some rest) :
    (Operation.all.find? fun other => (afterKeyword? other.name cs).isSome) = some operation := by
  have hname := afterKeyword?_isSome_iff.mp (Option.isSome_of_eq_some h)
  have hsame : (fun other : Operation => (afterKeyword? other.name cs).isSome) =
      fun other => decide (operation = other) := by
    funext other
    rw [Bool.eq_iff_iff, afterKeyword?_isSome_iff, hname, Operation.name_inj, decide_eq_true_iff]
  rw [hsame]
  cases operation <;> rfl

theorem operation_isKeyword (operation : Operation) : IsKeyword operation.name := by
  cases operation <;> decide

theorem Plain.announced {sql : String} {operation : Operation} (h : Plain sql.toList operation) :
    announced? sql = some operation := by
  obtain ⟨creation, name, gap, announcement, link, rest, hsql, hcreation, hname, hgap,
    hannouncement, hlink, -, -⟩ := h
  have hlinked : Solid (link ++ rest) := (hlink.lettered rest).solid
  have hchange : IsKeyword operation.name := operation_isKeyword operation
  have hstart : Solid sql.toList := by
    simp only [hsql, List.append_assoc]
    exact (hcreation.lettered (by decide) _).solid
  obtain ⟨trigger, htrigger, hcreate⟩ := hcreation.read (by decide)
    (name ++ gap ++ announcement ++ link ++ rest)
    fun more hmore => (hmore.lettered (by decide) _).solid
  obtain ⟨_, hnil, htrigger⟩ := htrigger.read (by decide)
    (name ++ gap ++ announcement ++ link ++ rest) fun more hmore => by
      cases hmore
      simp only [List.nil_append, List.append_assoc]
      exact hname.solid
  cases hnil
  have hannounced := hannouncement.lettered (by decide) (link ++ rest)
  have hnamed := afterName?_append hname hgap hannounced.solid
  obtain ⟨of, hof, hinstead⟩ := hannouncement.read (by decide) (link ++ rest)
    fun more hmore => (hmore.lettered (by decide) _).solid
  obtain ⟨word, hword, hof⟩ := hof.read (by decide) (link ++ rest)
    fun more hmore => (hmore.lettered hchange _).solid
  obtain ⟨_, hnil, hword⟩ := hword.read hchange (link ++ rest) fun more hmore => by
    cases hmore
    exact hlinked
  cases hnil
  simp only [List.append_assoc, List.nil_append] at hsql hcreate htrigger hnamed hinstead hof hword
  rw [announced?, afterGap_solid hstart, hsql]
  simp only [hcreate, htrigger, hnamed, hinstead, hof, find?_operation hword, Option.bind_eq_bind,
    Option.bind_some]

/-! ## Searching a plain statement -/

theorem afterWord?_eq_some_iff {word cs rest : List Char} :
    afterWord? word cs = some rest ↔
      ∃ spelled, cs = spelled ++ rest ∧ spelled.map foldLetter = word := by
  fun_induction afterWord? word cs with
  | case1 cs => simp [eq_comm]
  | case2 w word => simp
  | case3 word c cs ih =>
      rw [ih]
      constructor
      · rintro ⟨spelled, rfl, rfl⟩
        exact ⟨c :: spelled, rfl, rfl⟩
      · rintro ⟨spelled, hcs, hspelled⟩
        cases spelled with
        | nil => cases hspelled
        | cons d spelled =>
            obtain ⟨rfl, rfl⟩ := List.cons.inj hcs
            exact ⟨spelled, rfl, (List.cons.inj hspelled).2⟩
  | case4 w word c cs hc =>
      refine iff_of_false nofun ?_
      rintro ⟨spelled, hcs, hspelled⟩
      cases spelled with
      | nil => cases hspelled
      | cons d spelled =>
          obtain ⟨rfl, rfl⟩ := List.cons.inj hcs
          exact hc (List.cons.inj hspelled).1

theorem afterBlanks?_append {gap rest : List Char} (hgap : IsGap gap) (hrest : Lettered rest) :
    afterBlanks? (gap ++ rest) = some rest := by
  obtain ⟨c, rest, rfl, hc⟩ := hrest
  have hdrop : (gap ++ c :: rest).dropWhile isBlank = c :: rest :=
    dropWhile_append_cons hgap.blank hc.noBlank
  obtain ⟨b, gap, rfl, hb⟩ := hgap.exists_cons
  rw [List.cons_append, List.dropWhile_cons_of_pos hb.blank] at hdrop
  simp [afterBlanks?, hb.blank, hdrop]

theorem fold_of_spelled {word : String} {spelled : List Char} (hword : IsKeyword word)
    (h : spelled.map Char.toUpper = word.toList) : spelled.map foldLetter = word.toList := by
  rw [← h]
  exact List.map_congr_left fun c hc => (letters_of_spelled hword h c hc).fold

theorem Phrase.seek {word : String} {words : List String} {cs : List Char}
    (h : Phrase (word :: words) cs) (hword : IsKeyword word) (rest : List Char)
    (hrest : ∀ more, Phrase words more → Lettered (more ++ rest)) :
    ∃ more, Phrase words more ∧
      (afterWord? word.toList (cs ++ rest)).bind afterBlanks? = some (more ++ rest) := by
  cases h with
  | @cons _ _ spelled gap more hspelled hgap hmore =>
      refine ⟨more, hmore, ?_⟩
      have hfound : afterWord? word.toList (spelled ++ gap ++ more ++ rest) =
          some (gap ++ (more ++ rest)) :=
        afterWord?_eq_some_iff.mpr ⟨spelled, by simp, fold_of_spelled hword hspelled⟩
      rw [hfound, Option.bind_some, afterBlanks?_append hgap (hrest more hmore)]

theorem exists_of_append_eq (start : List Char) {gap rest word more : List Char} (hgap : gap ≠ [])
    (hword : ∀ c ∈ word, c ∉ gap) (h : start ++ gap ++ rest = word ++ more) :
    ∃ left, start = word ++ left ∧ more = left ++ gap ++ rest := by
  rw [List.append_assoc, List.append_eq_append_iff] at h
  rcases h with ⟨beyond, rfl, hbeyond⟩ | ⟨left, rfl, rfl⟩
  · cases beyond with
    | nil => exact ⟨[], by simp, by simpa using hbeyond.symm⟩
    | cons c beyond =>
        obtain ⟨b, gap, rfl⟩ := List.exists_cons_of_ne_nil hgap
        obtain rfl : b = c := (List.cons.inj hbeyond).1
        exact absurd List.mem_cons_self (hword b (by simp))
  · exact ⟨left, rfl, by simp⟩

theorem not_isBlank_of_not_holdsInstead {before word left : List Char} {c : Char}
    (h : ¬HoldsInstead (before ++ (word ++ c :: left)))
    (hword : word.map foldLetter = "INSTEAD".toList) : isBlank c = false := by
  rw [Bool.eq_false_iff]
  intro hblank
  have hlength : word.length = 7 := by simpa using congrArg List.length hword
  have htail : word ++ c :: left ∈ (before ++ (word ++ c :: left)).tails :=
    (List.mem_tails _ _).mpr (List.suffix_append _ _)
  refine h ⟨word ++ c :: left, htail, ?_, ?_⟩
  · rwa [List.take_left' hlength]
  · simp [List.drop_left' hlength, hblank]

theorem not_mem_gap {word gap : List Char} (hgap : IsGap gap)
    (hword : word.map foldLetter = "INSTEAD".toList) : ∀ c ∈ word, c ∉ gap := by
  have hcapital : ∀ c ∈ "INSTEAD".toList, c.isUpper = true := List.all_eq_true.mp (by decide)
  intro c hc hmem
  have hupper := hcapital _ (hword ▸ List.mem_map_of_mem hc)
  rw [(space_of_isSpace (hgap.2 c hmem)).noCapital] at hupper
  cases hupper

theorem afterInstead_eq_none {start gap rest cs more : List Char} (hstart : ¬HoldsInstead start)
    (hgap : IsGap gap) (hrest : Lettered rest) (hof : afterWord? "OF".toList rest = none)
    (hne : cs ≠ []) (hcs : cs <:+ start ++ gap)
    (hmore : afterWord? "INSTEAD".toList (cs ++ rest) = some more) :
    (afterBlanks? more).bind (afterWord? "OF".toList) = none := by
  obtain ⟨word, hsplit, hword⟩ := afterWord?_eq_some_iff.mp hmore
  have hfree := not_mem_gap hgap hword
  obtain ⟨before, hbefore⟩ := hcs
  -- The place lies before the gap, or in it.
  rcases List.append_eq_append_iff.mp hbefore with ⟨inside, rfl, rfl⟩ | ⟨blanks, -, rfl⟩
  · obtain ⟨left, rfl, rfl⟩ := exists_of_append_eq _ hgap.1 hfree hsplit
    cases left with
    | nil => rw [List.nil_append, afterBlanks?_append hgap hrest, Option.bind_some, hof]
    | cons c left => simp [afterBlanks?, not_isBlank_of_not_holdsInstead hstart hword]
  · have hlong : word ≠ [] := by
      rintro rfl
      cases hword
    obtain ⟨left, hleft, -⟩ := exists_of_append_eq [] hne
      (fun c hc hmem => hfree c hc (List.mem_append_right blanks hmem)) hsplit
    exact absurd (List.append_eq_nil_iff.mp hleft.symm).1 hlong

theorem wordAt?_eq_none {start gap rest cs : List Char} (hstart : ¬HoldsInstead start)
    (hgap : IsGap gap) (hrest : Lettered rest) (hof : afterWord? "OF".toList rest = none)
    (hne : cs ≠ []) (hcs : cs <:+ start ++ gap) : wordAt? (cs ++ rest) = none := by
  unfold wordAt?
  cases hinstead : afterWord? "INSTEAD".toList (cs ++ rest) with
  | none => rfl
  | some more =>
      have hmore := afterInstead_eq_none hstart hgap hrest hof hne hcs hinstead
      cases hblanks : afterBlanks? more with
      | none => simp [hblanks]
      | some after => simp_all

theorem searchWord?_append {head rest : List Char} {inWord : Bool}
    (h : ∀ cs, cs ≠ [] → cs <:+ head → wordAt? (cs ++ rest) = none) :
    searchWord? inWord (head ++ rest) =
      searchWord? (head.getLast?.elim inWord isWordChar) rest := by
  induction head generalizing inWord with
  | nil => rfl
  | cons c head ih =>
      have hhere := h (c :: head) (List.cons_ne_nil c head) List.suffix_rfl
      have hlater : searchWord? (isWordChar c) (head ++ rest) =
          searchWord? (head.getLast?.elim (isWordChar c) isWordChar) rest :=
        ih fun cs hne hcs => h cs hne (hcs.trans (List.suffix_cons c head))
      rw [List.cons_append] at hhere ⊢
      rw [searchWord?, hhere, ite_self, Option.orElse_none, hlater]
      cases head with
      | nil => rfl
      | cons d tail => rw [List.getLast?_cons_cons, List.getLast?_cons]; rfl

theorem afterWord?_unique {word other cs rest rest' : List Char}
    (hlength : word.length = other.length) (h : afterWord? word cs = some rest)
    (hother : afterWord? other cs = some rest') : word = other := by
  obtain ⟨spelled, hcs, rfl⟩ := afterWord?_eq_some_iff.mp h
  obtain ⟨spelled', hcs', rfl⟩ := afterWord?_eq_some_iff.mp hother
  rw [List.length_map, List.length_map] at hlength
  rw [(List.append_inj (hcs.symm.trans hcs') hlength).1]

theorem length_name (operation : Operation) : operation.name.toList.length = 6 := by
  cases operation <;> rfl

theorem find?_startsOperation {cs : List Char} {operation : Operation}
    (h : startsOperation cs operation = true) :
    Operation.all.find? (startsOperation cs) = some operation := by
  have hword : ∀ other, startsOperation cs other = true →
      ∃ rest, afterWord? other.name.toList cs = some rest := by
    intro other hstarts
    cases hfound : afterWord? other.name.toList cs with
    | none => simp [startsOperation, hfound] at hstarts
    | some rest => exact ⟨rest, rfl⟩
  have hsame : startsOperation cs = fun other => decide (operation = other) := by
    funext other
    rw [Bool.eq_iff_iff, decide_eq_true_iff]
    constructor
    · intro hother
      obtain ⟨_, hfirst⟩ := hword operation h
      obtain ⟨_, hsecond⟩ := hword other hother
      have hlength := (length_name operation).trans (length_name other).symm
      exact Operation.name_inj.mp (afterWord?_unique hlength hfirst hsecond)
    · rintro rfl
      exact h
  rw [hsame]
  cases operation <;> rfl

theorem SpellsLink.isLink {link rest : List Char} (h : SpellsLink link)
    (hrest : endsWord rest = true) : Sql.isLink (link ++ rest) = true := by
  simp only [Sql.isLink, List.any_cons, List.any_nil, Bool.or_false, Bool.or_eq_true]
  refine h.imp (fun hof => ?_) fun hon => ?_
  · rw [afterWord?_eq_some_iff.mpr ⟨link, rfl, fold_of_spelled (by decide) hof⟩]
    exact hrest
  · rw [afterWord?_eq_some_iff.mpr ⟨link, rfl, fold_of_spelled (by decide) hon⟩]
    exact hrest

theorem Phrase.take_name {operation : Operation} {words : List String} {cs : List Char}
    (h : Phrase (operation.name :: words) cs) (rest : List Char) :
    upperChars ((cs ++ rest).take operation.name.length) = operation.name.toList := by
  cases h with
  | @cons _ _ spelled gap _ hspelled _ _ =>
      have hascii : ∀ c ∈ operation.name.toList, c.toNat < 128 :=
        List.all_iff_forall_prop.mp (by cases operation <;> decide)
      have hlength : operation.name.length = spelled.length := by
        rw [← String.length_toList, ← hspelled, List.length_map]
      rw [List.append_assoc, List.append_assoc, List.take_left' hlength.symm,
        upperChars_of_map_toUpper hascii hspelled]

theorem wordAt?_announcement {announcement link rest : List Char} {operation : Operation}
    (h : Phrase ["INSTEAD", "OF", operation.name] announcement) (hlink : SpellsLink link)
    (hrest : endsWord rest = true) :
    wordAt? (announcement ++ (link ++ rest)) = some operation.name := by
  have hchange : IsKeyword operation.name := operation_isKeyword operation
  obtain ⟨of, hof, hinstead⟩ := h.seek (by decide) (link ++ rest)
    fun more hmore => hmore.lettered (by decide) _
  obtain ⟨word, hword, hof⟩ := hof.seek (by decide) (link ++ rest)
    fun more hmore => hmore.lettered hchange _
  have hstarts : startsOperation (word ++ (link ++ rest)) operation = true := by
    obtain ⟨_, hnil, hfound⟩ := hword.seek hchange (link ++ rest) fun more hmore => by
      cases hmore
      exact hlink.lettered rest
    cases hnil
    rw [startsOperation, hfound]
    exact hlink.isLink hrest
  rw [wordAt?]
  simp only [Option.bind_eq_bind, ← Option.bind_assoc, hinstead, hof, Option.bind_some,
    find?_startsOperation hstarts, hword.take_name, String.ofList_toList]
  rfl

theorem afterOf_announcement {announcement rest : List Char} {words : List String}
    (h : Phrase ("INSTEAD" :: words) announcement) :
    afterWord? "OF".toList (announcement ++ rest) = none := by
  cases h with
  | @cons _ _ spelled _ _ hspelled _ _ =>
      have hfold := fold_of_spelled (by decide) hspelled
      cases spelled with
      | nil => cases hfold
      | cons c spelled =>
          have hc : foldLetter c = 'I' := (List.cons.inj hfold).1
          simp [afterWord?, hc]

/-- The row change of a plain statement is found. -/
theorem Plain.insteadOf {sql : String} {operation : Operation} (h : Plain sql.toList operation) :
    insteadOf? sql = some operation := by
  obtain ⟨creation, name, gap, announcement, link, rest, hsql, -, -, hgap, hannouncement, hlink,
    hrest, hstart⟩ := h
  have hlettered := hannouncement.lettered (by decide) (link ++ rest)
  have hword := wordAt?_announcement hannouncement hlink hrest
  have hof : afterWord? "OF".toList (announcement ++ (link ++ rest)) = none :=
    afterOf_announcement hannouncement
  have hsearch : searchWord? false sql.toList =
      searchWord? false (announcement ++ (link ++ rest)) := by
    have hsplit : sql.toList = (creation ++ name ++ gap) ++ (announcement ++ (link ++ rest)) := by
      simp [hsql]
    have hlast : isWordChar (gap.getLast hgap.1) = false :=
      (space_of_isSpace (hgap.2 _ (List.getLast_mem hgap.1))).noWordChar
    rw [hsplit, searchWord?_append fun cs => wordAt?_eq_none hstart hgap hlettered hof,
      List.getLast?_append_of_ne_nil _ hgap.1, List.getLast?_eq_some_getLast hgap.1,
      Option.elim_some, hlast]
  obtain ⟨c, more, hmore, -⟩ := hlettered
  rw [insteadOf?, insteadOfWord?, hsearch, hmore, searchWord?, ← hmore, hword]
  cases operation <;> rfl

/-! ## Statements as they are mostly written -/

theorem Phrase.spaced {words : List String}
    (h : ∀ word ∈ words, word.toList.map Char.toUpper = word.toList) :
    Phrase words (words.flatMap fun word => word.toList ++ [' ']) := by
  induction words with
  | nil => exact .nil
  | cons word words ih =>
      obtain ⟨hword, hwords⟩ := List.forall_mem_cons.mp h
      exact .cons hword (by decide) (ih hwords)

theorem plain_spaced {name : List Char} (hname : IsName name)
    (hfree : ¬HoldsInstead ("CREATE TRIGGER ".toList ++ name)) (operation : Operation)
    (rest : List Char) :
    Plain ("CREATE TRIGGER ".toList ++ name ++ " INSTEAD OF ".toList ++ operation.name.toList ++
      " ON ".toList ++ rest) operation := by
  have hcreation : ∀ word ∈ ["CREATE", "TRIGGER"],
      word.toList.map Char.toUpper = word.toList := by decide
  have hannouncement : ∀ word ∈ ["INSTEAD", "OF", operation.name],
      word.toList.map Char.toUpper = word.toList := by cases operation <;> decide
  have hend : isWordChar ' ' = false := by decide
  refine ⟨_, name, [' '], _, "ON".toList, ' ' :: rest, ?_, .spaced hcreation, hname, by decide,
    .spaced hannouncement, .inr rfl, ?_, hfree⟩
  · simp
  · simp [endsWord, hend]

end RecordLoom.Catalog.Sql
