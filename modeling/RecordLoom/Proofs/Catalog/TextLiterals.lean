import RecordLoom.Proofs.Catalog.Reading

/-!
# Text defaults

A text literal is a quote, a value with every quote in it written twice, and a quote.  Each one is
read as its value.  But every other default between two quotes is read as a text as well, also one
whose first literal ends before the last quote, such as `'a' || 'b'`.
-/

namespace RecordLoom.Catalog

open RecordLoom.Text

namespace Literal

def doubled (cs : List Char) : List Char :=
  cs.flatMap fun c => if c = '\'' then ['\'', '\''] else [c]

def quoted (value : List Char) : List Char := '\'' :: doubled value ++ ['\'']

/-- A text with every pair of quotes written once, from left to right. -/
def undoubled : List Char → List Char
  | '\'' :: '\'' :: rest => '\'' :: undoubled rest
  | c :: rest => c :: undoubled rest
  | [] => []

/-- A literal ends before the end of a text that starts inside it: a quote comes that no second one
follows. -/
def EndsWithin (inner : List Char) : Prop :=
  ∃ value rest, inner = doubled value ++ '\'' :: rest ∧ rest.head? ≠ some '\''

/-! ## Quotes written twice -/

@[simp] theorem doubled_nil : doubled [] = [] := rfl

@[simp] theorem doubled_quote (cs : List Char) :
    doubled ('\'' :: cs) = '\'' :: '\'' :: doubled cs := rfl

@[simp] theorem doubled_cons {c : Char} (hc : c ≠ '\'') (cs : List Char) :
    doubled (c :: cs) = c :: doubled cs := by
  simp [doubled, hc]

@[simp] theorem undoubled_cons {c : Char} (hc : c ≠ '\'') (cs : List Char) :
    undoubled (c :: cs) = c :: undoubled cs := by
  rw [undoubled]
  simp [hc]

theorem undoubled_doubled (cs : List Char) : undoubled (doubled cs) = cs := by
  induction cs with
  | nil => rfl
  | cons c rest ih =>
      by_cases hc : c = '\''
      · simp [hc, undoubled, ih]
      · simp [hc, ih]

theorem replaceFrom_eq_undoubled (cs : List Char) :
    replaceFrom ['\'', '\''] ['\''] 0 cs = undoubled cs := by
  fun_induction undoubled cs with
  | case1 rest ih => simp [replaceFrom, ih]
  | case2 c rest hpair ih =>
      have hprefix : ['\'', '\''].isPrefixOf (c :: rest) = false := by
        rw [Bool.eq_false_iff]
        intro hstart
        obtain ⟨after, hafter⟩ := List.isPrefixOf_iff_prefix.mp hstart
        cases hafter
        exact hpair _ rfl rfl
      rw [replaceFrom, hprefix, ih]
      rfl
  | case3 => rfl

/-- A text in which every quote is written twice does not end a literal, and any other does. -/
theorem doubled_or_endsWithin (cs : List Char) : cs = doubled (undoubled cs) ∨ EndsWithin cs := by
  fun_induction undoubled cs with
  | case1 rest ih =>
      rcases ih with hsame | ⟨value, after, rfl, hafter⟩
      · exact .inl (by rw [doubled_quote, ← hsame])
      · exact .inr ⟨'\'' :: value, after, rfl, hafter⟩
  | case2 c rest hpair ih =>
      by_cases hc : c = '\''
      case pos =>
        subst hc
        refine .inr ⟨[], rest, rfl, ?_⟩
        intro hhead
        obtain ⟨after, rfl⟩ := List.head?_eq_some_iff.mp hhead
        exact hpair after rfl rfl
      case neg =>
        rcases ih with hsame | ⟨value, after, rfl, hafter⟩
        · exact .inl (by rw [doubled_cons hc, ← hsame])
        · exact .inr ⟨c :: value, after, by simp [hc], hafter⟩
  | case3 => exact .inl rfl

theorem not_endsWithin_doubled (value : List Char) : ¬EndsWithin (doubled value) := by
  rintro ⟨shorter, rest, hsplit, hrest⟩
  induction value generalizing shorter with
  | nil => simp at hsplit
  | cons c value ih =>
      by_cases hc : c = '\''
      case pos =>
        subst hc
        cases shorter with
        | nil =>
            obtain rfl : '\'' :: doubled value = rest := by simpa using hsplit
            exact hrest rfl
        | cons d shorter =>
            by_cases hd : d = '\''
            · subst hd
              exact ih shorter (by simpa using hsplit)
            · simp [hd, Ne.symm hd] at hsplit
      case neg =>
        cases shorter with
        | nil => simp [hc] at hsplit
        | cons d shorter =>
            by_cases hd : d = '\''
            · subst hd
              simp [hc] at hsplit
            · simp only [doubled_cons hc, doubled_cons hd, List.cons_append, List.cons.injEq]
                at hsplit
              exact ih shorter hsplit.2

theorem eq_doubled_iff {inner value : List Char} :
    inner = doubled value ↔ value = undoubled inner ∧ ¬EndsWithin inner := by
  constructor
  · rintro rfl
    exact ⟨(undoubled_doubled value).symm, not_endsWithin_doubled value⟩
  · rintro ⟨rfl, hwhole⟩
    exact (doubled_or_endsWithin inner).resolve_right hwhole

theorem quoted_iff {body value : List Char} :
    body = quoted value ↔ ∃ inner, body = '\'' :: inner ++ ['\''] ∧ inner = doubled value := by
  simp [quoted]

end Literal

/-! ## Reading -/

theorem parse_text_iff {text value : String} :
    Literal.parse text = .ok (.text value) ↔
      ∃ inner, (trim text).toList = '\'' :: inner ++ ['\''] ∧
        value.toList = Literal.undoubled inner := by
  constructor
  · intro h
    have hparses := parse_parses text
    generalize Literal.parse text = result at h hparses
    cases hparses with
    | integer =>
        unfold Literal.readInteger at h
        split at h <;> cases h
    | @text inner hinner =>
        cases h
        refine ⟨inner, betweenQuotes?_eq_some_iff.mp hinner, ?_⟩
        simp [replace, replaceChars, Literal.replaceFrom_eq_undoubled]
    | @blob digits hdigits =>
        cases hbytes : Literal.pairDigits digits <;> simp [hbytes, Except.map] at h
    | _ => cases h
  · rintro ⟨inner, hbody, hvalue⟩
    have hwords : ∀ word ∈ Literal.words, upper (trim text) ≠ word :=
      fun word => upper_ne_of_quoted (by simp [hbody])
    have hinteger : Literal.isIntegerText (trim text).toList = false := by
      rw [hbody]
      rfl
    have hreal : Literal.isRealText (trim text).toList = false := by
      rw [hbody]
      rfl
    have hquotes := betweenQuotes?_eq_some_iff.mpr hbody
    have hread : replace "''" "'" (.ofList inner) = value := by
      rw [← String.toList_inj, hvalue]
      simp [replace, replaceChars, Literal.replaceFrom_eq_undoubled]
    simp [Literal.parse, hwords "NULL" (by decide), hwords "TRUE" (by decide),
      hwords "FALSE" (by decide), hinteger, hreal, hquotes, hread]

/-- A text literal is read as its value.  Whatever else is read as a text stands between two quotes
that do not belong together. -/
theorem parse_textLiteral {text value : String} :
    (Literal.parse text = .ok (.text value) ↔
        ∃ inner, (trim text).toList = '\'' :: inner ++ ['\''] ∧
          value.toList = Literal.undoubled inner) ∧
      ((trim text).toList = Literal.quoted value.toList ↔
        Literal.parse text = .ok (.text value) ∧
          ¬∃ inner, (trim text).toList = '\'' :: inner ++ ['\''] ∧ Literal.EndsWithin inner) := by
  refine ⟨parse_text_iff, ?_⟩
  rw [parse_text_iff, Literal.quoted_iff]
  simp only [Literal.eq_doubled_iff]
  constructor
  · rintro ⟨inner, hbody, hvalue, hwhole⟩
    refine ⟨⟨inner, hbody, hvalue⟩, ?_⟩
    rintro ⟨other, hother, hends⟩
    obtain rfl : inner = other := by simpa using hbody.symm.trans hother
    exact hwhole hends
  · rintro ⟨⟨inner, hbody, hvalue⟩, hnone⟩
    exact ⟨inner, hbody, hvalue, fun hends => hnone ⟨inner, hbody, hends⟩⟩

example : Literal.parse "'a' || 'b'" = .ok (.text "a' || 'b") := by decide

end RecordLoom.Catalog
