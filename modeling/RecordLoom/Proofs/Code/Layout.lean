import RecordLoom.Proofs.Code.Ink

/-!
# Layout

Indentation, line ends and the length of lines decide where white space stands, and nothing else.
A printer is compared with the one of the same style that leaves all of these out: whatever it
prints of an expression or a statement, the other prints with the same ink, or fails in the same
way.
-/

namespace RecordLoom.Code

open Text

/-- A style without indentation, line ends and room on its lines. -/
def Style.bare (s : Style) : Style := { s with indent := "", eol := "", lineLength := 0 }

theorem Style.Spaced.bare {s : Style} (h : s.Spaced) : s.bare.Spaced :=
  ⟨ink_empty, ink_empty, h.separator⟩

def Printer.bare (p : Printer) : Printer := ⟨p.style.bare, p.spelling⟩

/-! ## Two computations at once -/

section

variable {α β γ δ : Type} {read : α → γ} {read' : β → δ}

theorem pure_congr_map {a a' : α} (h : read a = read a') :
    (pure a : Printed α).map read = (pure a' : Printed α).map read :=
  congrArg Except.ok h

theorem bind_congr_map {x y : Printed α} {f g : α → Printed β} (hfirst : x.map read = y.map read)
    (hsecond : ∀ a a', read a = read a' → (f a).map read' = (g a').map read') :
    (x >>= f).map read' = (y >>= g).map read' := by
  cases x with
  | error e =>
      cases y with
      | error e' =>
          cases hfirst
          rfl
      | ok a' => cases hfirst
  | ok a =>
      cases y with
      | error e' => cases hfirst
      | ok a' => exact hsecond a a' (Except.ok.inj hfirst)

theorem bind_congr_map_same {x : Printed α} {f g : α → Printed β}
    (hsecond : ∀ a, (f a).map read' = (g a).map read') :
    (x >>= f).map read' = (x >>= g).map read' :=
  have hfirst : x.map id = x.map id := rfl
  bind_congr_map hfirst fun a a' (h : a = a') => h ▸ hsecond a

end

theorem ink_commaJoined {texts others : List String} (h : texts.map ink = others.map ink) :
    ink (Printer.commaJoined texts) = ink (Printer.commaJoined others) := by
  simp only [Printer.commaJoined, ink_intercalate, h]

theorem isEmpty_of_map_ink {texts others : List String} (h : texts.map ink = others.map ink) :
    texts.isEmpty = others.isEmpty := by
  rw [← List.isEmpty_map (f := ink), h, List.isEmpty_map]

namespace Printer

variable {p : Printer}

section

variable (p)

theorem spaced_bare {p : Printer} (h : p.style.Spaced) : p.bare.style.Spaced := h.bare

@[simp] theorem bare_spelling : p.bare.spelling = p.spelling := rfl

@[simp] theorem bare_join (items : List String) : p.bare.join items = p.join items := rfl

@[simp] theorem bare_eol : p.bare.style.eol = "" := rfl

@[simp] theorem bare_typeSeparator : p.bare.style.typeSeparator = p.style.typeSeparator := rfl

@[simp] theorem bare_valueSeparator : p.bare.style.valueSeparator = p.style.valueSeparator := rfl

@[simp] theorem bare_callName (name : String) : p.bare.callName name = p.callName name := rfl

@[simp] theorem bare_callMarks (tries awaits : Bool) :
    p.bare.callMarks tries awaits = p.callMarks tries awaits := rfl

@[simp] theorem bare_labeled (label : Option String) (text : String) :
    p.bare.labeled label text = p.labeled label text := rfl

@[simp] theorem bare_literalText (node : Node) : p.bare.literalText node = p.literalText node := rfl

theorem ink_arrayText {texts others : List String} (h : texts.map ink = others.map ink) :
    ink (arrayText texts) = ink (arrayText others) := by
  simp only [arrayText, isEmpty_of_map_ink h]
  split <;> simp [ink_intercalate, h]

theorem ink_labeled (label : Option String) {text other : String} (h : ink text = ink other) :
    ink (p.labeled label text) = ink (p.labeled label other) := by
  unfold labeled
  cases label with
  | none => exact h
  | some label =>
      dsimp only
      split <;> simp [h]

end

/-! ## Types -/

mutual

theorem typeText_bare (type : Node) : p.bare.typeText type = p.typeText type := by
  cases type with
  | namedType name arguments => simp only [typeText, typeTexts_bare arguments, bare_join]
  | optionalType wrapped => simp only [typeText, typeText_bare wrapped, bare_spelling]
  | arrayType element => simp only [typeText, typeText_bare element, bare_spelling]
  | qualifiedType base name => simp only [typeText, typeText_bare base]
  | keyPathType root value =>
      simp only [typeText, typeText_bare root, typeText_bare value, bare_spelling]
  | closureType parameters returns throws escaping =>
      simp only [typeText, typeText_bare returns, typeTexts_bare parameters, bare_spelling]
  | _ => rfl

theorem typeTexts_bare (types : List Node) : p.bare.typeTexts types = p.typeTexts types := by
  cases types with
  | nil => rfl
  | cons type rest => simp only [typeTexts, typeText_bare type, typeTexts_bare rest]

end

/-! ## Expressions and statements -/

section

variable (h : p.style.Spaced)

include h

theorem ink_closureHead (parameters : List String) :
    ink (p.closureHead parameters) = ink (p.bare.closureHead parameters) := by
  unfold closureHead
  split <;> simp [h.eol]

theorem writeArguments_bare (level : Nat) {head head' : String} (hhead : ink head = ink head')
    {texts texts' : List String} (htexts : texts.map ink = texts'.map ink) {b c : Buffer}
    (hb : b.ink = c.ink) :
    (p.writeArguments level head texts b).ink =
      (p.bare.writeArguments level head' texts' c).ink := by
  rw [ink_writeArguments h, ink_writeArguments (spaced_bare h), hb]
  simp [hhead, ink_commaJoined htexts]

theorem closeBlock_bare (level : Nat) {finish finish' : String} (hfinish : ink finish = ink finish')
    {b c : Buffer} (hb : b.ink = c.ink) :
    (p.closeBlock level finish b).ink = (p.bare.closeBlock level finish' c).ink := by
  rw [ink_closeBlock h, ink_closeBlock (spaced_bare h), hb, hfinish]

theorem openBlock_bare {b c : Buffer} (hb : b.ink = c.ink) :
    (openBlock p.style.eol b).ink = (openBlock p.bare.style.eol c).ink := by
  simp [ink_openBlock, hb, h.eol]

theorem ensureEol_bare {b c : Buffer} (hb : b.ink = c.ink) :
    (b.ensure p.style.eol).ink = (c.ensure p.bare.style.eol).ink := by
  rw [Buffer.ink_ensure h.eol, Buffer.ink_ensure (spaced_bare h).eol, hb]

theorem indented_bare (level : Nat) {text text' : String} (htext : ink text = ink text')
    {b c : Buffer} (hb : b.ink = c.ink) :
    (b.append (p.indent level ++ text)).ink = (c.append (p.bare.indent level ++ text')).ink := by
  simp [ink_indent h, ink_indent (spaced_bare h), htext, hb]

theorem conditional_bare (level : Nat) {branches : List Branch} {otherwise : List Node}
    {b c : Buffer}
    (hbranches : (p.writeBranches level p.spelling.ifKeyword branches b).map Buffer.ink =
      (p.bare.writeBranches level p.spelling.ifKeyword branches c).map Buffer.ink)
    (hstatements : ∀ b c : Buffer, b.ink = c.ink →
      (p.writeStatements (level + 1) otherwise b).map Buffer.ink =
        (p.bare.writeStatements (level + 1) otherwise c).map Buffer.ink) :
    (p.writeStatement level (.conditional branches otherwise) b).map Buffer.ink =
      (p.bare.writeStatement level (.conditional branches otherwise) c).map Buffer.ink := by
  cases branches with
  | nil => rfl
  | cons branch rest =>
      cases otherwise with
      | nil => exact bind_congr_map hbranches fun b c hb => pure_congr_map hb
      | cons statement statements =>
          refine bind_congr_map hbranches fun b c hb => ?_
          refine bind_congr_map (hstatements _ _ ?_)
            fun inner inner' hinner => pure_congr_map (closeBlock_bare h level h.eol hinner)
          refine openBlock_bare h ?_
          rw [Buffer.ink_ensure ink_blank, Buffer.ink_ensure ink_blank]
          exact indented_bare h level rfl hb

end

mutual

theorem writeExpression_bare (h : p.style.Spaced) (level : Nat) (node : Node) (b c : Buffer)
    (hb : b.ink = c.ink) :
    (p.writeExpression level node b).map Buffer.ink =
      (p.bare.writeExpression level node c).map Buffer.ink := by
  cases node with
  | variableRef name =>
      rw [writeExpression, writeExpression]
      exact pure_congr_map (by simp [hb])
  | selfRef =>
      rw [writeExpression, writeExpression]
      exact pure_congr_map (by simp [hb])
  | member base name =>
      rw [writeExpression, writeExpression]
      refine bind_congr_map (writeExpression_bare h level base .empty .empty rfl)
        fun inner inner' hinner => pure_congr_map ?_
      simp [hb, hinner]
  | keyPath property root =>
      cases root with
      | none =>
          rw [writeExpression, writeExpression]
          exact pure_congr_map (by simp [hb])
      | some type =>
          rw [writeExpression, writeExpression]
          simp only [typeText_bare type]
          exact bind_congr_map_same fun text => pure_congr_map (by simp [hb])
  | typeExpression type =>
      rw [writeExpression, writeExpression, typeText_bare type]
      exact bind_congr_map_same fun text => pure_congr_map (by simp [hb])
  | call call =>
      rw [writeExpression, writeExpression]
      exact writeCall_bare h level call b c hb
  | closure parameters body =>
      rw [writeExpression, writeExpression]
      refine bind_congr_map (writeStatements_bare h (level + 1) body _ _ ?_)
        fun inner inner' hinner => pure_congr_map ?_
      · simp [ink_openBlock, ink_closureHead h]
      · simp [hb, closeBlock_bare h level rfl hinner]
  | arrayExpression elements =>
      rw [writeExpression, writeExpression]
      refine bind_congr_map (expressionTexts_bare h level elements)
        fun texts texts' htexts => pure_congr_map ?_
      simp [hb, ink_arrayText htexts]
  | compare lhs operator rhs =>
      rw [writeExpression, writeExpression]
      refine bind_congr_map_same fun operator => ?_
      refine bind_congr_map (writeExpression_bare h level lhs .empty .empty rfl)
        fun left left' hleft => ?_
      refine bind_congr_map (writeExpression_bare h level rhs .empty .empty rfl)
        fun right right' hright => pure_congr_map ?_
      simp [hb, hleft, hright]
  | rawExpression text =>
      rw [writeExpression, writeExpression]
      exact pure_congr_map (by simp [hb])
  | _ => exact bind_congr_map_same fun text => pure_congr_map (by simp [hb])

theorem expressionTexts_bare (h : p.style.Spaced) (level : Nat) (nodes : List Node) :
    (p.expressionTexts level nodes).map (List.map ink) =
      (p.bare.expressionTexts level nodes).map (List.map ink) := by
  cases nodes with
  | nil => rfl
  | cons node rest =>
      rw [expressionTexts, expressionTexts]
      refine bind_congr_map (writeExpression_bare h level node .empty .empty rfl)
        fun inner inner' hinner => ?_
      refine bind_congr_map (expressionTexts_bare h level rest)
        fun texts texts' htexts => pure_congr_map ?_
      simp [hinner, htexts]

theorem argumentTexts_bare (h : p.style.Spaced) (level : Nat) (arguments : List Argument) :
    (p.argumentTexts level arguments).map (List.map ink) =
      (p.bare.argumentTexts level arguments).map (List.map ink) := by
  match arguments with
  | [] => rfl
  | .mk label value :: rest =>
      rw [argumentTexts, argumentTexts]
      refine bind_congr_map (writeExpression_bare h level value .empty .empty rfl)
        fun inner inner' hinner => ?_
      refine bind_congr_map (argumentTexts_bare h level rest)
        fun texts texts' htexts => pure_congr_map ?_
      simp [htexts, ink_labeled p label hinner]

theorem baseText_bare (h : p.style.Spaced) (level : Nat) (base : Option Node) :
    (p.baseText level base).map ink = (p.bare.baseText level base).map ink := by
  match base with
  | none => rfl
  | some base =>
      rw [baseText, baseText]
      refine bind_congr_map (writeExpression_bare h level base .empty .empty rfl)
        fun inner inner' hinner => pure_congr_map ?_
      simp [hinner]

theorem writeTrailing_bare (h : p.style.Spaced) (level : Nat) (trailing : Option Trailing)
    (b c : Buffer) (hb : b.ink = c.ink) :
    (p.writeTrailing level trailing b).map Buffer.ink =
      (p.bare.writeTrailing level trailing c).map Buffer.ink := by
  match trailing with
  | none => exact pure_congr_map hb
  | some (.mk parameters body) =>
      rw [writeTrailing, writeTrailing]
      refine bind_congr_map (writeStatements_bare h (level + 1) body _ _ ?_)
        fun inner inner' hinner => pure_congr_map ?_
      · simp [ink_openBlock, ink_closureHead h, Buffer.ink_ensure ink_blank, hb]
      · exact closeBlock_bare h level h.eol hinner

theorem writeCall_bare (h : p.style.Spaced) (level : Nat) (call : Invocation) (b c : Buffer)
    (hb : b.ink = c.ink) :
    (p.writeCall level call b).map Buffer.ink = (p.bare.writeCall level call c).map Buffer.ink := by
  match call with
  | .mk name arguments base tries awaits trailing =>
      rw [writeCall, writeCall]
      refine bind_congr_map (baseText_bare h level base) fun base base' hbase => ?_
      refine bind_congr_map (argumentTexts_bare h level arguments) fun texts texts' htexts => ?_
      refine writeTrailing_bare h level trailing _ _ ?_
      exact writeArguments_bare h level (by simp [hbase]) htexts hb

theorem writeStatement_bare (h : p.style.Spaced) (level : Nat) (node : Node) (b c : Buffer)
    (hb : b.ink = c.ink) :
    (p.writeStatement level node b).map Buffer.ink =
      (p.bare.writeStatement level node c).map Buffer.ink := by
  cases node with
  | rawStatement text =>
      rw [writeStatement, writeStatement]
      exact pure_congr_map (by simp [ink_lines h, ink_lines (spaced_bare h), hb])
  | group statements =>
      rw [writeStatement, writeStatement]
      exact writeStatements_bare h level statements b c hb
  | variableDecl name value type mutable =>
      have hvalue : ∀ b c : Buffer, b.ink = c.ink →
          (do
            let b ← p.writeExpression level value (b.append p.style.valueSeparator)
            pure (b.ensure p.style.eol) : Printed Buffer).map Buffer.ink =
          (do
            let c ← p.bare.writeExpression level value (c.append p.bare.style.valueSeparator)
            pure (c.ensure p.bare.style.eol) : Printed Buffer).map Buffer.ink := by
        intro b c hb
        refine bind_congr_map (writeExpression_bare h level value _ _ ?_)
          fun written written' hwritten => pure_congr_map (ensureEol_bare h hwritten)
        simp [hb]
      have hhead : (b.append (p.indent level ++ (if mutable then p.spelling.variableKeyword
            else p.spelling.constantKeyword) ++ " " ++ p.spelling.identifier name)).ink =
          (c.append (p.bare.indent level ++ (if mutable then p.bare.spelling.variableKeyword
            else p.bare.spelling.constantKeyword) ++ " " ++ p.spelling.identifier name)).ink := by
        simp [ink_indent h, ink_indent (spaced_bare h), hb]
      cases type with
      | none =>
          rw [writeStatement, writeStatement]
          exact hvalue _ _ hhead
      | some type =>
          rw [writeStatement, writeStatement]
          simp only [typeText_bare type]
          exact bind_congr_map_same fun text => hvalue _ _ (Buffer.ink_append_congr hhead rfl)
  | assignment target value =>
      rw [writeStatement, writeStatement]
      refine bind_congr_map (writeExpression_bare h level target .empty .empty rfl)
        fun left left' hleft => ?_
      refine bind_congr_map (writeExpression_bare h level value _ _ ?_)
        fun written written' hwritten => pure_congr_map (ensureEol_bare h hwritten)
      simp [ink_indent h, ink_indent (spaced_bare h), hb, hleft]
  | callStatement call =>
      rw [writeStatement, writeStatement]
      refine bind_congr_map (writeCall_bare h level call _ _ ?_)
        fun written written' hwritten => pure_congr_map (ensureEol_bare h hwritten)
      simp [ink_indent h, ink_indent (spaced_bare h), hb]
  | ret value =>
      cases value with
      | none =>
          rw [writeStatement, writeStatement]
          exact pure_congr_map (ensureEol_bare h (indented_bare h level rfl hb))
      | some value =>
          rw [writeStatement, writeStatement]
          refine bind_congr_map (writeExpression_bare h level value _ _ ?_)
            fun written written' hwritten => pure_congr_map (ensureEol_bare h hwritten)
          simp [ink_indent h, ink_indent (spaced_bare h), hb]
  | conditional branches otherwise =>
      exact conditional_bare h level
        (writeBranches_bare h level p.spelling.ifKeyword branches b c hb)
        (writeStatements_bare h (level + 1) otherwise)
  | _ => rfl

theorem writeBranches_bare (h : p.style.Spaced) (level : Nat) (keyword : String)
    (branches : List Branch) (b c : Buffer) (hb : b.ink = c.ink) :
    (p.writeBranches level keyword branches b).map Buffer.ink =
      (p.bare.writeBranches level keyword branches c).map Buffer.ink := by
  match branches with
  | [] => exact pure_congr_map hb
  | .mk condition body :: rest =>
      rw [writeBranches, writeBranches]
      refine bind_congr_map (writeExpression_bare h level condition .empty .empty rfl)
        fun test test' htest => ?_
      refine bind_congr_map (writeStatements_bare h (level + 1) body _ _ ?_)
        fun inner inner' hinner => ?_
      · refine openBlock_bare h ?_
        rw [Buffer.ink_ensure ink_blank, Buffer.ink_ensure ink_blank]
        simp [ink_indent h, ink_indent (spaced_bare h), hb, htest]
      · exact writeBranches_bare h level _ rest _ _ (closeBlock_bare h level h.eol hinner)

theorem writeStatements_bare (h : p.style.Spaced) (level : Nat) (statements : List Node)
    (b c : Buffer) (hb : b.ink = c.ink) :
    (p.writeStatements level statements b).map Buffer.ink =
      (p.bare.writeStatements level statements c).map Buffer.ink := by
  cases statements with
  | nil => exact pure_congr_map hb
  | cons statement rest =>
      rw [writeStatements, writeStatements]
      exact bind_congr_map (writeStatement_bare h level statement b c hb)
        fun written written' hwritten => writeStatements_bare h level rest _ _ hwritten

end

end Printer

end RecordLoom.Code
