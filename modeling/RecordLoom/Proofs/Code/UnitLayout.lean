import RecordLoom.Proofs.Code.Layout

/-!
# Layout of declarations

What holds of expressions and statements holds of the declarations around them: a unit has the ink
of the unit that is printed without layout.  Two styles that differ in layout alone have the same
style without it.
-/

namespace RecordLoom.Code

open Text

namespace Printer

variable {p : Printer}

/-! ## Declarations -/

section

variable (h : p.style.Spaced)

include h

theorem line_bare (level : Nat) {text text' : String} (htext : ink text = ink text') {b c : Buffer}
    (hb : b.ink = c.ink) : (p.line level text b).ink = (p.bare.line level text' c).ink := by
  rw [ink_line h, ink_line (spaced_bare h), hb, htext]

theorem lines_bare (level : Nat) (texts : List String) {b c : Buffer} (hb : b.ink = c.ink) :
    (p.lines level texts b).ink = (p.bare.lines level texts c).ink := by
  rw [ink_lines h, ink_lines (spaced_bare h), hb]

theorem blankLine_bare {b c : Buffer} (hb : b.ink = c.ink) :
    (p.blankLine b).ink = (p.bare.blankLine c).ink := by
  rw [ink_blankLine h, ink_blankLine (spaced_bare h), hb]

theorem writeComment_bare (level : Nat) (style : CommentStyle) (texts : List String) {b c : Buffer}
    (hb : b.ink = c.ink) :
    (p.writeComment level style texts b).ink = (p.bare.writeComment level style texts c).ink := by
  unfold writeComment
  cases style.marks? with
  | none => exact hb
  | some marks =>
      cases texts with
      | nil => exact hb
      | cons text rest => exact lines_bare h level _ hb

theorem writePropertyComment_bare (level : Nat) (text : Option String) {b c : Buffer}
    (hb : b.ink = c.ink) :
    (p.writePropertyComment level text b).ink = (p.bare.writePropertyComment level text c).ink := by
  unfold writePropertyComment
  cases nonEmpty? text with
  | none => exact hb
  | some text => exact writeComment_bare h level p.style.propertyComment _ hb

theorem writeFunctionComment_bare (level : Nat) (comment : Option FunctionComment) {b c : Buffer}
    (hb : b.ink = c.ink) :
    (comment.elim b (p.writeFunctionComment level · b)).ink =
      (comment.elim c (p.bare.writeFunctionComment level · c)).ink := by
  cases comment with
  | none => exact hb
  | some comment => exact writeComment_bare h level p.style.functionComment _ hb

theorem writeTypeComment_bare (level : Nat) (comment : Option TypeComment) {b c : Buffer}
    (hb : b.ink = c.ink) :
    (comment.elim b (p.writeTypeComment level · b)).ink =
      (comment.elim c (p.bare.writeTypeComment level · c)).ink := by
  cases comment with
  | none => exact hb
  | some comment => exact writeComment_bare h level p.style.typeComment _ hb

theorem writeInlinable_bare (level : Nat) (inlinable : Bool) (visibility : Visibility)
    {b c : Buffer} (hb : b.ink = c.ink) :
    (p.writeInlinable level inlinable visibility b).ink =
      (p.bare.writeInlinable level inlinable visibility c).ink := by
  have hinline : p.bare.style.neverInline = p.style.neverInline := rfl
  unfold writeInlinable
  rw [hinline]
  split
  · exact line_bare h level rfl hb
  · exact hb

theorem expressionText_bare (level : Nat) (node : Node) :
    (p.expressionText level node).map ink = (p.bare.expressionText level node).map ink := by
  have htext : ∀ x : Printed Buffer, (x.map Buffer.text).map ink = x.map Buffer.ink := by
    intro x
    cases x <;> rfl
  unfold expressionText
  rw [htext, htext]
  exact writeExpression_bare h level node .empty .empty rfl

theorem writeBody_bare (level : Nat) (body : List Node) {b c : Buffer} (hb : b.ink = c.ink) :
    (p.writeBody level body b).map Buffer.ink = (p.bare.writeBody level body c).map Buffer.ink := by
  have himplied : p.bare.impliedReturn? body = p.impliedReturn? body := rfl
  unfold writeBody
  rw [himplied]
  cases p.impliedReturn? body with
  | none => exact writeStatements_bare h level body b c hb
  | some value =>
      refine bind_congr_map (writeExpression_bare h level value _ _ ?_)
        fun written written' hwritten => pure_congr_map (ensureEol_bare h hwritten)
      simp [ink_indent h, ink_indent (spaced_bare h), hb]

theorem parameterText_bare (level : Nat) (param : Param) :
    (p.parameterText level param).map ink = (p.bare.parameterText level param).map ink := by
  have hhead : p.bare.parameterHead param = p.parameterHead param := rfl
  unfold parameterText
  rw [typeText_bare, hhead]
  refine bind_congr_map_same fun type => ?_
  cases param.default with
  | none => rfl
  | some value =>
      refine bind_congr_map (expressionText_bare h level value)
        fun text text' htext => pure_congr_map ?_
      simp [htext]

omit h in
theorem constraintText_bare (c : GenericConstraint) :
    p.bare.constraintText c = p.constraintText c := by
  simp only [constraintText, typeText_bare]

omit h in
theorem whereText_bare (constraints : List GenericConstraint) :
    p.bare.whereText constraints = p.whereText constraints := by
  have hconstraint : p.bare.constraintText = p.constraintText := funext constraintText_bare
  simp only [whereText, hconstraint, bare_join, bare_spelling]

omit h in
theorem effectText_bare (s : Signature) : p.bare.effectText s = p.effectText s := by
  unfold effectText
  generalize s.returns = returns
  cases returns with
  | voidType => rfl
  | _ =>
      simp only [typeText_bare, bare_spelling]
      rfl

omit h in
theorem mapM_bare {α : Type} {text text' : α → Printed String}
    (htext : ∀ item, (text item).map ink = (text' item).map ink) (items : List α) :
    (items.mapM text).map (List.map ink) = (items.mapM text').map (List.map ink) := by
  induction items with
  | nil => rfl
  | cons item rest ih =>
      rw [List.mapM_cons, List.mapM_cons]
      refine bind_congr_map (htext item) fun first first' hfirst => ?_
      refine bind_congr_map ih fun texts texts' htexts => pure_congr_map ?_
      simp [hfirst, htexts]

theorem writeSignature_bare (level : Nat) (s : Signature) (omitted : Bool) {b c : Buffer}
    (hb : b.ink = c.ink) :
    (p.writeSignature level s omitted b).map Buffer.ink =
      (p.bare.writeSignature level s omitted c).map Buffer.ink := by
  have hhead : p.bare.signatureHead s omitted = p.signatureHead s omitted := rfl
  unfold writeSignature
  rw [effectText_bare, whereText_bare, hhead]
  refine bind_congr_map_same fun tail => ?_
  refine bind_congr_map (mapM_bare (parameterText_bare h level) s.parameters)
    fun parameters parameters' hparameters => ?_
  have hlist : (p.writeList level (p.signatureHead s omitted) parameters tail b).ink =
      (p.bare.writeList level (p.signatureHead s omitted) parameters' tail c).ink := by
    rw [ink_writeList h, ink_writeList (spaced_bare h), hb]
    simp [ink_commaJoined hparameters]
  dsimp only
  split
  · exact pure_congr_map hlist
  · exact bind_congr_map_same fun text => pure_congr_map (line_bare h (level + 1) rfl hlist)

theorem writeFunction_bare (level : Nat) (omitted : Bool) (f : Function) {b c : Buffer}
    (hb : b.ink = c.ink) :
    (p.writeFunction level omitted f b).map Buffer.ink =
      (p.bare.writeFunction level omitted f c).map Buffer.ink := by
  have hmark : ∀ (marked : Bool) (b c : Buffer), b.ink = c.ink →
      (if marked then p.line level p.spelling.discardableAttribute b else b).ink =
        (if marked then p.bare.line level p.bare.spelling.discardableAttribute c else c).ink := by
    intro marked b c hb
    cases marked with
    | false => exact hb
    | true => exact line_bare h level rfl hb
  have hcomment := writeFunctionComment_bare h level f.comment hb
  have hinline := writeInlinable_bare h level f.inlinable f.signature.visibility hcomment
  unfold writeFunction
  refine bind_congr_map (writeSignature_bare h level f.signature omitted (hmark _ _ _ hinline))
    fun signed signed' hsigned => ?_
  · refine bind_congr_map (writeBody_bare h (level + 1) f.body (openBlock_bare h ?_))
      fun written written' hwritten => pure_congr_map (closeBlock_bare h level h.eol hwritten)
    refine Buffer.ink_append_congr hsigned ?_
    rw [ink_indent h, ink_indent (spaced_bare h)]

omit h in
theorem optionalTypeText_bare (type : Option Node) :
    p.bare.optionalTypeText type = p.optionalTypeText type := by
  cases type with
  | none => rfl
  | some type => simp only [optionalTypeText, typeText_bare, bare_typeSeparator]

theorem optionalValueText_bare (level : Nat) (value : Option Node) :
    (p.optionalValueText level value).map ink =
      (p.bare.optionalValueText level value).map ink := by
  cases value with
  | none => rfl
  | some value =>
      exact bind_congr_map (expressionText_bare h level value)
        fun text text' htext => pure_congr_map (by simp [htext])

theorem writeVariable_bare (level : Nat) (isStatic : Bool) (v : Variable) {b c : Buffer}
    (hb : b.ink = c.ink) :
    (p.writeVariable level isStatic v b).map Buffer.ink =
      (p.bare.writeVariable level isStatic v c).map Buffer.ink := by
  have hvisibility : p.bare.visibilityText = p.visibilityText := rfl
  unfold writeVariable
  rw [optionalTypeText_bare]
  refine bind_congr_map_same fun type => ?_
  refine bind_congr_map (optionalValueText_bare h level v.value)
    fun value value' hvalue => pure_congr_map ?_
  refine line_bare h level ?_ (writePropertyComment_bare h level v.comment hb)
  simp [hvisibility, hvalue]

theorem writeComputed_bare (level : Nat) (c : ComputedProperty) {b b' : Buffer}
    (hb : b.ink = b'.ink) :
    (p.writeComputed level c b).map Buffer.ink =
      (p.bare.writeComputed level c b').map Buffer.ink := by
  have himplied : p.bare.impliedReturn? c.body = p.impliedReturn? c.body := rfl
  have hvisibility : p.bare.visibilityText = p.visibilityText := rfl
  have hcomment := writePropertyComment_bare h level c.comment hb
  have hinline := writeInlinable_bare h level c.inlinable c.visibility hcomment
  unfold writeComputed
  rw [typeText_bare, himplied, hvisibility]
  refine bind_congr_map_same fun type => ?_
  cases p.impliedReturn? c.body with
  | some value =>
      refine bind_congr_map (writeExpression_bare h level value _ _ ?_)
        fun written written' hwritten => pure_congr_map ?_
      · simp [ink_indent h, ink_indent (spaced_bare h), hinline]
      · simp [hwritten, h.eol]
  | none =>
      refine bind_congr_map (writeBody_bare h (level + 1) c.body (openBlock_bare h ?_))
        fun written written' hwritten => pure_congr_map (closeBlock_bare h level h.eol hwritten)
      rw [Buffer.ink_ensure ink_blank, Buffer.ink_ensure ink_blank]
      simp [ink_indent h, ink_indent (spaced_bare h), hinline]

omit h in
theorem foldlM_bare {α : Type} {write write' : Buffer → α → Printed Buffer}
    (hwrite : ∀ item b c, b.ink = c.ink →
      (write b item).map Buffer.ink = (write' c item).map Buffer.ink)
    (items : List α) : ∀ {b c : Buffer}, b.ink = c.ink →
      (items.foldlM write b).map Buffer.ink = (items.foldlM write' c).map Buffer.ink := by
  induction items with
  | nil => exact fun hb => pure_congr_map hb
  | cons item rest ih =>
      intro b c hb
      rw [List.foldlM_cons, List.foldlM_cons]
      exact bind_congr_map (hwrite item b c hb) fun _ _ hwritten => ih hwritten

theorem writeMembers_bare {α : Type} {hasComment : α → Bool}
    {write write' : α → Buffer → Printed Buffer}
    (hwrite : ∀ m b c, b.ink = c.ink → (write m b).map Buffer.ink = (write' m c).map Buffer.ink)
    (members : List α) {b c : Buffer} (hb : b.ink = c.ink) :
    (p.writeMembers hasComment write members b).map Buffer.ink =
      (p.bare.writeMembers hasComment write' members c).map Buffer.ink := by
  have hgo : ∀ (afterComment : Bool) (b c : Buffer), b.ink = c.ink →
      (writeMembers.go p hasComment write afterComment members b).map Buffer.ink =
        (writeMembers.go p.bare hasComment write' afterComment members c).map Buffer.ink := by
    induction members with
    | nil => exact fun _ _ _ hb => pure_congr_map hb
    | cons m rest ih =>
        intro afterComment b c hb
        refine bind_congr_map (hwrite m _ _ ?_) fun written written' hwritten => ih _ _ _ hwritten
        split
        · exact blankLine_bare h hb
        · exact hb
  unfold writeMembers
  split
  · exact pure_congr_map hb
  · exact hgo false _ _ (blankLine_bare h hb)

theorem writeFunctions_bare (level : Nat) (omitted : Bool) (functions : List Function)
    {b c : Buffer} (hb : b.ink = c.ink) :
    (p.writeFunctions level omitted functions b).map Buffer.ink =
      (p.bare.writeFunctions level omitted functions c).map Buffer.ink :=
  foldlM_bare (fun f _ _ hb => writeFunction_bare h level omitted f (blankLine_bare h hb))
    functions hb

/-! ## Types and units -/

omit h in
theorem typeHead_bare (d : TypeDef) (omitted : Bool) :
    p.bare.typeHead d omitted = p.typeHead d omitted := by
  have htype : p.bare.typeText = p.typeText := funext typeText_bare
  have hseparator : p.bare.style.conformanceSeparator = p.style.conformanceSeparator := rfl
  have hvisibility : p.bare.visibilityText = p.visibilityText := rfl
  simp only [typeHead, htype, hseparator, hvisibility, bare_join, bare_spelling]

theorem startType_bare (level : Nat) (omitted : Bool) (d : TypeDef) {b c : Buffer}
    (hb : b.ink = c.ink) :
    (p.startType level omitted d b).map Buffer.ink =
      (p.bare.startType level omitted d c).map Buffer.ink := by
  unfold startType
  rw [typeHead_bare]
  refine bind_congr_map_same fun head => pure_congr_map (openBlock_bare h ?_)
  rw [Buffer.ink_ensure ink_blank, Buffer.ink_ensure ink_blank]
  exact indented_bare h level rfl (writeTypeComment_bare h level d.comment hb)

theorem writeOwnMembers_bare (level : Nat) (d : TypeDef) {b c : Buffer} (hb : b.ink = c.ink) :
    (p.writeOwnMembers level d b).map Buffer.ink =
      (p.bare.writeOwnMembers level d c).map Buffer.ink := by
  unfold writeOwnMembers
  refine bind_congr_map (writeMembers_bare h
    (fun v _ _ hb => writeVariable_bare h level true v hb) _ hb) fun b c hb => ?_
  refine bind_congr_map (writeMembers_bare h
    (fun v _ _ hb => writeVariable_bare h level false v hb) _ hb) fun b c hb => ?_
  refine bind_congr_map (writeMembers_bare h
    (fun v _ _ hb => writeComputed_bare h level v hb) _ hb) fun b c hb => ?_
  exact writeFunctions_bare h level false d.functions hb

end

mutual

theorem writeType_bare (h : p.style.Spaced) (level : Nat) (omitted : Bool) (d : TypeDef)
    (b c : Buffer) (hb : b.ink = c.ink) :
    (p.writeType level omitted d b).map Buffer.ink =
      (p.bare.writeType level omitted d c).map Buffer.ink := by
  match d with
  | ⟨_, _, _, _, nested, _, _, _, _, _⟩ =>
      rw [writeType, writeType]
      refine bind_congr_map (startType_bare h level omitted _ hb) fun b c hb => ?_
      refine bind_congr_map (writeNested_bare h (level + 1) nested b c hb) fun b c hb => ?_
      exact bind_congr_map (writeOwnMembers_bare h (level + 1) _ hb)
        fun b c hb => pure_congr_map (closeBlock_bare h level h.eol hb)

theorem writeNested_bare (h : p.style.Spaced) (level : Nat) (types : List TypeDef) (b c : Buffer)
    (hb : b.ink = c.ink) :
    (p.writeNested level types b).map Buffer.ink =
      (p.bare.writeNested level types c).map Buffer.ink := by
  match types with
  | [] => exact pure_congr_map hb
  | d :: rest =>
      rw [writeNested, writeNested]
      exact bind_congr_map (writeType_bare h level false d _ _ (blankLine_bare h hb))
        fun b c hb => writeNested_bare h level rest b c hb

end

section

variable (h : p.style.Spaced)

include h

theorem writeExtension_bare (e : Extension) {b c : Buffer} (hb : b.ink = c.ink) :
    (p.writeExtension e b).map Buffer.ink = (p.bare.writeExtension e c).map Buffer.ink := by
  have hvisibility : p.bare.visibilityText = p.visibilityText := rfl
  unfold writeExtension
  rw [typeText_bare, whereText_bare, hvisibility]
  refine bind_congr_map_same fun type => ?_
  have hmembers : ∀ b c : Buffer, b.ink = c.ink →
      (do
        let b ← p.writeStructures 1 (e.visibility == .isPublic) e.structures b
        let b ← p.writeFunctions 1 (e.visibility == .isPublic) e.functions b
        pure (p.line 0 "\x7d" b) : Printed Buffer).map Buffer.ink =
      (do
        let c ← p.bare.writeStructures 1 (e.visibility == .isPublic) e.structures c
        let c ← p.bare.writeFunctions 1 (e.visibility == .isPublic) e.functions c
        pure (p.bare.line 0 "\x7d" c) : Printed Buffer).map Buffer.ink := by
    intro b c hb
    refine bind_congr_map (foldlM_bare
      (fun d _ _ hb => writeType_bare h 1 _ d _ _ (blankLine_bare h hb)) _ hb) fun b c hb => ?_
    exact bind_congr_map (writeFunctions_bare h 1 _ e.functions hb)
      fun b c hb => pure_congr_map (line_bare h 0 rfl hb)
  dsimp only
  split
  · exact hmembers _ _ (line_bare h 0 rfl hb)
  · refine bind_congr_map_same fun text => hmembers _ _ ?_
    exact lines_bare h 0 _ (line_bare h 1 rfl (line_bare h 0 rfl hb))

theorem separate_bare {b c : Buffer} (hb : b.ink = c.ink) :
    (p.separate b).ink = (p.bare.separate c).ink := by
  have hseparate : ∀ {q : Printer}, q.style.Spaced → ∀ b : Buffer, (q.separate b).ink = b.ink := by
    intro q hq b
    unfold separate
    split
    · rfl
    · exact ink_blankLine hq b
  rw [hseparate h, hseparate (spaced_bare h), hb]

theorem writeUnit_bare (u : CompilationUnit) :
    (p.writeUnit u).map Buffer.ink = (p.bare.writeUnit u).map Buffer.ink := by
  have hheader : p.bare.headerLines u.header = p.headerLines u.header := rfl
  unfold writeUnit
  rw [hheader]
  refine bind_congr_map (foldlM_bare
    (fun d _ _ hb => writeType_bare h 0 false d _ _ (separate_bare h hb)) _ ?_) fun b c hb => ?_
  · exact lines_bare h 0 _ (lines_bare h 0 _ (lines_bare h 0 _ rfl))
  refine bind_congr_map (foldlM_bare
    (fun f _ _ hb => writeFunction_bare h 0 false f (separate_bare h hb)) _ hb) fun b c hb => ?_
  exact foldlM_bare (fun e _ _ hb => writeExtension_bare h e (separate_bare h hb)) _ hb

end

end Printer

theorem CompilationUnit.render_bare {s : Style} (h : s.Spaced) (u : CompilationUnit)
    (spelling : Spelling) :
    (u.render s spelling).map ink = (u.render s.bare spelling).map ink := by
  have htext : ∀ x : Printed Buffer, (x.map Buffer.text).map ink = x.map Buffer.ink := by
    intro x
    cases x <;> rfl
  unfold CompilationUnit.render
  rw [htext, htext]
  exact Printer.writeUnit_bare (p := ⟨s, spelling⟩) h u

/-- Styles that differ in layout alone print with the same ink: lists of arguments and parameters
keep their items, commas and brackets whether they are wrapped or not. -/
theorem render_layout (u : CompilationUnit) (spelling : Spelling) {s t : Style}
    (hsame : t.bare = s.bare) (hs : s.Spaced) (ht : t.Spaced) :
    (u.render s spelling).map ink = (u.render t spelling).map ink ∧
      (∀ level head arguments b,
        (Printer.writeArguments ⟨s, spelling⟩ level head arguments b).ink =
          b.ink ++ ink (head ++ "(" ++ ",".intercalate arguments ++ ")")) ∧
      ∀ level head parameters tail b,
        (Printer.writeList ⟨s, spelling⟩ level head parameters tail b).ink =
          b.ink ++ ink (head ++ "(" ++ ",".intercalate parameters ++ ")" ++ tail) := by
  refine ⟨?_, Printer.ink_writeArguments (p := ⟨s, spelling⟩) hs,
    Printer.ink_writeList (p := ⟨s, spelling⟩) hs⟩
  rw [u.render_bare hs, u.render_bare ht, hsame]

def greetingUnit : CompilationUnit where
  name := "Greeting"
  functions :=
    [{ signature :=
        { name := "greet"
          parameters :=
            [{ name := "name", type := .named "String" },
             { name := "times", type := .named "Int", default := some (.intLiteral 1) }] }
       body := [.rawStatement "print(name)"] }]

def narrowStyle : Style :=
  { Style.default with indent := "\t", eol := "\r\n", lineLength := 20 }

theorem greetingUnit_layout :
    narrowStyle.bare = Style.default.bare ∧ Style.default.Spaced ∧ narrowStyle.Spaced ∧
      (greetingUnit.render .default .swift).map ink =
        (greetingUnit.render narrowStyle .swift).map ink := by
  have hsame : narrowStyle.bare = Style.default.bare := rfl
  have hdefault : Style.default.Spaced := ⟨by decide, by decide, by decide⟩
  have hnarrow : narrowStyle.Spaced := ⟨by decide, by decide, by decide⟩
  exact ⟨hsame, hdefault, hnarrow,
    (render_layout greetingUnit .swift hsame hdefault hnarrow).1⟩

end RecordLoom.Code
