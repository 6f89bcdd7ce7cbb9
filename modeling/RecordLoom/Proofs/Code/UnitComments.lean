import RecordLoom.Code.Unit
import RecordLoom.Proofs.Code.Comments

/-!
# The comments of a unit

Printing only appends.  The comments of a unit come out in the order in which its declarations have
them, each as it is printed on its own, with code between them.
-/

namespace RecordLoom.Code

/-- A comment of a declaration. -/
inductive Comment where
  | ofType (c : TypeComment)
  | ofFunction (c : FunctionComment)
  | ofProperty (text : String)
  deriving DecidableEq, Repr

namespace Printer

section

variable (p : Printer)

def commentStyle : Comment → CommentStyle
  | .ofType _ => p.style.typeComment
  | .ofFunction _ => p.style.functionComment
  | .ofProperty _ => p.style.propertyComment

def commentLines : Comment → List String
  | .ofType c => c.lines p.style p.spelling.codeBlockLanguage
  | .ofFunction c => c.lines p.spelling.codeBlockLanguage
  | .ofProperty text => if text.isEmpty then [] else Text.lines text

def commentText (level : Nat) (c : Comment) : String :=
  (p.writeComment level (p.commentStyle c) (p.commentLines c) .empty).text

/-- A text with comments in their order, and with code around them. -/
inductive Interleaved : List Comment → String → Prop
  | code (text : String) : Interleaved [] text
  | comment {comments : List Comment} {rest : String} (code : String) (level : Nat) (c : Comment)
      (h : Interleaved comments rest) :
      Interleaved (c :: comments) (code ++ p.commentText level c ++ rest)

def Adds (comments : List Comment) (b b' : Buffer) : Prop :=
  ∃ added, b'.text = b.text ++ added ∧ p.Interleaved comments added

def Prints (comments : List Comment) (b : Buffer) (x : Printed Buffer) : Prop :=
  ∀ b', x = .ok b' → p.Adds comments b b'

end

variable {p : Printer}

theorem Interleaved.prepend {comments : List Comment} {text : String}
    (h : p.Interleaved comments text) (before : String) :
    p.Interleaved comments (before ++ text) := by
  cases h with
  | code text => exact .code (before ++ text)
  | comment code level c h =>
      rw [← String.append_assoc, ← String.append_assoc]
      exact .comment (before ++ code) level c h

theorem Interleaved.append {comments more : List Comment} {text rest : String}
    (h : p.Interleaved comments text) (hrest : p.Interleaved more rest) :
    p.Interleaved (comments ++ more) (text ++ rest) := by
  induction h with
  | code text => exact hrest.prepend text
  | comment code level c _ ih =>
      rw [String.append_assoc, List.cons_append]
      exact .comment code level c ih

/-! ## Buffers -/

namespace Adds

theorem refl (b : Buffer) : p.Adds [] b b := ⟨"", by simp, .code ""⟩

theorem trans {comments more : List Comment} {b c d : Buffer} (h : p.Adds comments b c)
    (hmore : p.Adds more c d) : p.Adds (comments ++ more) b d := by
  obtain ⟨text, htext, hcomments⟩ := h
  obtain ⟨rest, hrest, hmore⟩ := hmore
  exact ⟨text ++ rest, by rw [hrest, htext, String.append_assoc], hcomments.append hmore⟩

theorem append {comments : List Comment} {b c : Buffer} (h : p.Adds comments b c)
    (text : String) : p.Adds comments b (c.append text) := by
  obtain ⟨added, hadded, hcomments⟩ := h
  refine ⟨added ++ text, by rw [Buffer.text_append, hadded, String.append_assoc], ?_⟩
  simpa using hcomments.append (.code text)

theorem ensure {comments : List Comment} {b c : Buffer} (h : p.Adds comments b c)
    (finish : String) : p.Adds comments b (c.ensure finish) := by
  unfold Buffer.ensure
  split
  · exact h
  · exact h.append finish

theorem line {comments : List Comment} {b c : Buffer} (h : p.Adds comments b c) (level : Nat)
    (text : String) : p.Adds comments b (p.line level text c) := by
  unfold Printer.line
  dsimp only
  split
  · exact h.append _
  · exact (h.append _).append _

theorem blankLine {comments : List Comment} {b c : Buffer} (h : p.Adds comments b c) :
    p.Adds comments b (p.blankLine c) := h.append _

theorem lines {comments : List Comment} {b c : Buffer} (h : p.Adds comments b c) (level : Nat)
    (texts : List String) : p.Adds comments b (p.lines level texts c) := by
  unfold Printer.lines
  induction texts generalizing c with
  | nil => exact h
  | cons text rest ih => exact ih (h.line level text)

theorem openBlock {comments : List Comment} {b c : Buffer} (h : p.Adds comments b c)
    (start : String) : p.Adds comments b (openBlock start c) :=
  (h.append _).append _

theorem closeBlock {comments : List Comment} {b c : Buffer} (h : p.Adds comments b c) (level : Nat)
    (finish : String) : p.Adds comments b (p.closeBlock level finish c) :=
  ((h.ensure _).append _).append _

theorem writeArguments {comments : List Comment} {b c : Buffer} (h : p.Adds comments b c)
    (level : Nat) (head : String) (arguments : List String) :
    p.Adds comments b (p.writeArguments level head arguments c) := by
  unfold Printer.writeArguments
  split
  · exact h.append _
  · exact ((h.append _).lines _ _).append _

theorem writeList {comments : List Comment} {b c : Buffer} (h : p.Adds comments b c)
    (level : Nat) (head : String) (items : List String) (tail : String) :
    p.Adds comments b (p.writeList level head items tail c) := by
  unfold Printer.writeList
  split
  · exact h.line _ _
  · exact ((h.lines _ _).lines _ _).line _ _

end Adds

/-! ## Expressions and statements -/

namespace Prints

theorem pure {comments : List Comment} {b c : Buffer} (h : p.Adds comments b c) :
    p.Prints comments b (Pure.pure c) := by
  rintro _ ⟨⟩
  exact h

theorem bind {comments more : List Comment} {b : Buffer} {x : Printed Buffer}
    {f : Buffer → Printed Buffer} (h : p.Prints comments b x)
    (hmore : ∀ c, p.Prints more c (f c)) : p.Prints (comments ++ more) b (x >>= f) := by
  intro last hlast
  cases x with
  | error e => cases hlast
  | ok c => exact (h c rfl).trans (hmore c last hlast)

theorem after {α : Type} {comments : List Comment} {b : Buffer} {x : Printed α}
    {f : α → Printed Buffer} (h : ∀ a, p.Prints comments b (f a)) :
    p.Prints comments b (x >>= f) := by
  intro last hlast
  cases x with
  | error e => cases hlast
  | ok a => exact h a last hlast

theorem from_code {comments : List Comment} {b c : Buffer} {x : Printed Buffer}
    (hadds : p.Adds [] b c) (h : p.Prints comments c x) : p.Prints comments b x :=
  fun last hlast => hadds.trans (h last hlast)

theorem from_comments {comments : List Comment} {b c : Buffer} {x : Printed Buffer}
    (hadds : p.Adds comments b c) (h : p.Prints [] c x) : p.Prints comments b x := by
  intro last hlast
  have htrans := hadds.trans (h last hlast)
  rwa [List.append_nil] at htrans

theorem finish {comments : List Comment} {b : Buffer} {x : Printed Buffer} {f : Buffer → Buffer}
    (h : p.Prints comments b x) (hf : ∀ c, p.Adds [] c (f c)) :
    p.Prints comments b (x >>= fun c => Pure.pure (f c)) := by
  have hbind := h.bind fun c => Prints.pure (hf c)
  rwa [List.append_nil] at hbind

end Prints

theorem prints_append {α : Type} {b : Buffer} (x : Printed α) (text : α → String) :
    p.Prints [] b (do
      let a ← x
      pure (b.append (text a))) :=
  .after fun a => .pure ((Adds.refl b).append (text a))

theorem prints_value {level : Nat} {value : Node}
    (h : ∀ c, p.Prints [] c (p.writeExpression level value c)) {b c : Buffer}
    (hc : p.Adds [] b c) :
    p.Prints [] b (do
      let c ← p.writeExpression level value c
      pure (c.ensure p.style.eol)) :=
  (Prints.from_code hc (h c)).finish fun d => (Adds.refl d).ensure _

theorem prints_conditional {level : Nat} {branches : List Branch} {otherwise : List Node}
    {b : Buffer}
    (hbranches : p.Prints [] b (p.writeBranches level p.spelling.ifKeyword branches b))
    (hstatements : ∀ c, p.Prints [] c (p.writeStatements (level + 1) otherwise c)) :
    p.Prints [] b (p.writeStatement level (.conditional branches otherwise) b) := by
  cases branches with
  | nil => nofun
  | cons branch rest =>
      cases otherwise with
      | nil => exact hbranches.bind fun c => .pure (.refl c)
      | cons statement statements =>
          refine hbranches.bind fun c => ?_
          have hopen := (((Adds.refl (p := p) c).append
            (p.indent level ++ p.spelling.elseKeyword)).ensure " ").openBlock p.style.eol
          exact (Prints.from_code hopen (hstatements _)).finish fun inner =>
            (Adds.refl inner).closeBlock level _

mutual

theorem prints_writeExpression (level : Nat) (node : Node) (b : Buffer) :
    p.Prints [] b (p.writeExpression level node b) := by
  cases node with
  | call call => exact prints_writeCall level call b
  | variableRef name => exact .pure ((Adds.refl b).append _)
  | selfRef => exact .pure ((Adds.refl b).append _)
  | rawExpression text => exact .pure ((Adds.refl b).append _)
  | member base name => exact prints_append _ _
  | keyPath property root =>
      cases root with
      | none => exact .pure ((Adds.refl b).append _)
      | some type => exact prints_append _ _
  | closure parameters body => exact prints_append _ _
  | arrayExpression elements => exact prints_append _ _
  | compare lhs operator rhs => exact .after fun _ => .after fun _ => prints_append _ _
  | _ => exact prints_append _ _

theorem prints_writeTrailing (level : Nat) (trailing : Option Trailing) (b : Buffer) :
    p.Prints [] b (p.writeTrailing level trailing b) := by
  match trailing with
  | none => exact .pure (.refl b)
  | some (.mk parameters body) =>
      have hopen := ((Adds.refl (p := p) b).ensure " ").openBlock (p.closureHead parameters)
      exact (Prints.from_code hopen (prints_writeStatements (level + 1) body _)).finish fun inner =>
        (Adds.refl inner).closeBlock level _

theorem prints_writeCall (level : Nat) (call : Invocation) (b : Buffer) :
    p.Prints [] b (p.writeCall level call b) := by
  match call with
  | .mk name arguments base tries awaits trailing =>
      refine .after fun base => .after fun texts => ?_
      exact .from_code ((Adds.refl b).writeArguments level _ texts)
        (prints_writeTrailing level trailing _)

theorem prints_writeStatement (level : Nat) (node : Node) (b : Buffer) :
    p.Prints [] b (p.writeStatement level node b) := by
  cases node with
  | rawStatement text => exact .pure ((Adds.refl b).lines level _)
  | group statements => exact prints_writeStatements level statements b
  | variableDecl name value type mutable =>
      have hhead := (Adds.refl (p := p) b).append (p.indent level ++
        (if mutable then p.spelling.variableKeyword else p.spelling.constantKeyword) ++ " " ++
        p.spelling.identifier name)
      cases type with
      | none => exact prints_value (prints_writeExpression level value) (hhead.append _)
      | some type =>
          exact .after fun text =>
            prints_value (prints_writeExpression level value) ((hhead.append _).append _)
  | assignment target value =>
      exact .after fun left =>
        prints_value (prints_writeExpression level value) ((Adds.refl b).append _)
  | callStatement call =>
      exact (Prints.from_code ((Adds.refl b).append _) (prints_writeCall level call _)).finish
        fun c => (Adds.refl c).ensure _
  | ret value =>
      cases value with
      | none => exact .pure (((Adds.refl b).append _).ensure _)
      | some value =>
          exact prints_value (prints_writeExpression level value)
            (((Adds.refl b).append _).append _)
  | conditional branches otherwise =>
      exact prints_conditional (prints_writeBranches level p.spelling.ifKeyword branches b)
        (prints_writeStatements (level + 1) otherwise)
  | _ => nofun

theorem prints_writeBranches (level : Nat) (keyword : String) (branches : List Branch)
    (b : Buffer) : p.Prints [] b (p.writeBranches level keyword branches b) := by
  match branches with
  | [] => exact .pure (.refl b)
  | .mk condition body :: rest =>
      refine .after fun test => ?_
      have hopen := (((Adds.refl (p := p) b).append
        (p.indent level ++ keyword ++ " " ++ test.text)).ensure " ").openBlock p.style.eol
      refine (Prints.from_code hopen (prints_writeStatements (level + 1) body _)).bind
        fun inner => ?_
      exact .from_code ((Adds.refl inner).closeBlock level _) (prints_writeBranches level _ rest _)

theorem prints_writeStatements (level : Nat) (statements : List Node) (b : Buffer) :
    p.Prints [] b (p.writeStatements level statements b) := by
  match statements with
  | [] => exact .pure (.refl b)
  | statement :: rest =>
      exact (prints_writeStatement level statement b).bind fun c =>
        prints_writeStatements level rest c

end

end Printer

/-! ## Declarations -/

def Function.comments (f : Function) : List Comment := (f.comment.map Comment.ofFunction).toList

def Variable.comments (v : Variable) : List Comment := (v.comment.map Comment.ofProperty).toList

def ComputedProperty.comments (c : ComputedProperty) : List Comment :=
  (c.comment.map Comment.ofProperty).toList

def TypeDef.memberComments (d : TypeDef) : List Comment :=
  d.typeVariables.flatMap Variable.comments ++ d.instanceVariables.flatMap Variable.comments ++
    d.computed.flatMap ComputedProperty.comments ++ d.functions.flatMap Function.comments

mutual

def TypeDef.comments : TypeDef → List Comment
  | ⟨name, kind, visibility, conformances, nested, typeVariables, instanceVariables, computed,
      functions, comment⟩ =>
      (comment.map Comment.ofType).toList ++ nestedComments nested ++
        TypeDef.memberComments ⟨name, kind, visibility, conformances, [], typeVariables,
          instanceVariables, computed, functions, comment⟩

def nestedComments : List TypeDef → List Comment
  | [] => []
  | d :: rest => d.comments ++ nestedComments rest

end

theorem mem_nestedComments {types : List TypeDef} {c : Comment} :
    c ∈ nestedComments types ↔ ∃ d ∈ types, c ∈ d.comments := by
  induction types with
  | nil => simp [nestedComments]
  | cons d rest ih => simp [nestedComments, ih]

theorem TypeDef.forall_mem_comments {P : Comment → Prop} {d : TypeDef}
    (hcomment : ∀ c ∈ d.comment, P (.ofType c))
    (hnested : ∀ inner ∈ d.nestedTypes, ∀ c ∈ inner.comments, P c)
    (htypeVariables : ∀ v ∈ d.typeVariables, ∀ c ∈ v.comments, P c)
    (hinstanceVariables : ∀ v ∈ d.instanceVariables, ∀ c ∈ v.comments, P c)
    (hcomputed : ∀ v ∈ d.computed, ∀ c ∈ v.comments, P c)
    (hfunctions : ∀ f ∈ d.functions, ∀ c ∈ f.comments, P c) : ∀ c ∈ d.comments, P c := by
  obtain ⟨_, _, _, _, nested, typeVariables, instanceVariables, computed, functions, comment⟩ := d
  intro c hc
  simp only [TypeDef.comments, memberComments, List.mem_append, mem_nestedComments,
    List.mem_flatMap, Option.mem_toList] at hc
  rcases hc with (hc | ⟨inner, hinner, hc⟩) | ((⟨v, hv, hc⟩ | ⟨v, hv, hc⟩) | ⟨v, hv, hc⟩) |
    ⟨f, hf, hc⟩
  · obtain ⟨own, hown, rfl⟩ := Option.map_eq_some_iff.mp hc
    exact hcomment own hown
  · exact hnested inner hinner c hc
  · exact htypeVariables v hv c hc
  · exact hinstanceVariables v hv c hc
  · exact hcomputed v hv c hc
  · exact hfunctions f hf c hc

def Extension.comments (e : Extension) : List Comment :=
  e.structures.flatMap TypeDef.comments ++ e.functions.flatMap Function.comments

/-- All comments of a unit, in the order in which they are printed. -/
def CompilationUnit.comments (u : CompilationUnit) : List Comment :=
  u.structures.flatMap TypeDef.comments ++ u.functions.flatMap Function.comments ++
    u.extensions.flatMap Extension.comments

namespace Printer

variable {p : Printer}

theorem text_line (level : Nat) (text : String) (b : Buffer) :
    (p.line level text b).text = b.text ++ (p.line level text .empty).text := by
  unfold line
  split <;> simp [String.append_assoc]

theorem text_lines_from (level : Nat) (texts : List String) (b : Buffer) :
    (p.lines level texts b).text = b.text ++ (p.lines level texts .empty).text := by
  unfold lines
  induction texts generalizing b with
  | nil => simp
  | cons text rest ih =>
      rw [List.foldl_cons, List.foldl_cons, ih (p.line level text b),
        ih (p.line level text .empty), text_line, String.append_assoc]

theorem text_writeComment_from (level : Nat) (style : CommentStyle) (texts : List String)
    (b : Buffer) :
    (p.writeComment level style texts b).text =
      b.text ++ (p.writeComment level style texts .empty).text := by
  unfold writeComment
  split
  · simp
  · simp
  · exact text_lines_from level _ b

theorem adds_writeComment (level : Nat) (c : Comment) (b : Buffer) :
    p.Adds [c] b (p.writeComment level (p.commentStyle c) (p.commentLines c) b) := by
  refine ⟨p.commentText level c, text_writeComment_from level _ _ b, ?_⟩
  simpa using Interleaved.comment "" level c (.code "")

theorem adds_writeTypeComment (level : Nat) (c : Option TypeComment) (b : Buffer) :
    p.Adds (c.map Comment.ofType).toList b (c.elim b (p.writeTypeComment level · b)) := by
  cases c with
  | none => exact .refl b
  | some c => exact adds_writeComment level (.ofType c) b

theorem adds_writeFunctionComment (level : Nat) (c : Option FunctionComment) (b : Buffer) :
    p.Adds (c.map Comment.ofFunction).toList b (c.elim b (p.writeFunctionComment level · b)) := by
  cases c with
  | none => exact .refl b
  | some c => exact adds_writeComment level (.ofFunction c) b

theorem adds_writePropertyComment (level : Nat) (text : Option String) (b : Buffer) :
    p.Adds (text.map Comment.ofProperty).toList b (p.writePropertyComment level text b) := by
  cases text with
  | none => exact .refl b
  | some text =>
      have hadds := adds_writeComment (p := p) level (.ofProperty text) b
      unfold writePropertyComment nonEmpty?
      cases htext : text.isEmpty with
      | true =>
          rw [Option.filter_some_neg (by simp [htext])]
          simpa [commentLines, htext, writeComment_nil] using hadds
      | false =>
          rw [Option.filter_some_pos (by simp [htext])]
          simpa [commentLines, commentStyle, htext] using hadds

theorem Adds.writeInlinable {comments : List Comment} {b c : Buffer} (h : p.Adds comments b c)
    (level : Nat) (inlinable : Bool) (visibility : Visibility) :
    p.Adds comments b (p.writeInlinable level inlinable visibility c) := by
  unfold Printer.writeInlinable
  split
  · exact h.line level _
  · exact h

theorem prints_writeBody (level : Nat) (body : List Node) (b : Buffer) :
    p.Prints [] b (p.writeBody level body b) := by
  unfold writeBody
  split
  case h_1 value _ =>
    exact prints_value (prints_writeExpression level value) ((Adds.refl b).append _)
  case h_2 => exact prints_writeStatements level body b

theorem prints_writeSignature (level : Nat) (s : Signature) (omitted : Bool) (b : Buffer) :
    p.Prints [] b (p.writeSignature level s omitted b) := by
  refine .after fun tail => .after fun parameters => ?_
  have hlist := (Adds.refl (p := p) b).writeList level (p.signatureHead s omitted) parameters tail
  split
  · exact .pure hlist
  · exact .after fun text => .pure (hlist.line (level + 1) text)

theorem adds_functionStart (level : Nat) (f : Function) (discardable : Bool) (b : Buffer) :
    let head := p.writeInlinable level f.inlinable f.signature.visibility
      (f.comment.elim b (p.writeFunctionComment level · b))
    p.Adds f.comments b
      (if discardable then p.line level p.spelling.discardableAttribute head else head) := by
  have hadds := (adds_writeFunctionComment (p := p) level f.comment b).writeInlinable level
    f.inlinable f.signature.visibility
  cases discardable with
  | false => exact hadds
  | true => exact hadds.line level _

theorem prints_writeFunction (level : Nat) (omitted : Bool) (f : Function) (b : Buffer) :
    p.Prints f.comments b (p.writeFunction level omitted f b) := by
  have hbody : ∀ c : Buffer, p.Prints [] c (p.writeBody (level + 1) f.body
      (Printer.openBlock p.style.eol (c.append (p.indent level))) >>= fun d =>
        pure (p.closeBlock level p.style.eol d)) := fun c =>
    (Prints.from_code (((Adds.refl c).append _).openBlock _)
      (prints_writeBody (level + 1) f.body _)).finish fun d => (Adds.refl d).closeBlock level _
  exact .from_comments (adds_functionStart level f _ b)
    ((prints_writeSignature level f.signature omitted _).bind hbody)

theorem prints_writeVariable (level : Nat) (isStatic : Bool) (v : Variable) (b : Buffer) :
    p.Prints v.comments b (p.writeVariable level isStatic v b) :=
  .after fun _ => .after fun _ => .pure ((adds_writePropertyComment level v.comment b).line level _)

theorem prints_writeComputed (level : Nat) (c : ComputedProperty) (b : Buffer) :
    p.Prints c.comments b (p.writeComputed level c b) := by
  have hhead := (adds_writePropertyComment (p := p) level c.comment b).writeInlinable level
    c.inlinable c.visibility
  refine .after fun type => ?_
  dsimp only
  split
  case h_1 value _ =>
    exact (Prints.from_comments (hhead.append _) (prints_writeExpression level value _)).finish
      fun d => ((Adds.refl d).append _).append _
  case h_2 =>
    exact (Prints.from_comments (((hhead.append _).ensure " ").openBlock p.style.eol)
      (prints_writeBody (level + 1) c.body _)).finish fun d => (Adds.refl d).closeBlock level _

theorem adds_blankAfter (afterComment : Bool) (b : Buffer) :
    p.Adds [] b (if afterComment then p.blankLine b else b) := by
  cases afterComment with
  | false => exact .refl b
  | true => exact (Adds.refl b).blankLine

theorem prints_writeMembers {α : Type} {hasComment : α → Bool} {write : α → Buffer → Printed Buffer}
    {comments : α → List Comment} (h : ∀ m b, p.Prints (comments m) b (write m b))
    (members : List α) (b : Buffer) :
    p.Prints (members.flatMap comments) b (p.writeMembers hasComment write members b) := by
  have hgo : ∀ (afterComment : Bool) (b : Buffer), p.Prints (members.flatMap comments) b
      (writeMembers.go p hasComment write afterComment members b) := by
    induction members with
    | nil => exact fun _ b => .pure (.refl b)
    | cons m rest ih =>
        intro afterComment b
        exact (Prints.from_code (adds_blankAfter afterComment b) (h m _)).bind fun c =>
          ih (hasComment m) c
  unfold writeMembers
  split
  case isTrue hempty =>
    rw [List.isEmpty_iff.mp hempty]
    exact .pure (.refl b)
  case isFalse => exact .from_code (Adds.refl b).blankLine (hgo false _)

theorem prints_foldlM {α : Type} {write : Buffer → α → Printed Buffer} {comments : α → List Comment}
    (h : ∀ a b, p.Prints (comments a) b (write b a)) (items : List α) (b : Buffer) :
    p.Prints (items.flatMap comments) b (items.foldlM write b) := by
  induction items generalizing b with
  | nil => exact .pure (.refl b)
  | cons item rest ih => exact (h item b).bind ih

theorem prints_writeFunctions (level : Nat) (omitted : Bool) (functions : List Function)
    (b : Buffer) :
    p.Prints (functions.flatMap Function.comments) b
      (p.writeFunctions level omitted functions b) :=
  prints_foldlM (fun f b => .from_code (Adds.refl b).blankLine
    (prints_writeFunction level omitted f _)) functions b

theorem prints_startType (level : Nat) (omitted : Bool) (d : TypeDef) (b : Buffer) :
    p.Prints (d.comment.map Comment.ofType).toList b (p.startType level omitted d b) :=
  .after fun _ => .pure ((((adds_writeTypeComment level d.comment b).append _).ensure " ").openBlock
    p.style.eol)

theorem prints_writeOwnMembers (level : Nat) (d : TypeDef) (b : Buffer) :
    p.Prints d.memberComments b (p.writeOwnMembers level d b) := by
  unfold TypeDef.memberComments
  rw [List.append_assoc, List.append_assoc]
  refine (prints_writeMembers (prints_writeVariable level true) _ b).bind fun b => ?_
  refine (prints_writeMembers (prints_writeVariable level false) _ b).bind fun b => ?_
  exact (prints_writeMembers (prints_writeComputed level) _ b).bind
    (prints_writeFunctions level false d.functions)

mutual

theorem prints_writeType (level : Nat) (omitted : Bool) (d : TypeDef) (b : Buffer) :
    p.Prints d.comments b (p.writeType level omitted d b) := by
  match d with
  | ⟨name, kind, visibility, conformances, nested, typeVariables, instanceVariables, computed,
      functions, comment⟩ =>
      let own : TypeDef := ⟨name, kind, visibility, conformances, [], typeVariables,
        instanceVariables, computed, functions, comment⟩
      have hmembers : ∀ c : Buffer, p.Prints own.memberComments c
          (p.writeOwnMembers (level + 1) own c >>= fun d =>
            pure (p.closeBlock level p.style.eol d)) := fun c =>
        (prints_writeOwnMembers (level + 1) own c).finish fun d => (Adds.refl d).closeBlock level _
      rw [writeType, TypeDef.comments, List.append_assoc]
      exact (prints_startType level omitted own b).bind fun b =>
        (prints_writeNested (level + 1) nested b).bind hmembers

theorem prints_writeNested (level : Nat) (types : List TypeDef) (b : Buffer) :
    p.Prints (nestedComments types) b (p.writeNested level types b) := by
  match types with
  | [] => exact .pure (.refl b)
  | d :: rest =>
      rw [writeNested, nestedComments]
      exact (Prints.from_code (Adds.refl b).blankLine (prints_writeType level false d _)).bind
        fun b => prints_writeNested level rest b

end

theorem prints_writeStructures (level : Nat) (omitted : Bool) (structures : List TypeDef)
    (b : Buffer) :
    p.Prints (structures.flatMap TypeDef.comments) b
      (p.writeStructures level omitted structures b) :=
  prints_foldlM (fun d b => .from_code (Adds.refl b).blankLine
    (prints_writeType level omitted d _)) structures b

theorem prints_writeExtension (e : Extension) (b : Buffer) :
    p.Prints e.comments b (p.writeExtension e b) := by
  have hmembers : ∀ c : Buffer, p.Prints e.comments c (do
      let c ← p.writeStructures 1 (e.visibility == .isPublic) e.structures c
      let c ← p.writeFunctions 1 (e.visibility == .isPublic) e.functions c
      pure (p.line 0 "\x7d" c)) := fun c =>
    (prints_writeStructures 1 _ e.structures c).bind fun c =>
      (prints_writeFunctions 1 _ e.functions c).finish fun c => (Adds.refl c).line 0 _
  refine .after fun type => ?_
  dsimp only
  split
  · exact .from_code ((Adds.refl b).line 0 _) (hmembers _)
  · refine .after fun text => ?_
    exact .from_code ((((Adds.refl b).line 0 _).line 1 text).lines 0 _) (hmembers _)

theorem Adds.separate {comments : List Comment} {b c : Buffer} (h : p.Adds comments b c) :
    p.Adds comments b (p.separate c) := by
  unfold Printer.separate
  split
  · exact h
  · exact h.blankLine

theorem prints_writeUnit (u : CompilationUnit) : p.Prints u.comments .empty (p.writeUnit u) := by
  have hhead := (((Adds.refl (p := p) .empty).lines 0 (p.headerLines u.header)).lines 0
    (u.imports.map (p.spelling.importKeyword ++ " " ++ ·))).lines 0
      (u.reexports.map (p.spelling.reexportKeyword ++ " " ++ ·))
  rw [CompilationUnit.comments, List.append_assoc]
  refine .from_code hhead ?_
  refine (prints_foldlM (fun d b => .from_code (Adds.refl b).separate
    (prints_writeType 0 false d _)) u.structures _).bind fun b => ?_
  refine (prints_foldlM (fun f b => .from_code (Adds.refl b).separate
    (prints_writeFunction 0 false f _)) u.functions b).bind fun b => ?_
  exact prints_foldlM (fun e b => .from_code (Adds.refl b).separate
    (prints_writeExtension e _)) u.extensions b

end Printer

/-- The text of a unit is its comments, each as it is printed on its own, with code around them. -/
theorem CompilationUnit.interleaved_render {u : CompilationUnit} {p : Printer} {text : String}
    (h : u.render p.style p.spelling = .ok text) : p.Interleaved u.comments text := by
  obtain ⟨b, hb, rfl⟩ : ∃ b, p.writeUnit u = .ok b ∧ b.text = text := by
    rw [render] at h
    cases hb : p.writeUnit u with
    | error e =>
        rw [hb] at h
        cases h
    | ok b =>
        rw [hb] at h
        exact ⟨b, rfl, Except.ok.inj h⟩
  obtain ⟨added, hadded, hcomments⟩ := Printer.prints_writeUnit u b hb
  rw [hadded]
  simpa using hcomments

end RecordLoom.Code
