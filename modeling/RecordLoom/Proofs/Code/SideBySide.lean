import RecordLoom.Proofs.Code.Fault

/-!
# Printing side by side

Printing reads a buffer only to append to it, and to see whether it ends in a blank or a line end.
What two buffers have in common is therefore kept when the same is printed in both, as soon as
appending the same to both and looking at the end of both keep it.
-/

namespace RecordLoom.Code

structure Stable (S : Buffer → Buffer → Prop) : Prop where
  append : ∀ {b c}, S b c → ∀ text, S (b.append text) (c.append text)
  ensure : ∀ {b c}, S b c → ∀ finish, S (b.ensure finish) (c.ensure finish)

structure Settles (R S : Buffer → Buffer → Prop) : Prop where
  append : ∀ {b c}, R b c → ∀ text, R (b.append text) (c.append text)
  settle : ∀ {b c}, R b c → ∀ {text}, text ≠ "" → S (b.append text) (c.append text)
  stable : Stable S

theorem Stable.settles {S : Buffer → Buffer → Prop} (h : Stable S) : Settles S S :=
  ⟨h.append, fun hbc text _ => h.append hbc text, h⟩

inductive Alike (S : Buffer → Buffer → Prop) : Printed Buffer → Printed Buffer → Prop
  | ok {b c : Buffer} (h : S b c) : Alike S (.ok b) (.ok c)
  | error (f : Failure) : Alike S (.error f) (.error f)

namespace Alike

variable {R S : Buffer → Buffer → Prop}

theorem bind {x y : Printed Buffer} {f g : Buffer → Printed Buffer} (h : Alike R x y)
    (hnext : ∀ {b c}, R b c → Alike S (f b) (g c)) : Alike S (x >>= f) (y >>= g) := by
  cases h with
  | ok h => exact hnext h
  | error f => exact .error f

theorem after {α : Type} {x : Printed α} {f g : α → Printed Buffer}
    (h : ∀ a, Alike S (f a) (g a)) : Alike S (x >>= f) (x >>= g) := by
  cases x with
  | ok a => exact h a
  | error f => exact .error f

theorem foldlM {α : Type} {write : Buffer → α → Printed Buffer}
    (h : ∀ {b c}, S b c → ∀ a, Alike S (write b a) (write c a)) (items : List α) {b c : Buffer}
    (hbc : S b c) : Alike S (items.foldlM write b) (items.foldlM write c) := by
  induction items generalizing b c with
  | nil => exact .ok hbc
  | cons item rest ih => exact (h hbc item).bind ih

end Alike

namespace Printer

variable {p : Printer} {R S : Buffer → Buffer → Prop} {b c : Buffer}

/-! ## Lines and brackets -/

section

variable (happend : ∀ {b c}, R b c → ∀ text, R (b.append text) (c.append text)) (hbc : R b c)

include happend hbc

theorem line_alike (level : Nat) (text : String) :
    R (p.line level text b) (p.line level text c) := by
  unfold line
  dsimp only
  split
  · exact happend hbc _
  · exact happend (happend hbc _) _

theorem lines_alike (level : Nat) (texts : List String) :
    R (p.lines level texts b) (p.lines level texts c) := by
  unfold lines
  induction texts generalizing b c with
  | nil => exact hbc
  | cons text rest ih => exact ih (line_alike happend hbc level text)

theorem writeComment_alike (level : Nat) (style : CommentStyle) (texts : List String) :
    R (p.writeComment level style texts b) (p.writeComment level style texts c) := by
  unfold writeComment
  split
  · exact hbc
  · exact hbc
  · exact lines_alike happend hbc level _

theorem writePropertyComment_alike (level : Nat) (text : Option String) :
    R (p.writePropertyComment level text b) (p.writePropertyComment level text c) := by
  unfold writePropertyComment
  split
  · exact writeComment_alike happend hbc level _ _
  · exact hbc

theorem writeInlinable_alike (level : Nat) (inlinable : Bool) (visibility : Visibility) :
    R (p.writeInlinable level inlinable visibility b)
      (p.writeInlinable level inlinable visibility c) := by
  unfold writeInlinable
  split
  · exact line_alike happend hbc level _
  · exact hbc

end

theorem indented_ne_empty (level : Nat) {text : String} (htext : text ≠ "") :
    p.indent level ++ text ≠ "" :=
  fun heq => htext (String.append_eq_empty_iff.mp heq).2

theorem line_settles (h : Settles R S) (hbc : R b c) (level : Nat) {text : String}
    (htext : text ≠ "") : S (p.line level text b) (p.line level text c) := by
  have hempty : text.isEmpty = false := by simpa using htext
  simp only [line, hempty]
  exact h.stable.append (h.settle hbc (indented_ne_empty level htext)) _

theorem listText_ne_empty {level : Nat} {head tail single : String} {items : List String}
    (h : p.listText level head items tail = [single]) : single ≠ "" := by
  unfold listText at h
  dsimp only at h
  split at h
  · obtain rfl := List.head_eq_of_cons_eq h
    simp [String.append_eq_empty_iff]
  · simp at h

theorem writeList_settles (h : Settles R S) (hbc : R b c) (level : Nat) (head : String)
    (items : List String) (tail : String) :
    S (p.writeList level head items tail b) (p.writeList level head items tail c) := by
  have hclosing : ")" ++ tail ≠ "" := by simp
  unfold writeList
  split
  case h_1 single hsingle => exact line_settles h hbc level (listText_ne_empty hsingle)
  case h_2 =>
    have hlines := lines_alike (p := p) h.append (lines_alike (p := p) h.append hbc level
      ((p.listText level head items tail).take 1)) (level + 1)
      ((p.listText level head items tail).drop 1).dropLast
    exact line_settles h hlines level hclosing

section

variable (hS : Stable S) (hbc : S b c)

include hS hbc

theorem openBlock_alike (start : String) : S (openBlock start b) (openBlock start c) :=
  hS.append (hS.append hbc _) start

theorem closeBlock_alike (level : Nat) (finish : String) :
    S (p.closeBlock level finish b) (p.closeBlock level finish c) :=
  hS.append (hS.append (hS.ensure hbc _) _) finish

theorem writeArguments_alike (level : Nat) (head : String) (arguments : List String) :
    S (p.writeArguments level head arguments b) (p.writeArguments level head arguments c) := by
  unfold writeArguments
  split
  · exact hS.append hbc _
  · exact hS.append (lines_alike hS.append (hS.append hbc _) _ _) _

end

/-! ## Expressions and statements -/

theorem append_alike (hS : Stable S) {α : Type} (hbc : S b c) (x : Printed α) (text : α → String) :
    Alike S (do let a ← x; pure (b.append (text a))) (do let a ← x; pure (c.append (text a))) :=
  .after fun a => .ok (hS.append hbc (text a))

theorem value_alike (hS : Stable S) {level : Nat} {value : Node}
    (h : ∀ {b c}, S b c →
      Alike S (p.writeExpression level value b) (p.writeExpression level value c))
    (hbc : S b c) :
    Alike S
      (do let b ← p.writeExpression level value b; pure (b.ensure p.style.eol))
      (do let c ← p.writeExpression level value c; pure (c.ensure p.style.eol)) :=
  (h hbc).bind fun hbc => .ok (hS.ensure hbc _)

mutual

theorem writeExpression_alike (hS : Stable S) (level : Nat) (node : Node) {b c : Buffer}
    (hbc : S b c) :
    Alike S (p.writeExpression level node b) (p.writeExpression level node c) := by
  cases node with
  | call call => exact writeCall_alike hS level call hbc
  | variableRef name => exact .ok (hS.append hbc _)
  | selfRef => exact .ok (hS.append hbc _)
  | rawExpression text => exact .ok (hS.append hbc _)
  | member base name => exact append_alike hS hbc _ _
  | keyPath property root =>
      cases root with
      | none => exact .ok (hS.append hbc _)
      | some type => exact append_alike hS hbc _ _
  | closure parameters body => exact append_alike hS hbc _ _
  | arrayExpression elements => exact append_alike hS hbc _ _
  | compare lhs operator rhs => exact .after fun _ => .after fun _ => append_alike hS hbc _ _
  | _ => exact append_alike hS hbc _ _

theorem writeTrailing_alike (hS : Stable S) (level : Nat) (trailing : Option Trailing)
    {b c : Buffer} (hbc : S b c) :
    Alike S (p.writeTrailing level trailing b) (p.writeTrailing level trailing c) := by
  match trailing with
  | none => exact .ok hbc
  | some (.mk parameters body) =>
      have hopen := openBlock_alike hS (hS.ensure hbc " ") (p.closureHead parameters)
      exact (writeStatements_alike hS (level + 1) body hopen).bind fun hinner =>
        .ok (closeBlock_alike hS hinner level _)

theorem writeCall_alike (hS : Stable S) (level : Nat) (call : Invocation) {b c : Buffer}
    (hbc : S b c) :
    Alike S (p.writeCall level call b) (p.writeCall level call c) := by
  match call with
  | .mk name arguments base tries awaits trailing =>
      exact .after fun base => .after fun texts =>
        writeTrailing_alike hS level trailing (writeArguments_alike hS hbc level _ texts)

theorem writeStatement_alike (hS : Stable S) (level : Nat) (node : Node) {b c : Buffer}
    (hbc : S b c) :
    Alike S (p.writeStatement level node b) (p.writeStatement level node c) := by
  cases node with
  | rawStatement text => exact .ok (lines_alike hS.append hbc level _)
  | group statements => exact writeStatements_alike hS level statements hbc
  | variableDecl name value type mutable =>
      have hhead := hS.append hbc (p.indent level ++
        (if mutable then p.spelling.variableKeyword else p.spelling.constantKeyword) ++ " " ++
        p.spelling.identifier name)
      cases type with
      | none => exact value_alike hS (writeExpression_alike hS level value) (hS.append hhead _)
      | some type =>
          exact .after fun text => value_alike hS (writeExpression_alike hS level value)
            (hS.append (hS.append hhead _) _)
  | assignment target value =>
      exact .after fun left =>
        value_alike hS (writeExpression_alike hS level value) (hS.append hbc _)
  | callStatement call =>
      exact (writeCall_alike hS level call (hS.append hbc _)).bind fun hcall =>
        .ok (hS.ensure hcall _)
  | ret value =>
      cases value with
      | none => exact .ok (hS.ensure (hS.append hbc _) _)
      | some value =>
          exact value_alike hS (writeExpression_alike hS level value)
            (hS.append (hS.append hbc _) _)
  | conditional branches otherwise =>
      cases branches with
      | nil => exact .error _
      | cons branch rest =>
          have hbranches := writeBranches_alike hS level p.spelling.ifKeyword (branch :: rest) hbc
          cases otherwise with
          | nil => exact hbranches.bind fun hbc => .ok hbc
          | cons statement statements =>
              refine hbranches.bind fun hbc => ?_
              have hopen := openBlock_alike hS
                (hS.ensure (hS.append hbc (p.indent level ++ p.spelling.elseKeyword)) " ")
                p.style.eol
              exact (writeStatements_alike hS (level + 1) (statement :: statements) hopen).bind
                fun hinner => .ok (closeBlock_alike hS hinner level _)
  | _ => exact .error _

theorem writeBranches_alike (hS : Stable S) (level : Nat) (keyword : String)
    (branches : List Branch) {b c : Buffer} (hbc : S b c) :
    Alike S (p.writeBranches level keyword branches b)
      (p.writeBranches level keyword branches c) := by
  match branches with
  | [] => exact .ok hbc
  | .mk condition body :: rest =>
      refine .after fun test => ?_
      have hopen := openBlock_alike hS
        (hS.ensure (hS.append hbc (p.indent level ++ keyword ++ " " ++ test.text)) " ") p.style.eol
      exact (writeStatements_alike hS (level + 1) body hopen).bind fun hinner =>
        writeBranches_alike hS level _ rest (closeBlock_alike hS hinner level _)

theorem writeStatements_alike (hS : Stable S) (level : Nat) (statements : List Node) {b c : Buffer}
    (hbc : S b c) :
    Alike S (p.writeStatements level statements b) (p.writeStatements level statements c) := by
  match statements with
  | [] => exact .ok hbc
  | statement :: rest =>
      exact (writeStatement_alike hS level statement hbc).bind (writeStatements_alike hS level rest)

end

theorem writeBody_alike (hS : Stable S) (level : Nat) (body : List Node) (hbc : S b c) :
    Alike S (p.writeBody level body b) (p.writeBody level body c) := by
  unfold writeBody
  split
  case h_1 value _ => exact value_alike hS (writeExpression_alike hS level value) (hS.append hbc _)
  case h_2 => exact writeStatements_alike hS level body hbc

/-! ## Declarations -/

theorem writeSignature_settles (h : Settles R S) (hbc : R b c) (level : Nat) (s : Signature)
    (omitted : Bool) :
    Alike S (p.writeSignature level s omitted b) (p.writeSignature level s omitted c) := by
  refine .after fun tail => .after fun parameters => ?_
  have hlist := writeList_settles (p := p) h hbc level (p.signatureHead s omitted) parameters tail
  split
  · exact .ok hlist
  · exact .after fun text => .ok (line_alike h.stable.append hlist (level + 1) text)

theorem writeFunction_settles (h : Settles R S) (hbc : R b c) (level : Nat) (omitted : Bool)
    (f : Function) :
    Alike S (p.writeFunction level omitted f b) (p.writeFunction level omitted f c) := by
  have hcomment : R (f.comment.elim b (p.writeFunctionComment level · b))
      (f.comment.elim c (p.writeFunctionComment level · c)) := by
    cases f.comment with
    | none => exact hbc
    | some comment => exact writeComment_alike h.append hbc level _ _
  have hinlinable := writeInlinable_alike (p := p) h.append hcomment level f.inlinable
    f.signature.visibility
  have hdiscardable : ∀ {b c : Buffer}, R b c → ∀ discardable : Bool,
      R (if discardable then p.line level p.spelling.discardableAttribute b else b)
        (if discardable then p.line level p.spelling.discardableAttribute c else c) := by
    rintro b c hbc (_ | _)
    · exact hbc
    · exact line_alike h.append hbc level _
  have hbody : ∀ {b c : Buffer}, S b c → Alike S
      (p.writeBody (level + 1) f.body (openBlock p.style.eol (b.append (p.indent level))) >>=
        fun b => pure (p.closeBlock level p.style.eol b))
      (p.writeBody (level + 1) f.body (openBlock p.style.eol (c.append (p.indent level))) >>=
        fun c => pure (p.closeBlock level p.style.eol c)) := fun hbc =>
    (writeBody_alike h.stable (level + 1) f.body (openBlock_alike h.stable
      (h.stable.append hbc _) _)).bind fun hbc => .ok (closeBlock_alike h.stable hbc level _)
  exact (writeSignature_settles h (hdiscardable hinlinable _) level _ omitted).bind hbody

theorem writeVariable_alike (hS : Stable S) (level : Nat) (isStatic : Bool) (v : Variable)
    {b c : Buffer} (hbc : S b c) :
    Alike S (p.writeVariable level isStatic v b) (p.writeVariable level isStatic v c) :=
  .after fun _ => .after fun _ =>
    .ok (line_alike hS.append (writePropertyComment_alike hS.append hbc level v.comment) level _)

theorem writeComputed_alike (hS : Stable S) (level : Nat) (v : ComputedProperty) {b c : Buffer}
    (hbc : S b c) :
    Alike S (p.writeComputed level v b) (p.writeComputed level v c) := by
  have hcomment := writePropertyComment_alike (p := p) hS.append hbc level v.comment
  have hhead := writeInlinable_alike (p := p) hS.append hcomment level v.inlinable v.visibility
  refine .after fun type => ?_
  dsimp only
  split
  case h_1 value _ =>
    exact (writeExpression_alike hS level value (hS.append hhead _)).bind fun hbc =>
      .ok (hS.append (hS.append hbc _) _)
  case h_2 =>
    exact (writeBody_alike hS (level + 1) v.body
      (openBlock_alike hS (hS.ensure (hS.append hhead _) " ") _)).bind fun hbc =>
        .ok (closeBlock_alike hS hbc level _)

theorem writeMembers_alike (hS : Stable S) {α : Type} {hasComment : α → Bool}
    {write : α → Buffer → Printed Buffer}
    (hwrite : ∀ m {b c}, S b c → Alike S (write m b) (write m c)) (members : List α)
    (hbc : S b c) :
    Alike S (p.writeMembers hasComment write members b)
      (p.writeMembers hasComment write members c) := by
  have hgo : ∀ (afterComment : Bool) {b c : Buffer}, S b c →
      Alike S (writeMembers.go p hasComment write afterComment members b)
        (writeMembers.go p hasComment write afterComment members c) := by
    induction members with
    | nil => exact fun _ _ _ hbc => .ok hbc
    | cons m rest ih =>
        intro afterComment b c hbc
        refine (hwrite m ?_).bind (ih (hasComment m))
        split
        · exact hS.append hbc _
        · exact hbc
  unfold writeMembers
  split
  · exact .ok hbc
  · exact hgo false (hS.append hbc _)

theorem writeFunctions_alike (hS : Stable S) (level : Nat) (omitted : Bool)
    (functions : List Function) {b c : Buffer} (hbc : S b c) :
    Alike S (p.writeFunctions level omitted functions b)
      (p.writeFunctions level omitted functions c) :=
  .foldlM (fun hbc f => writeFunction_settles hS.settles (hS.append hbc _) level omitted f)
    functions hbc

theorem typeHead_ne_empty {d : TypeDef} {omitted : Bool} {head : String}
    (h : p.typeHead d omitted = .ok head) : head ≠ "" := by
  obtain ⟨keyword, -, h⟩ := bind_eq_ok h
  obtain ⟨texts, -, h⟩ := bind_eq_ok h
  obtain rfl := Except.ok.inj h
  split <;> simp [String.append_eq_empty_iff]

theorem startType_settles (h : Settles R S) (hbc : R b c) (level : Nat) (omitted : Bool)
    (d : TypeDef) : Alike S (p.startType level omitted d b) (p.startType level omitted d c) := by
  have hcomment : R (d.comment.elim b (p.writeTypeComment level · b))
      (d.comment.elim c (p.writeTypeComment level · c)) := by
    cases d.comment with
    | none => exact hbc
    | some comment => exact writeComment_alike h.append hbc level _ _
  unfold startType
  cases hhead : p.typeHead d omitted with
  | error f => exact .error f
  | ok head =>
      have hindented := indented_ne_empty (p := p) level (typeHead_ne_empty hhead)
      exact .ok (openBlock_alike h.stable (h.stable.ensure (h.settle hcomment hindented) " ") _)

theorem writeOwnMembers_alike (hS : Stable S) (level : Nat) (d : TypeDef) (hbc : S b c) :
    Alike S (p.writeOwnMembers level d b) (p.writeOwnMembers level d c) := by
  refine (writeMembers_alike hS (writeVariable_alike hS level true) _ hbc).bind fun hbc => ?_
  refine (writeMembers_alike hS (writeVariable_alike hS level false) _ hbc).bind fun hbc => ?_
  exact (writeMembers_alike hS (writeComputed_alike hS level) _ hbc).bind
    (writeFunctions_alike hS level false d.functions)

mutual

theorem writeType_settles {R : Buffer → Buffer → Prop} (h : Settles R S) {b c : Buffer}
    (hbc : R b c) (level : Nat) (omitted : Bool) (d : TypeDef) :
    Alike S (p.writeType level omitted d b) (p.writeType level omitted d c) := by
  match d with
  | ⟨name, kind, visibility, conformances, nested, typeVariables, instanceVariables, computed,
      functions, comment⟩ =>
      let own : TypeDef := ⟨name, kind, visibility, conformances, [], typeVariables,
        instanceVariables, computed, functions, comment⟩
      rw [writeType, writeType]
      exact (startType_settles h hbc level omitted own).bind fun hbc =>
        (writeNested_alike h.stable (level + 1) nested hbc).bind fun hbc =>
          (writeOwnMembers_alike h.stable (level + 1) own hbc).bind fun hbc =>
            .ok (closeBlock_alike h.stable hbc level _)

theorem writeNested_alike (hS : Stable S) (level : Nat) (types : List TypeDef) {b c : Buffer}
    (hbc : S b c) :
    Alike S (p.writeNested level types b) (p.writeNested level types c) := by
  match types with
  | [] => exact .ok hbc
  | d :: rest =>
      rw [writeNested, writeNested]
      exact (writeType_settles hS.settles (hS.append hbc _) level false d).bind
        (writeNested_alike hS level rest)

end

theorem writeStructures_alike (hS : Stable S) (level : Nat) (omitted : Bool)
    (structures : List TypeDef) (hbc : S b c) :
    Alike S (p.writeStructures level omitted structures b)
      (p.writeStructures level omitted structures c) :=
  .foldlM (fun hbc d => writeType_settles hS.settles (hS.append hbc _) level omitted d)
    structures hbc

theorem writeExtension_settles (h : Settles R S) (hbc : R b c) (e : Extension) :
    Alike S (p.writeExtension e b) (p.writeExtension e c) := by
  have hmembers : ∀ {b c : Buffer}, S b c → ∀ omitted : Bool, Alike S
      (do
        let b ← p.writeStructures 1 omitted e.structures b
        let b ← p.writeFunctions 1 omitted e.functions b
        pure (p.line 0 "\x7d" b))
      (do
        let c ← p.writeStructures 1 omitted e.structures c
        let c ← p.writeFunctions 1 omitted e.functions c
        pure (p.line 0 "\x7d" c)) := fun hbc omitted =>
    (writeStructures_alike h.stable 1 omitted e.structures hbc).bind fun hbc =>
      (writeFunctions_alike h.stable 1 omitted e.functions hbc).bind fun hbc =>
        .ok (line_alike h.stable.append hbc 0 _)
  refine .after fun type => ?_
  dsimp only
  split
  · exact hmembers (line_settles h hbc 0 (by simp)) _
  · refine .after fun text => ?_
    have hne : p.visibilityText e.visibility false ++ p.spelling.extensionKeyword ++ " " ++ type ≠
        "" := by simp
    have hhead := line_settles (p := p) h hbc 0 hne
    exact hmembers (lines_alike h.stable.append (line_alike h.stable.append hhead 1 text) 0 _) _

end Printer

end RecordLoom.Code
