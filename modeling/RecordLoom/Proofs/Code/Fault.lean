import RecordLoom.Code.Unit
import Mathlib.Data.List.Forall2

/-!
# What makes a tree unprintable

Printing fails at the first node that has no text where it stands.  Which node that is depends on
the tree and on the gaps of the spelling alone: layout and what has been printed before have no part
in it.
-/

namespace RecordLoom.Code

/-! ## Failures of a computation -/

def faultOf {α : Type} : Printed α → Option Failure
  | .ok _ => none
  | .error f => some f

section

variable {α β : Type}

@[simp] theorem faultOf_pure (a : α) : faultOf (pure a : Printed α) = none := rfl

@[simp] theorem faultOf_ok (a : α) : faultOf (.ok a : Printed α) = none := rfl

@[simp] theorem faultOf_error (f : Failure) : faultOf (.error f : Printed α) = some f := rfl

theorem faultOf_bind {x : Printed α} {f : α → Printed β} {fault : Option Failure}
    (hf : ∀ a, faultOf (f a) = fault) : faultOf (x >>= f) = (faultOf x).or fault := by
  cases x with
  | ok a => exact hf a
  | error e => rfl

theorem faultOf_bind_pure (x : Printed α) (f : α → β) :
    faultOf (x >>= fun a => pure (f a)) = faultOf x := by
  cases x <;> rfl

@[simp] theorem faultOf_map (x : Printed α) (f : α → β) : faultOf (x.map f) = faultOf x := by
  cases x <;> rfl

theorem faultOf_eq_none_iff {x : Printed α} : faultOf x = none ↔ ∃ a, x = .ok a := by
  cases x <;> simp

theorem faultOf_eq_some_iff {x : Printed α} {f : Failure} :
    faultOf x = some f ↔ x = .error f := by
  cases x <;> simp

theorem faultOf_mapM (f : α → Printed β) (items : List α) :
    faultOf (items.mapM f) = items.findSome? fun item => faultOf (f item) := by
  induction items with
  | nil => rfl
  | cons item rest ih =>
      rw [List.mapM_cons, faultOf_bind fun a => (faultOf_bind_pure ..).trans ih,
        List.findSome?_cons]
      cases faultOf (f item) <;> rfl

theorem faultOf_foldlM {f : β → α → Printed β} {fault : α → Option Failure}
    (hf : ∀ b item, faultOf (f b item) = fault item) (items : List α) (b : β) :
    faultOf (items.foldlM f b) = items.findSome? fault := by
  induction items generalizing b with
  | nil => rfl
  | cons item rest ih =>
      rw [List.foldlM_cons, faultOf_bind fun b => ih b, hf, List.findSome?_cons]
      cases fault item <;> rfl

end

/-! ## What a computation that succeeds has done -/

section

variable {ε α β γ : Type}

theorem bind_eq_ok {x : Except ε α} {f : α → Except ε β} {b : β} (h : x >>= f = .ok b) :
    ∃ a, x = .ok a ∧ f a = .ok b := by
  cases x with
  | error fault => cases h
  | ok a => exact ⟨a, rfl, h⟩

theorem map_eq_ok {x : Except ε α} {f : α → β} {b : β} (h : x.map f = .ok b) :
    ∃ a, x = .ok a ∧ f a = b := by
  cases x with
  | error fault => cases h
  | ok a => exact ⟨a, rfl, Except.ok.inj h⟩

theorem forall₂_of_mapM {f : α → Except ε β} {items : List α} {results : List β}
    (h : items.mapM f = .ok results) : List.Forall₂ (fun a b => f a = .ok b) items results := by
  induction items generalizing results with
  | nil =>
      cases h
      exact .nil
  | cons a rest ih =>
      rw [List.mapM_cons] at h
      obtain ⟨first, ha, h⟩ := bind_eq_ok h
      obtain ⟨others, hrest, h⟩ := bind_eq_ok h
      cases h
      exact .cons ha (ih hrest)

theorem map_of_mapM {f : α → Except ε β} {g : β → γ} {k : α → γ} {items : List α}
    {results : List β} (h : items.mapM f = .ok results) (hf : ∀ a b, f a = .ok b → g b = k a) :
    results.map g = items.map k := by
  have hforall := forall₂_of_mapM h
  clear h
  induction hforall with
  | nil => rfl
  | @cons a b rest others ha _ ih => rw [List.map_cons, List.map_cons, hf a b ha, ih]

theorem mem_of_mapM {f : α → Except ε β} {items : List α} {results : List β}
    (h : items.mapM f = .ok results) {b : β} (hb : b ∈ results) : ∃ a ∈ items, f a = .ok b := by
  have hforall := forall₂_of_mapM h
  clear h
  induction hforall with
  | nil => cases hb
  | @cons a first rest others ha _ ih =>
      rcases List.mem_cons.mp hb with rfl | hb
      · exact ⟨a, List.mem_cons_self, ha⟩
      · obtain ⟨a', hmem, ha'⟩ := ih hb
        exact ⟨a', List.mem_cons_of_mem _ hmem, ha'⟩

end

/-! ## What has no text in a language -/

/-- The integers, comparisons and kinds of types that cannot be written, with how they fail. -/
structure Gaps where
  integer : Int → Option Failure
  comparison : Comparison → Option Failure
  kind : TypeKind → Option Failure

def Gaps.empty : Gaps := ⟨fun _ => none, fun _ => none, fun _ => none⟩

def Spelling.gaps (s : Spelling) : Gaps where
  integer n := if Number.isLong n then some (.conversion .tooManyDigits) else none
  comparison c := if (s.operator? c).isSome then none else some (.unspelled c.name)
  kind k := if (s.typeKeyword? k).isSome then none else some (.unspelled k.name)

abbrev Printer.gaps (p : Printer) : Gaps := p.spelling.gaps

section

variable (s : Spelling) {f : Failure}

theorem Spelling.gaps_integer_eq_some {n : Int} :
    s.gaps.integer n = some f ↔ Number.isLong n = true ∧ f = .conversion .tooManyDigits := by
  change (if Number.isLong n then some _ else none) = some f ↔ _
  split
  case isTrue hlong =>
    exact ⟨fun h => ⟨hlong, (Option.some.inj h).symm⟩, fun h => congrArg some h.2.symm⟩
  case isFalse hshort => simp [hshort]

theorem Spelling.gaps_comparison_eq_some {c : Comparison} :
    s.gaps.comparison c = some f ↔ s.operator? c = none ∧ f = .unspelled c.name := by
  change (if (s.operator? c).isSome then none else some _) = some f ↔ _
  cases s.operator? c <;> simp [eq_comm]

theorem Spelling.gaps_kind_eq_some {kind : TypeKind} :
    s.gaps.kind kind = some f ↔ s.typeKeyword? kind = none ∧ f = .unspelled kind.name := by
  change (if (s.typeKeyword? kind).isSome then none else some _) = some f ↔ _
  cases s.typeKeyword? kind <;> simp [eq_comm]

end

/-! ## Types, expressions and statements -/

mutual

/-- The first node of a type reference that has no text there. -/
def Node.typeFault? : Node → Option Failure
  | .voidType => none
  | .namedType _ arguments => typesFault? arguments
  | .optionalType wrapped => wrapped.typeFault?
  | .arrayType element => element.typeFault?
  | .qualifiedType base _ => base.typeFault?
  | .keyPathType root value => root.typeFault?.or value.typeFault?
  | .closureType parameters returns _ _ => returns.typeFault?.or (typesFault? parameters)
  | node => some (.unrenderable node.kindName)

def typesFault? : List Node → Option Failure
  | [] => none
  | type :: rest => type.typeFault?.or (typesFault? rest)

end

def optionalTypeFault? (type : Option Node) : Option Failure := type.bind Node.typeFault?

mutual

def Node.expressionFault? (g : Gaps) : Node → Option Failure
  | .nilLiteral | .boolLiteral _ | .doubleLiteral _ | .stringLiteral _ | .dataLiteral _
  | .variableRef _ | .selfRef | .rawExpression _ => none
  | .intLiteral n => g.integer n
  | .intArrayLiteral ns => ns.findSome? g.integer
  | .member base _ => base.expressionFault? g
  | .keyPath _ root => optionalTypeFault? root
  | .typeExpression type => type.typeFault?
  | .call call => call.fault? g
  | .closure _ body => statementsFault? g body
  | .arrayExpression elements => expressionsFault? g elements
  | .compare lhs c rhs =>
      (g.comparison c).or ((lhs.expressionFault? g).or (rhs.expressionFault? g))
  | node => some (.unrenderable node.kindName)

def expressionsFault? (g : Gaps) : List Node → Option Failure
  | [] => none
  | node :: rest => (node.expressionFault? g).or (expressionsFault? g rest)

def argumentsFault? (g : Gaps) : List Argument → Option Failure
  | [] => none
  | .mk _ value :: rest => (value.expressionFault? g).or (argumentsFault? g rest)

def baseFault? (g : Gaps) : Option Node → Option Failure
  | none => none
  | some base => base.expressionFault? g

def trailingFault? (g : Gaps) : Option Trailing → Option Failure
  | none => none
  | some (.mk _ body) => statementsFault? g body

def Invocation.fault? (g : Gaps) : Invocation → Option Failure
  | .mk _ arguments base _ _ trailing =>
      (baseFault? g base).or ((argumentsFault? g arguments).or (trailingFault? g trailing))

/-- The first node of a statement that has no text there, or a condition without branches. -/
def Node.statementFault? (g : Gaps) : Node → Option Failure
  | .rawStatement _ => none
  | .group statements => statementsFault? g statements
  | .variableDecl _ value type _ => (optionalTypeFault? type).or (value.expressionFault? g)
  | .assignment target value => (target.expressionFault? g).or (value.expressionFault? g)
  | .callStatement call => call.fault? g
  | .ret none => none
  | .ret (some value) => value.expressionFault? g
  | .conditional [] _ => some (.invariantBroken "conditional without branches" [])
  | .conditional branches otherwise => (branchesFault? g branches).or (statementsFault? g otherwise)
  | node => some (.unrenderable node.kindName)

def branchesFault? (g : Gaps) : List Branch → Option Failure
  | [] => none
  | .mk condition body :: rest =>
      (condition.expressionFault? g).or ((statementsFault? g body).or (branchesFault? g rest))

def statementsFault? (g : Gaps) : List Node → Option Failure
  | [] => none
  | statement :: rest => (statement.statementFault? g).or (statementsFault? g rest)

end

/-! ## Faults of lists -/

theorem expressionsFault?_eq_none_iff {nodes : List Node} :
    expressionsFault? g nodes = none ↔ ∀ node ∈ nodes, node.expressionFault? g = none := by
  induction nodes with
  | nil => simp [expressionsFault?]
  | cons node rest ih => simp [expressionsFault?, ih]

theorem argumentsFault?_eq_none_iff {arguments : List Argument} :
    argumentsFault? g arguments = none ↔
      ∀ label value, .mk label value ∈ arguments → value.expressionFault? g = none := by
  induction arguments with
  | nil => simp [argumentsFault?]
  | cons head rest ih =>
      obtain ⟨label, value⟩ := head
      simp only [argumentsFault?, Option.or_eq_none_iff, ih, List.mem_cons]
      constructor
      · rintro ⟨hvalue, hrest⟩ label value (h | h)
        · cases h
          exact hvalue
        · exact hrest label value h
      · intro h
        exact ⟨h label value (.inl rfl), fun label value hmem => h label value (.inr hmem)⟩

theorem statementsFault?_eq_none_iff {statements : List Node} :
    statementsFault? g statements = none ↔ ∀ s ∈ statements, s.statementFault? g = none := by
  induction statements with
  | nil => simp [statementsFault?]
  | cons s rest ih => simp [statementsFault?, ih]

/-! ## Printed nodes -/

namespace Printer

variable (p : Printer)

theorem faultOf_spelled (meaning : String) (word : Option String) :
    faultOf (spelled meaning word) = if word.isSome then none else some (.unspelled meaning) := by
  cases word <;> rfl

theorem eq_some_of_spelled {meaning text : String} {word : Option String}
    (h : spelled meaning word = .ok text) : word = some text := by
  cases word with
  | none => cases h
  | some => exact congrArg some (Except.ok.inj h)

theorem faultOf_operator (c : Comparison) :
    faultOf (spelled c.name (p.spelling.operator? c)) = p.gaps.comparison c :=
  faultOf_spelled ..

theorem faultOf_typeKeyword (kind : TypeKind) :
    faultOf (spelled kind.name (p.spelling.typeKeyword? kind)) = p.gaps.kind kind :=
  faultOf_spelled ..

theorem faultOf_intText (n : Int) : faultOf (intText n) = p.gaps.integer n := by
  change _ = if Number.isLong n then some _ else none
  rw [intText]
  split <;> rfl

theorem faultOf_intTexts (ns : List Int) :
    faultOf (ns.mapM intText) = ns.findSome? p.gaps.integer := by
  rw [faultOf_mapM]
  simp only [p.faultOf_intText]

mutual

theorem faultOf_typeText (type : Node) : faultOf (p.typeText type) = type.typeFault? := by
  cases type with
  | voidType => rfl
  | namedType _ arguments =>
      exact (faultOf_bind_pure ..).trans (faultOf_typeTexts arguments)
  | optionalType wrapped => exact (faultOf_bind_pure ..).trans (faultOf_typeText wrapped)
  | arrayType element => exact (faultOf_bind_pure ..).trans (faultOf_typeText element)
  | qualifiedType base _ => exact (faultOf_bind_pure ..).trans (faultOf_typeText base)
  | keyPathType root value =>
      rw [typeText, faultOf_bind fun _ => faultOf_bind_pure .., faultOf_typeText root,
        faultOf_typeText value, Node.typeFault?]
  | closureType parameters returns _ _ =>
      rw [typeText, faultOf_bind fun _ => faultOf_bind_pure .., faultOf_typeText returns,
        faultOf_typeTexts parameters, Node.typeFault?]
  | _ => rfl

theorem faultOf_typeTexts (types : List Node) :
    faultOf (p.typeTexts types) = typesFault? types := by
  cases types with
  | nil => rfl
  | cons type rest =>
      rw [typeTexts, faultOf_bind fun _ => faultOf_bind_pure .., faultOf_typeText type,
        faultOf_typeTexts rest, typesFault?]

end

theorem faultOf_conditional {level : Nat} {branches : List Branch} {otherwise : List Node}
    {b : Buffer}
    (hbranches : faultOf (p.writeBranches level p.spelling.ifKeyword branches b) =
      branchesFault? p.gaps branches)
    (hstatements : ∀ b, faultOf (p.writeStatements (level + 1) otherwise b) =
      statementsFault? p.gaps otherwise) :
    faultOf (p.writeStatement level (.conditional branches otherwise) b) =
      (Node.conditional branches otherwise).statementFault? p.gaps := by
  cases branches with
  | nil => rfl
  | cons =>
      rw [Node.statementFault?, ← hbranches, ← hstatements b]
      · cases otherwise with
        | nil => exact (faultOf_bind_pure _ id).trans (Option.or_none).symm
        | cons =>
            refine faultOf_bind fun _ => (faultOf_bind_pure ..).trans ?_
            rw [hstatements, hstatements]
      · nofun

mutual

theorem faultOf_writeExpression (level : Nat) (node : Node) (b : Buffer) :
    faultOf (p.writeExpression level node b) = node.expressionFault? p.gaps := by
  cases node with
  | boolLiteral value => cases value <;> rfl
  | intLiteral n => exact (faultOf_bind_pure ..).trans (p.faultOf_intText n)
  | intArrayLiteral ns =>
      exact (faultOf_bind_pure ..).trans ((faultOf_bind_pure ..).trans (p.faultOf_intTexts ns))
  | member base _ =>
      exact (faultOf_bind_pure ..).trans (faultOf_writeExpression level base .empty)
  | keyPath _ root =>
      cases root with
      | none => rfl
      | some type => exact (faultOf_bind_pure ..).trans (p.faultOf_typeText type)
  | typeExpression type => exact (faultOf_bind_pure ..).trans (p.faultOf_typeText type)
  | call call =>
      rw [writeExpression, faultOf_writeCall level call b, Node.expressionFault?]
  | closure _ body =>
      exact (faultOf_bind_pure ..).trans (faultOf_writeStatements (level + 1) body _)
  | arrayExpression elements =>
      exact (faultOf_bind_pure ..).trans (faultOf_expressionTexts level elements)
  | compare lhs c rhs =>
      rw [writeExpression, faultOf_bind fun _ => faultOf_bind fun _ => faultOf_bind_pure ..,
        p.faultOf_operator, faultOf_writeExpression level lhs .empty,
        faultOf_writeExpression level rhs .empty, Node.expressionFault?]
  | _ => rfl

theorem faultOf_expressionTexts (level : Nat) (nodes : List Node) :
    faultOf (p.expressionTexts level nodes) = expressionsFault? p.gaps nodes := by
  cases nodes with
  | nil => rfl
  | cons node rest =>
      rw [expressionTexts, faultOf_bind fun _ => faultOf_bind_pure ..,
        faultOf_writeExpression level node .empty, faultOf_expressionTexts level rest,
        expressionsFault?]

theorem faultOf_argumentTexts (level : Nat) (arguments : List Argument) :
    faultOf (p.argumentTexts level arguments) = argumentsFault? p.gaps arguments := by
  match arguments with
  | [] => rfl
  | .mk _ value :: rest =>
      rw [argumentTexts, faultOf_bind fun _ => faultOf_bind_pure ..,
        faultOf_writeExpression level value .empty, faultOf_argumentTexts level rest,
        argumentsFault?]

theorem faultOf_baseText (level : Nat) (base : Option Node) :
    faultOf (p.baseText level base) = baseFault? p.gaps base := by
  match base with
  | none => rfl
  | some base => exact (faultOf_bind_pure ..).trans (faultOf_writeExpression level base .empty)

theorem faultOf_writeTrailing (level : Nat) (trailing : Option Trailing) (b : Buffer) :
    faultOf (p.writeTrailing level trailing b) = trailingFault? p.gaps trailing := by
  match trailing with
  | none => rfl
  | some (.mk _ body) =>
      exact (faultOf_bind_pure ..).trans (faultOf_writeStatements (level + 1) body _)

theorem faultOf_writeCall (level : Nat) (call : Invocation) (b : Buffer) :
    faultOf (p.writeCall level call b) = call.fault? p.gaps := by
  match call with
  | .mk _ arguments base _ _ trailing =>
      rw [writeCall, faultOf_bind fun _ => faultOf_bind fun _ =>
          faultOf_writeTrailing level trailing _,
        faultOf_baseText level base, faultOf_argumentTexts level arguments, Invocation.fault?]

theorem faultOf_writeStatement (level : Nat) (node : Node) (b : Buffer) :
    faultOf (p.writeStatement level node b) = node.statementFault? p.gaps := by
  cases node with
  | group statements => exact faultOf_writeStatements level statements b
  | variableDecl _ value type _ =>
      have hvalue : ∀ b : Buffer, faultOf (do
          let b ← p.writeExpression level value (b.append p.style.valueSeparator)
          pure (b.ensure p.style.eol)) = value.expressionFault? p.gaps := fun b =>
        (faultOf_bind_pure ..).trans (faultOf_writeExpression level value _)
      cases type with
      | none => exact hvalue _
      | some type =>
          refine (faultOf_bind fun _ => hvalue _).trans ?_
          rw [p.faultOf_typeText type]
          rfl
  | assignment target value =>
      have hvalue : ∀ left : Buffer, faultOf (do
          let b := b.append (p.indent level ++ left.text ++ p.style.valueSeparator)
          let b ← p.writeExpression level value b
          pure (b.ensure p.style.eol)) = value.expressionFault? p.gaps := fun _ =>
        (faultOf_bind_pure ..).trans (faultOf_writeExpression level value _)
      refine (faultOf_bind hvalue).trans ?_
      rw [faultOf_writeExpression level target .empty, Node.statementFault?]
  | callStatement call => exact (faultOf_bind_pure ..).trans (faultOf_writeCall level call _)
  | ret value =>
      cases value with
      | none => rfl
      | some value =>
          exact (faultOf_bind_pure ..).trans (faultOf_writeExpression level value _)
  | conditional branches otherwise =>
      exact faultOf_conditional p (faultOf_writeBranches level p.spelling.ifKeyword branches b)
        (faultOf_writeStatements (level + 1) otherwise)
  | _ => rfl

theorem faultOf_writeBranches (level : Nat) (keyword : String) (branches : List Branch)
    (b : Buffer) :
    faultOf (p.writeBranches level keyword branches b) = branchesFault? p.gaps branches := by
  match branches with
  | [] => rfl
  | .mk condition body :: rest =>
      have hbody : ∀ test : Buffer, faultOf (do
          let start := (b.append (p.indent level ++ keyword ++ " " ++ test.text)).ensure " "
          let inner ← p.writeStatements (level + 1) body (openBlock p.style.eol start)
          let next := p.spelling.elseKeyword ++ " " ++ p.spelling.ifKeyword
          p.writeBranches level next rest (p.closeBlock level p.style.eol inner)) =
            (statementsFault? p.gaps body).or (branchesFault? p.gaps rest) := by
        intro test
        refine (faultOf_bind fun _ => faultOf_writeBranches level _ rest _).trans ?_
        rw [faultOf_writeStatements (level + 1) body]
      refine (faultOf_bind hbody).trans ?_
      rw [faultOf_writeExpression level condition .empty, branchesFault?]

theorem faultOf_writeStatements (level : Nat) (statements : List Node) (b : Buffer) :
    faultOf (p.writeStatements level statements b) = statementsFault? p.gaps statements := by
  cases statements with
  | nil => rfl
  | cons statement rest =>
      rw [writeStatements, faultOf_bind fun _ => faultOf_writeStatements level rest _,
        faultOf_writeStatement level statement b, statementsFault?]

end

end Printer

/-! ## Declarations -/

def optionalValueFault? (g : Gaps) (value : Option Node) : Option Failure :=
  value.bind (Node.expressionFault? g)

def Param.fault? (g : Gaps) (param : Param) : Option Failure :=
  param.type.typeFault?.or (optionalValueFault? g param.default)

def GenericConstraint.fault? (c : GenericConstraint) : Option Failure := c.type.typeFault?

def Signature.fault? (g : Gaps) (s : Signature) : Option Failure :=
  s.returns.typeFault?.or <| (s.parameters.findSome? (Param.fault? g)).or <|
    s.genericConstraints.findSome? GenericConstraint.fault?

def Function.fault? (g : Gaps) (f : Function) : Option Failure :=
  (f.signature.fault? g).or (statementsFault? g f.body)

def Variable.fault? (g : Gaps) (v : Variable) : Option Failure :=
  (optionalTypeFault? v.type).or (optionalValueFault? g v.value)

def ComputedProperty.fault? (g : Gaps) (c : ComputedProperty) : Option Failure :=
  c.type.typeFault?.or (statementsFault? g c.body)

mutual

def TypeDef.fault? (g : Gaps) : TypeDef → Option Failure
  | ⟨_, kind, _, conformances, nested, typeVariables, instanceVariables, computed, functions, _⟩ =>
      ((g.kind kind).or (conformances.findSome? Node.typeFault?)).or <|
        (nestedFault? g nested).or <|
          (typeVariables.findSome? (Variable.fault? g)).or <|
            (instanceVariables.findSome? (Variable.fault? g)).or <|
              (computed.findSome? (ComputedProperty.fault? g)).or
                (functions.findSome? (Function.fault? g))

def nestedFault? (g : Gaps) : List TypeDef → Option Failure
  | [] => none
  | d :: rest => (d.fault? g).or (nestedFault? g rest)

end

def Extension.fault? (g : Gaps) (e : Extension) : Option Failure :=
  e.extendedType.typeFault?.or <|
    (e.genericConstraints.findSome? GenericConstraint.fault?).or <|
      (e.structures.findSome? (TypeDef.fault? g)).or (e.functions.findSome? (Function.fault? g))

/-- The first node of a unit that has no text where it stands, or a condition without branches. -/
def CompilationUnit.fault? (g : Gaps) (u : CompilationUnit) : Option Failure :=
  (u.structures.findSome? (TypeDef.fault? g)).or <|
    (u.functions.findSome? (Function.fault? g)).or <| u.extensions.findSome? (Extension.fault? g)

theorem nestedFault?_eq_none_iff {types : List TypeDef} :
    nestedFault? g types = none ↔ ∀ d ∈ types, d.fault? g = none := by
  induction types with
  | nil => simp [nestedFault?]
  | cons d rest ih => simp [nestedFault?, ih]

/-! ## Printed declarations -/

namespace Printer

variable (p : Printer)

theorem statementsFault?_of_impliedReturn? {body : List Node} {value : Node}
    (h : p.impliedReturn? body = some value) :
    statementsFault? p.gaps body = value.expressionFault? p.gaps := by
  unfold impliedReturn? at h
  split at h
  · split at h
    · cases h
      simp [statementsFault?, Node.statementFault?]
    · cases h
  · cases h

theorem faultOf_writeBody (level : Nat) (body : List Node) (b : Buffer) :
    faultOf (p.writeBody level body b) = statementsFault? p.gaps body := by
  unfold writeBody
  split
  case h_1 value hvalue =>
      rw [faultOf_bind_pure, p.faultOf_writeExpression, p.statementsFault?_of_impliedReturn? hvalue]
  case h_2 => exact p.faultOf_writeStatements level body b

theorem faultOf_parameterText (level : Nat) (param : Param) :
    faultOf (p.parameterText level param) = param.fault? p.gaps := by
  rw [Param.fault?, ← p.faultOf_typeText]
  cases hdefault : param.default with
  | none =>
      rw [parameterText, hdefault, optionalValueFault?, Option.bind_none, Option.or_none]
      exact faultOf_bind_pure ..
  | some value =>
      rw [parameterText, hdefault]
      refine faultOf_bind fun _ => (faultOf_bind_pure ..).trans ?_
      rw [expressionText, faultOf_map, p.faultOf_writeExpression]
      rfl

theorem faultOf_constraintText (c : GenericConstraint) :
    faultOf (p.constraintText c) = c.fault? :=
  (faultOf_bind_pure ..).trans (p.faultOf_typeText c.type)

theorem faultOf_whereText (constraints : List GenericConstraint) :
    faultOf (p.whereText constraints) = constraints.findSome? GenericConstraint.fault? := by
  rw [whereText, faultOf_bind_pure, faultOf_mapM]
  simp only [p.faultOf_constraintText]

theorem faultOf_effectText (s : Signature) : faultOf (p.effectText s) = s.returns.typeFault? := by
  unfold effectText
  generalize s.returns = returns
  cases returns with
  | voidType => rfl
  | _ => exact (faultOf_bind_pure ..).trans (p.faultOf_typeText _)

theorem faultOf_writeSignature (level : Nat) (s : Signature) (omitted : Bool) (b : Buffer) :
    faultOf (p.writeSignature level s omitted b) = s.fault? p.gaps := by
  have hwhere : ∀ b : Buffer, faultOf (
      if s.genericConstraints.isEmpty then pure b
      else do
        let text ← p.whereText s.genericConstraints
        pure (p.line (level + 1) text b)) =
        s.genericConstraints.findSome? GenericConstraint.fault? := by
    intro b
    split
    case isTrue hempty => rw [List.isEmpty_iff.mp hempty]; rfl
    case isFalse => rw [faultOf_bind_pure, p.faultOf_whereText]
  refine (faultOf_bind fun _ => faultOf_bind fun _ => hwhere _).trans ?_
  rw [p.faultOf_effectText, faultOf_mapM, Signature.fault?]
  simp only [p.faultOf_parameterText]

theorem faultOf_writeFunction (level : Nat) (omitted : Bool) (f : Function) (b : Buffer) :
    faultOf (p.writeFunction level omitted f b) = f.fault? p.gaps := by
  refine (faultOf_bind fun _ => (faultOf_bind_pure ..).trans
    (p.faultOf_writeBody (level + 1) f.body _)).trans ?_
  rw [p.faultOf_writeSignature, Function.fault?]

theorem faultOf_writeVariable (level : Nat) (isStatic : Bool) (v : Variable) (b : Buffer) :
    faultOf (p.writeVariable level isStatic v b) = v.fault? p.gaps := by
  have htype : faultOf (p.optionalTypeText v.type) = optionalTypeFault? v.type := by
    cases v.type with
    | none => rfl
    | some type => exact (faultOf_map ..).trans (p.faultOf_typeText type)
  have hvalue :
      faultOf (p.optionalValueText level v.value) = optionalValueFault? p.gaps v.value := by
    cases v.value with
    | none => rfl
    | some value =>
        rw [optionalValueText, faultOf_map, expressionText, faultOf_map, p.faultOf_writeExpression]
        rfl
  refine (faultOf_bind fun _ => (faultOf_bind_pure ..).trans hvalue).trans ?_
  rw [htype, Variable.fault?]

theorem faultOf_writeComputed (level : Nat) (c : ComputedProperty) (b : Buffer) :
    faultOf (p.writeComputed level c b) = c.fault? p.gaps := by
  rw [ComputedProperty.fault?, ← p.faultOf_typeText]
  cases hvalue : p.impliedReturn? c.body with
  | none =>
      rw [writeComputed, hvalue]
      exact faultOf_bind fun _ => (faultOf_bind_pure ..).trans
        (p.faultOf_writeBody (level + 1) c.body _)
  | some value =>
      rw [writeComputed, hvalue]
      refine faultOf_bind fun _ => (faultOf_bind_pure ..).trans ?_
      rw [p.faultOf_writeExpression, p.statementsFault?_of_impliedReturn? hvalue]

theorem faultOf_writeMembers {α : Type} {hasComment : α → Bool}
    {write : α → Buffer → Printed Buffer} {fault : α → Option Failure}
    (hwrite : ∀ m b, faultOf (write m b) = fault m) (members : List α) (b : Buffer) :
    faultOf (p.writeMembers hasComment write members b) = members.findSome? fault := by
  have hgo : ∀ (afterComment : Bool) (b : Buffer),
      faultOf (writeMembers.go p hasComment write afterComment members b) =
        members.findSome? fault := by
    induction members with
    | nil => exact fun _ _ => rfl
    | cons m rest ih =>
        intro afterComment b
        refine (faultOf_bind fun b => ih _ b).trans ?_
        rw [hwrite, List.findSome?_cons]
        cases fault m <;> rfl
  unfold writeMembers
  split
  case isTrue hempty => rw [List.isEmpty_iff.mp hempty]; rfl
  case isFalse => exact hgo false _

theorem faultOf_writeFunctions (level : Nat) (omitted : Bool) (functions : List Function)
    (b : Buffer) :
    faultOf (p.writeFunctions level omitted functions b) =
      functions.findSome? (Function.fault? p.gaps) :=
  faultOf_foldlM (fun _ f => p.faultOf_writeFunction level omitted f _) functions b

theorem faultOf_startType (level : Nat) (omitted : Bool) (d : TypeDef) (b : Buffer) :
    faultOf (p.startType level omitted d b) =
      (p.gaps.kind d.kind).or (d.conformances.findSome? Node.typeFault?) := by
  refine (faultOf_bind_pure ..).trans <| (faultOf_bind fun _ => faultOf_bind_pure ..).trans ?_
  rw [p.faultOf_typeKeyword, faultOf_mapM]
  simp only [p.faultOf_typeText]

theorem faultOf_writeOwnMembers (level : Nat) (d : TypeDef) (b : Buffer) :
    faultOf (p.writeOwnMembers level d b) =
      ((d.typeVariables.findSome? (Variable.fault? p.gaps)).or <|
        (d.instanceVariables.findSome? (Variable.fault? p.gaps)).or <|
          (d.computed.findSome? (ComputedProperty.fault? p.gaps)).or <|
            d.functions.findSome? (Function.fault? p.gaps)) := by
  refine (faultOf_bind fun b => ?_).trans
    (congrArg (Option.or · _) (p.faultOf_writeMembers (p.faultOf_writeVariable level true) _ b))
  refine (faultOf_bind fun b => ?_).trans
    (congrArg (Option.or · _) (p.faultOf_writeMembers (p.faultOf_writeVariable level false) _ b))
  exact (faultOf_bind fun b => p.faultOf_writeFunctions level false _ b).trans
    (congrArg (Option.or · _) (p.faultOf_writeMembers (p.faultOf_writeComputed level) _ b))

mutual

theorem faultOf_writeType (level : Nat) (omitted : Bool) (d : TypeDef) (b : Buffer) :
    faultOf (p.writeType level omitted d b) = d.fault? p.gaps := by
  match d with
  | ⟨_, _, _, conformances, nested, _, _, _, _, _⟩ =>
      have hnested := faultOf_writeNested (level + 1) nested
      rw [writeType, TypeDef.fault?]
      refine (faultOf_bind fun b => (faultOf_bind fun b => (faultOf_bind_pure ..).trans
        (p.faultOf_writeOwnMembers (level + 1) _ b)).trans
          (congrArg (Option.or · _) (hnested b))).trans ?_
      rw [p.faultOf_startType]

theorem faultOf_writeNested (level : Nat) (types : List TypeDef) (b : Buffer) :
    faultOf (p.writeNested level types b) = nestedFault? p.gaps types := by
  match types with
  | [] => rfl
  | d :: rest =>
      rw [writeNested, faultOf_bind fun b => faultOf_writeNested level rest b,
        faultOf_writeType level false d, nestedFault?]

end

theorem faultOf_writeStructures (level : Nat) (omitted : Bool) (structures : List TypeDef)
    (b : Buffer) :
    faultOf (p.writeStructures level omitted structures b) =
      structures.findSome? (TypeDef.fault? p.gaps) :=
  faultOf_foldlM (fun _ d => p.faultOf_writeType level omitted d _) structures b

theorem faultOf_writeExtension (e : Extension) (b : Buffer) :
    faultOf (p.writeExtension e b) = e.fault? p.gaps := by
  have hmembers : ∀ b : Buffer, faultOf (do
      let b ← p.writeStructures 1 (e.visibility == .isPublic) e.structures b
      let b ← p.writeFunctions 1 (e.visibility == .isPublic) e.functions b
      pure (p.line 0 "\x7d" b)) =
        (e.structures.findSome? (TypeDef.fault? p.gaps)).or
          (e.functions.findSome? (Function.fault? p.gaps)) := by
    intro b
    rw [faultOf_bind fun b => (faultOf_bind_pure ..).trans (p.faultOf_writeFunctions ..),
      p.faultOf_writeStructures]
  refine (faultOf_bind fun type => ?_).trans
    (congrArg (Option.or · _) (p.faultOf_typeText e.extendedType))
  dsimp only
  split
  case isTrue hempty =>
    rw [List.isEmpty_iff.mp hempty]
    exact hmembers _
  case isFalse =>
    refine (faultOf_bind fun _ => hmembers _).trans ?_
    rw [p.faultOf_whereText]

theorem faultOf_writeUnit (u : CompilationUnit) : faultOf (p.writeUnit u) = u.fault? p.gaps := by
  refine (faultOf_bind fun b => (faultOf_bind fun b => faultOf_foldlM
    (fun _ e => p.faultOf_writeExtension e _) _ b).trans (congrArg (Option.or · _) <|
      faultOf_foldlM (fun _ f => p.faultOf_writeFunction 0 false f _) _ b)).trans ?_
  rw [faultOf_foldlM fun _ d => p.faultOf_writeType 0 false d _, CompilationUnit.fault?]

end Printer

theorem CompilationUnit.faultOf_render (u : CompilationUnit) (style : Style) (spelling : Spelling) :
    faultOf (u.render style spelling) = u.fault? spelling.gaps :=
  (faultOf_map ..).trans (Printer.faultOf_writeUnit ⟨style, spelling⟩ u)

end RecordLoom.Code
