import RecordLoom.Proofs.Code.Fault
import Mathlib.Logic.Relation

/-!
# Which trees have a text

A tree is well-formed when each node in it is of the sort that its place asks for, and each
condition has a branch.  The places of a tree are listed here from the trees alone, with nothing of
how the printer reads them.  A well-formed tree is printed unless the spelling has a gap where the
tree needs a text: an integer with too many digits, or a comparison or kind of type without a word.
-/

namespace RecordLoom.Code

/-! ## Nodes and their places -/

namespace Node

def isType (node : Node) : Bool :=
  node matches .voidType | .namedType .. | .optionalType .. | .arrayType .. | .qualifiedType ..
    | .keyPathType .. | .closureType ..

def isExpression (node : Node) : Bool :=
  node matches .nilLiteral | .boolLiteral .. | .intLiteral .. | .doubleLiteral ..
    | .stringLiteral .. | .intArrayLiteral .. | .dataLiteral .. | .variableRef .. | .selfRef
    | .member .. | .keyPath .. | .typeExpression .. | .call .. | .closure ..
    | .arrayExpression .. | .compare .. | .rawExpression ..

def isStatement (node : Node) : Bool :=
  node matches .variableDecl .. | .assignment .. | .callStatement .. | .conditional .. | .ret ..
    | .group .. | .rawStatement ..

/-- The integers that a node itself writes out. -/
def integers : Node → List Int
  | .intLiteral n => [n]
  | .intArrayLiteral ns => ns
  | _ => []

end Node

/-- A node in a place, by the sort of nodes that belongs there, or the head of a type. -/
inductive Part where
  | type (node : Node)
  | expression (node : Node)
  | statement (node : Node)
  | definition (kind : TypeKind)

namespace Part

def node : Part → Node
  | .type node | .expression node | .statement node => node
  | .definition _ => .stray .typeDef

def fits : Part → Bool
  | .type node => node.isType
  | .expression node => node.isExpression
  | .statement node => node.isStatement
  | .definition _ => true

end Part

/-! ## The places of a tree -/

def Argument.value : Argument → Node
  | .mk _ value => value

def Trailing.body : Trailing → List Node
  | .mk _ body => body

def Branch.parts : Branch → List Part
  | .mk condition body => .expression condition :: body.map .statement

def Invocation.parts : Invocation → List Part
  | .mk _ arguments base _ _ trailing =>
      base.toList.map .expression ++ (arguments.map (.expression ·.value) ++
        trailing.toList.flatMap (·.body.map .statement))

/-- The places in a node, without those further down. -/
def Node.parts : Node → List Part
  | .namedType _ arguments => arguments.map .type
  | .optionalType wrapped => [.type wrapped]
  | .arrayType element => [.type element]
  | .qualifiedType base _ => [.type base]
  | .keyPathType root value => [.type root, .type value]
  | .closureType parameters returns _ _ => .type returns :: parameters.map .type
  | .member base _ => [.expression base]
  | .keyPath _ root => root.toList.map .type
  | .typeExpression type => [.type type]
  | .call invocation | .callStatement invocation => invocation.parts
  | .closure _ body => body.map .statement
  | .arrayExpression elements => elements.map .expression
  | .compare lhs _ rhs => [.expression lhs, .expression rhs]
  | .variableDecl _ value type _ => type.toList.map .type ++ [.expression value]
  | .assignment target value => [.expression target, .expression value]
  | .conditional branches otherwise =>
      branches.flatMap Branch.parts ++ otherwise.map .statement
  | .ret value => value.toList.map .expression
  | .group statements => statements.map .statement
  | _ => []

def Param.parts (param : Param) : List Part :=
  .type param.type :: param.default.toList.map .expression

def GenericConstraint.part (c : GenericConstraint) : Part := .type c.type

def Function.parts (f : Function) : List Part :=
  .type f.signature.returns :: (f.signature.parameters.flatMap Param.parts ++
    (f.signature.genericConstraints.map GenericConstraint.part ++ f.body.map .statement))

def Variable.parts (v : Variable) : List Part :=
  v.type.toList.map .type ++ v.value.toList.map .expression

def ComputedProperty.parts (c : ComputedProperty) : List Part :=
  .type c.type :: c.body.map .statement

mutual

def TypeDef.parts : TypeDef → List Part
  | ⟨_, kind, _, conformances, nested, typeVariables, instanceVariables, computed, functions, _⟩ =>
      .definition kind :: conformances.map .type ++ (nestedParts nested ++
        (typeVariables.flatMap Variable.parts ++ (instanceVariables.flatMap Variable.parts ++
          (computed.flatMap ComputedProperty.parts ++ functions.flatMap Function.parts))))

def nestedParts : List TypeDef → List Part
  | [] => []
  | d :: rest => d.parts ++ nestedParts rest

end

def Extension.parts (e : Extension) : List Part :=
  .type e.extendedType :: (e.genericConstraints.map GenericConstraint.part ++
    (e.structures.flatMap TypeDef.parts ++ e.functions.flatMap Function.parts))

def CompilationUnit.parts (u : CompilationUnit) : List Part :=
  u.structures.flatMap TypeDef.parts ++ (u.functions.flatMap Function.parts ++
    u.extensions.flatMap Extension.parts)

/-! ## Well-formed trees -/

def Part.Holds (outer inner : Part) : Prop := inner ∈ outer.node.parts

/-- A place somewhere in a unit, at any depth. -/
def CompilationUnit.Holds (u : CompilationUnit) (part : Part) : Prop :=
  ∃ top ∈ u.parts, Relation.ReflTransGen Part.Holds top part

structure CompilationUnit.WellFormed (u : CompilationUnit) : Prop where
  fits : ∀ part, u.Holds part → part.fits = true
  branches : ∀ part, u.Holds part → ∀ otherwise, part.node ≠ .conditional [] otherwise

/-- The spelling has a text for whatever a unit writes out. -/
structure CompilationUnit.SpelledIn (u : CompilationUnit) (s : Spelling) : Prop where
  integers : ∀ node, u.Holds (.expression node) → ∀ n ∈ node.integers, Number.isLong n = false
  comparisons : ∀ lhs c rhs, u.Holds (.expression (.compare lhs c rhs)) → s.operator? c ≠ none
  kinds : ∀ kind, u.Holds (.definition kind) → s.typeKeyword? kind ≠ none

/-- How a unit fails for want of a text. -/
inductive CompilationUnit.Unspelled (u : CompilationUnit) (s : Spelling) : Failure → Prop
  | integer {node : Node} {n : Int} (held : u.Holds (.expression node))
      (written : n ∈ node.integers) (long : Number.isLong n = true) :
      Unspelled u s (.conversion .tooManyDigits)
  | comparison {lhs rhs : Node} {c : Comparison} (held : u.Holds (.expression (.compare lhs c rhs)))
      (missing : s.operator? c = none) : Unspelled u s (.unspelled c.name)
  | kind {kind : TypeKind} (held : u.Holds (.definition kind))
      (missing : s.typeKeyword? kind = none) : Unspelled u s (.unspelled kind.name)

theorem CompilationUnit.Unspelled.isReported {u : CompilationUnit} {s : Spelling} {f : Failure}
    (h : u.Unspelled s f) : f.isReported = false := by
  cases h <;> rfl

namespace Part

def fault? (g : Gaps) : Part → Option Failure
  | .type node => node.typeFault?
  | .expression node => node.expressionFault? g
  | .statement node => node.statementFault? g
  | .definition kind => g.kind kind

def gap? (g : Gaps) : Part → Option Failure
  | .expression (.intLiteral n) => g.integer n
  | .expression (.intArrayLiteral ns) => ns.findSome? g.integer
  | .expression (.compare _ c _) => g.comparison c
  | .definition kind => g.kind kind
  | _ => none

def ownFault? (g : Gaps) (part : Part) : Option Failure :=
  if part.fits then
    if part.node matches .conditional [] _ then
      some (.invariantBroken "conditional without branches" [])
    else part.gap? g
  else some (.unrenderable part.node.kindName)

theorem eq_statement_of_fits {part : Part} {branches : List Branch} {otherwise : List Node}
    (hnode : part.node = .conditional branches otherwise) (hfits : part.fits = true) :
    part = .statement (.conditional branches otherwise) := by
  cases part with
  | type node | expression node =>
      rw [show node = _ from hnode] at hfits
      exact nomatch hfits
  | statement node => exact congrArg statement hnode
  | definition kind => cases hnode

theorem cases_of_ownFault? {g : Gaps} {part : Part} {f : Failure} (h : part.ownFault? g = some f) :
    (part.fits = false ∧ f = .unrenderable part.node.kindName) ∨
      ((∃ otherwise, part = .statement (.conditional [] otherwise)) ∧
        f = .invariantBroken "conditional without branches" []) ∨ part.gap? g = some f := by
  unfold ownFault? at h
  split at h
  case isTrue hfits =>
    split at h
    case h_1 otherwise hnode =>
      exact .inr <| .inl ⟨⟨otherwise, eq_statement_of_fits hnode hfits⟩, (Option.some.inj h).symm⟩
    case h_2 => exact .inr (.inr h)
  case isFalse hmisfit => exact .inl ⟨eq_false_of_ne_true hmisfit, (Option.some.inj h).symm⟩

theorem ownFault?_eq_none_iff {g : Gaps} {part : Part} :
    part.ownFault? g = none ↔
      (part.fits = true ∧ ∀ otherwise, part.node ≠ .conditional [] otherwise) ∧
        part.gap? g = none := by
  unfold ownFault?
  split
  case isTrue hfits =>
    split
    case h_1 otherwise hnode => simp [hnode]
    case h_2 hnode =>
      have hbranches : ∀ otherwise, part.node ≠ .conditional [] otherwise := by simpa using hnode
      simp [hfits, hbranches]
  case isFalse hmisfit => simp [hmisfit]

@[simp] theorem gap?_empty (part : Part) : part.gap? .empty = none := by
  unfold gap?
  split <;> simp [Gaps.empty]

end Part

/-! ## Faults, place by place -/

section

variable {α β γ : Type}

theorem findSome?_cons (x : α) (rest : List α) (f : α → Option β) :
    (x :: rest).findSome? f = (f x).or (rest.findSome? f) := by
  rw [List.findSome?_cons]
  cases f x <;> rfl

theorem eq_findSome? {s : List α → Option β} {f : α → Option β} (hnil : s [] = none)
    (hcons : ∀ x rest, s (x :: rest) = (f x).or (s rest)) (xs : List α) :
    s xs = xs.findSome? f := by
  induction xs with
  | nil => exact hnil
  | cons x rest ih => rw [hcons, ih, findSome?_cons]

theorem findSome?_flatMap (xs : List α) (g : α → List β) (f : β → Option γ) :
    (xs.flatMap g).findSome? f = xs.findSome? fun x => (g x).findSome? f :=
  eq_findSome? (s := fun xs => (xs.flatMap g).findSome? f) rfl
    (fun x rest => by rw [List.flatMap_cons, List.findSome?_append]) xs

theorem findSome?_toList (x : Option α) (f : α → Option β) : x.toList.findSome? f = x.bind f := by
  cases x with
  | none => rfl
  | some a => exact List.findSome?_singleton

end

section

variable (g : Gaps)

theorem typesFault?_eq (types : List Node) :
    typesFault? types = (types.map .type).findSome? (Part.fault? g) :=
  (eq_findSome? rfl (fun _ _ => rfl) types).trans List.findSome?_map.symm

theorem expressionsFault?_eq (nodes : List Node) :
    expressionsFault? g nodes = (nodes.map .expression).findSome? (Part.fault? g) :=
  (eq_findSome? rfl (fun _ _ => rfl) nodes).trans List.findSome?_map.symm

theorem statementsFault?_eq (statements : List Node) :
    statementsFault? g statements = (statements.map .statement).findSome? (Part.fault? g) :=
  (eq_findSome? rfl (fun _ _ => rfl) statements).trans List.findSome?_map.symm

theorem argumentsFault?_eq (arguments : List Argument) :
    argumentsFault? g arguments =
      (arguments.map (Part.expression ·.value)).findSome? (Part.fault? g) :=
  (eq_findSome? rfl (fun | .mk _ _, _ => rfl) arguments).trans List.findSome?_map.symm

theorem Branch.fault?_parts (condition : Node) (body : List Node) :
    (Branch.mk condition body).parts.findSome? (Part.fault? g) =
      (condition.expressionFault? g).or (statementsFault? g body) := by
  rw [Branch.parts, findSome?_cons, statementsFault?_eq, Part.fault?]

theorem branchesFault?_eq (branches : List Branch) :
    branchesFault? g branches = (branches.flatMap Branch.parts).findSome? (Part.fault? g) := by
  rw [findSome?_flatMap]
  refine eq_findSome? rfl (fun branch rest => ?_) branches
  obtain ⟨condition, body⟩ := branch
  rw [branchesFault?, Branch.fault?_parts, Option.or_assoc]

theorem Invocation.fault?_eq (call : Invocation) :
    call.fault? g = call.parts.findSome? (Part.fault? g) := by
  obtain ⟨name, arguments, base, tries, awaits, trailing⟩ := call
  have hbase : baseFault? g base = (base.toList.map Part.expression).findSome? (Part.fault? g) := by
    cases base with
    | none => rfl
    | some node => exact List.findSome?_singleton.symm
  have htrailing : trailingFault? g trailing =
      (trailing.toList.flatMap (·.body.map Part.statement)).findSome? (Part.fault? g) := by
    cases trailing with
    | none => rfl
    | some closure =>
        obtain ⟨parameters, body⟩ := closure
        rw [trailingFault?, statementsFault?_eq, Option.toList_some, List.flatMap_singleton]
        rfl
  rw [Invocation.fault?, Invocation.parts, List.findSome?_append, List.findSome?_append, hbase,
    argumentsFault?_eq, htrailing]

theorem optionalTypeFault?_eq (type : Option Node) :
    optionalTypeFault? type = (type.toList.map .type).findSome? (Part.fault? g) := by
  rw [List.findSome?_map, findSome?_toList]
  rfl

theorem optionalValueFault?_eq (value : Option Node) :
    optionalValueFault? g value = (value.toList.map .expression).findSome? (Part.fault? g) := by
  rw [List.findSome?_map, findSome?_toList]
  rfl

end

/-! ## Parts are smaller -/

section

variable {inner : Part}

theorem sizeOf_lt_of_mem_map {place : Node → Part} (hplace : ∀ node, (place node).node = node)
    {nodes : List Node} (h : inner ∈ nodes.map place) : sizeOf inner.node < sizeOf nodes := by
  obtain ⟨node, hmem, rfl⟩ := List.mem_map.mp h
  rw [hplace]
  exact List.sizeOf_lt_of_mem hmem

theorem sizeOf_lt_of_mem_toList {place : Node → Part} (hplace : ∀ node, (place node).node = node)
    {node : Option Node} (h : inner ∈ node.toList.map place) : sizeOf inner.node < sizeOf node := by
  obtain ⟨held, hmem, rfl⟩ := List.mem_map.mp h
  have hsome : node = some held := Option.mem_toList.mp hmem
  rw [hsome, hplace, Option.some.sizeOf_spec]
  omega

theorem Invocation.sizeOf_lt_of_mem_parts {call : Invocation} (h : inner ∈ call.parts) :
    sizeOf inner.node < sizeOf call := by
  obtain ⟨name, arguments, base, tries, awaits, trailing⟩ := call
  rw [Invocation.parts, List.mem_append, List.mem_append] at h
  rw [Invocation.mk.sizeOf_spec]
  rcases h with hbase | hargument | htrailing
  · have hlt := sizeOf_lt_of_mem_toList (fun _ => rfl) hbase
    omega
  · obtain ⟨⟨label, value⟩, hmem, rfl⟩ := List.mem_map.mp hargument
    have hlt := List.sizeOf_lt_of_mem hmem
    rw [Argument.mk.sizeOf_spec] at hlt
    simp only [Part.node, Argument.value]
    omega
  · obtain ⟨⟨parameters, body⟩, hmem, hbody⟩ := List.mem_flatMap.mp htrailing
    have hsome : trailing = some (.mk parameters body) := Option.mem_toList.mp hmem
    have hlt : sizeOf inner.node < sizeOf body := sizeOf_lt_of_mem_map (fun _ => rfl) hbody
    rw [hsome, Option.some.sizeOf_spec, Trailing.mk.sizeOf_spec]
    omega

theorem Branch.sizeOf_lt_of_mem_parts {branch : Branch} (h : inner ∈ branch.parts) :
    sizeOf inner.node < sizeOf branch := by
  obtain ⟨condition, body⟩ := branch
  rw [Branch.mk.sizeOf_spec]
  rcases List.mem_cons.mp h with rfl | hbody
  · simp only [Part.node]
    omega
  · have hlt := sizeOf_lt_of_mem_map (fun _ => rfl) hbody
    omega

open Node in
theorem Node.sizeOf_lt_of_mem_parts {node : Node} (h : inner ∈ node.parts) :
    sizeOf inner.node < sizeOf node := by
  cases node with
  | namedType _ nodes | closure _ nodes | arrayExpression nodes | group nodes =>
      have hlt : sizeOf inner.node < sizeOf nodes := sizeOf_lt_of_mem_map (fun _ => rfl) h
      simp only [namedType.sizeOf_spec, closure.sizeOf_spec, arrayExpression.sizeOf_spec,
        group.sizeOf_spec]
      omega
  | keyPath _ node | ret node =>
      have hlt : sizeOf inner.node < sizeOf node := sizeOf_lt_of_mem_toList (fun _ => rfl) h
      simp only [keyPath.sizeOf_spec, ret.sizeOf_spec]
      omega
  | call invocation | callStatement invocation =>
      have hlt := Invocation.sizeOf_lt_of_mem_parts h
      simp only [call.sizeOf_spec, callStatement.sizeOf_spec]
      omega
  | optionalType only | arrayType only | qualifiedType only | member only | typeExpression only =>
      rw [List.mem_singleton.mp h]
      simp only [optionalType.sizeOf_spec, arrayType.sizeOf_spec, qualifiedType.sizeOf_spec,
        member.sizeOf_spec, typeExpression.sizeOf_spec, Part.node]
      omega
  | keyPathType first second | compare first _ second | assignment first second =>
      simp only [keyPathType.sizeOf_spec, compare.sizeOf_spec, assignment.sizeOf_spec]
      rcases List.mem_cons.mp h with rfl | hsecond
      · rw [Part.node]
        omega
      · rw [List.mem_singleton.mp hsecond, Part.node]
        omega
  | closureType parameters returns _ _ =>
      rw [closureType.sizeOf_spec]
      rcases List.mem_cons.mp h with rfl | hparameter
      · rw [Part.node]
        omega
      · have hlt := sizeOf_lt_of_mem_map (fun _ => rfl) hparameter
        omega
  | variableDecl _ value type _ =>
      rw [variableDecl.sizeOf_spec]
      rcases List.mem_append.mp h with htype | hvalue
      · have hlt := sizeOf_lt_of_mem_toList (fun _ => rfl) htype
        omega
      · rw [List.mem_singleton.mp hvalue, Part.node]
        omega
  | conditional branches otherwise =>
      rw [conditional.sizeOf_spec]
      rcases List.mem_append.mp h with hbranch | hstatement
      · obtain ⟨branch, hmem, hpart⟩ := List.mem_flatMap.mp hbranch
        have hlt := Branch.sizeOf_lt_of_mem_parts hpart
        have hbranch := List.sizeOf_lt_of_mem hmem
        omega
      · have hlt := sizeOf_lt_of_mem_map (fun _ => rfl) hstatement
        omega
  | _ => nomatch h

end

/-! ## One step of the search -/

section

variable (g : Gaps)

namespace Part

theorem fault?_pair (first second : Part) :
    [first, second].findSome? (fault? g) = (first.fault? g).or (second.fault? g) := by
  rw [findSome?_cons, List.findSome?_singleton]

theorem fault?_type (node : Node) :
    node.typeFault? = ((type node).ownFault? g).or (node.parts.findSome? (fault? g)) := by
  cases node with
  | namedType _ arguments => exact typesFault?_eq g arguments
  | optionalType wrapped => exact List.findSome?_singleton.symm
  | arrayType element => exact List.findSome?_singleton.symm
  | qualifiedType base _ => exact List.findSome?_singleton.symm
  | keyPathType root value => exact (fault?_pair g (type root) (type value)).symm
  | closureType parameters returns _ _ =>
      rw [Node.typeFault?, typesFault?_eq g]
      exact (findSome?_cons (type returns) (parameters.map type) (fault? g)).symm
  | _ => rfl

theorem fault?_expression (node : Node) :
    node.expressionFault? g =
      ((expression node).ownFault? g).or (node.parts.findSome? (fault? g)) := by
  cases node with
  | member base _ => exact List.findSome?_singleton.symm
  | keyPath _ root => exact optionalTypeFault?_eq g root
  | typeExpression type => exact List.findSome?_singleton.symm
  | call invocation => exact invocation.fault?_eq g
  | closure _ body => exact statementsFault?_eq g body
  | intLiteral n => exact Option.or_none.symm
  | intArrayLiteral ns => exact Option.or_none.symm
  | arrayExpression elements => exact expressionsFault?_eq g elements
  | compare lhs c rhs =>
      exact congrArg (Option.or (g.comparison c))
        (fault?_pair g (expression lhs) (expression rhs)).symm
  | _ => rfl

theorem fault?_statement (node : Node) :
    node.statementFault? g =
      ((statement node).ownFault? g).or (node.parts.findSome? (fault? g)) := by
  cases node with
  | group statements => exact statementsFault?_eq g statements
  | variableDecl _ value type _ =>
      rw [Node.statementFault?, Node.parts, List.findSome?_append, List.findSome?_singleton,
        optionalTypeFault?_eq g]
      rfl
  | assignment target value => exact (fault?_pair g (expression target) (expression value)).symm
  | callStatement invocation => exact invocation.fault?_eq g
  | ret value =>
      cases value with
      | none => rfl
      | some value => exact List.findSome?_singleton.symm
  | conditional branches otherwise =>
      cases branches with
      | nil => rfl
      | cons branch rest =>
          rw [Node.statementFault?, Node.parts, List.findSome?_append, branchesFault?_eq,
            statementsFault?_eq]
          · rfl
          · nofun
  | _ => rfl

/-- A part fails by itself, or as the first of its places that does. -/
theorem fault?_eq (part : Part) :
    part.fault? g = (part.ownFault? g).or (part.node.parts.findSome? (fault? g)) := by
  cases part with
  | type node => exact fault?_type g node
  | expression node => exact fault?_expression g node
  | statement node => exact fault?_statement g node
  | definition kind => exact Option.or_none.symm

variable {g}

theorem ownFault?_of_fault?_eq_none {part inner : Part} (h : part.fault? g = none)
    (hinner : Relation.ReflTransGen Holds part inner) : inner.ownFault? g = none := by
  induction hinner using Relation.ReflTransGen.head_induction_on with
  | refl =>
      rw [fault?_eq, Option.or_eq_none_iff] at h
      exact h.1
  | head hstep _ ih =>
      rw [fault?_eq, Option.or_eq_none_iff, List.findSome?_eq_none_iff] at h
      exact ih (h.2 _ hstep)

theorem exists_of_fault?_eq_some {f : Failure} (part : Part) (h : part.fault? g = some f) :
    ∃ inner, Relation.ReflTransGen Holds part inner ∧ inner.ownFault? g = some f := by
  rw [fault?_eq, Option.or_eq_some_iff] at h
  rcases h with hown | ⟨_, hparts⟩
  · exact ⟨part, .refl, hown⟩
  · obtain ⟨inner, hmem, hinner⟩ := List.exists_of_findSome?_eq_some hparts
    have hsmaller := Node.sizeOf_lt_of_mem_parts hmem
    obtain ⟨offender, hwithin, hown⟩ := exists_of_fault?_eq_some inner hinner
    exact ⟨offender, .head hmem hwithin, hown⟩
termination_by sizeOf part.node

end Part

end

/-! ## Declarations -/

section

variable (g : Gaps)

theorem Param.fault?_eq (param : Param) :
    param.fault? g = param.parts.findSome? (Part.fault? g) := by
  rw [Param.fault?, Param.parts, findSome?_cons, optionalValueFault?_eq, Part.fault?]

theorem Function.fault?_eq (f : Function) : f.fault? g = f.parts.findSome? (Part.fault? g) := by
  rw [Function.fault?, Signature.fault?, Function.parts, findSome?_cons, List.findSome?_append,
    List.findSome?_append, findSome?_flatMap, List.findSome?_map, statementsFault?_eq,
    Option.or_assoc, Option.or_assoc, Part.fault?]
  simp only [← Param.fault?_eq]
  rfl

theorem Variable.fault?_eq (v : Variable) : v.fault? g = v.parts.findSome? (Part.fault? g) := by
  rw [Variable.fault?, Variable.parts, List.findSome?_append, optionalTypeFault?_eq,
    optionalValueFault?_eq]

theorem ComputedProperty.fault?_eq (c : ComputedProperty) :
    c.fault? g = c.parts.findSome? (Part.fault? g) := by
  rw [ComputedProperty.fault?, ComputedProperty.parts, findSome?_cons, statementsFault?_eq,
    Part.fault?]

mutual

theorem TypeDef.fault?_eq (d : TypeDef) : d.fault? g = d.parts.findSome? (Part.fault? g) := by
  match d with
  | ⟨_, _, _, conformances, nested, typeVariables, instanceVariables, computed, functions, _⟩ =>
      have hnested := nestedFault?_eq nested
      simp only [TypeDef.fault?, TypeDef.parts, List.findSome?_append, findSome?_cons,
        findSome?_flatMap, List.findSome?_map, hnested, ← Variable.fault?_eq,
        ← ComputedProperty.fault?_eq, ← Function.fault?_eq]
      rfl

theorem nestedFault?_eq (types : List TypeDef) :
    nestedFault? g types = (nestedParts types).findSome? (Part.fault? g) := by
  match types with
  | [] => rfl
  | d :: rest =>
      rw [nestedFault?, nestedParts, List.findSome?_append, TypeDef.fault?_eq d,
        nestedFault?_eq rest]

end

theorem Extension.fault?_eq (e : Extension) : e.fault? g = e.parts.findSome? (Part.fault? g) := by
  rw [Extension.fault?, Extension.parts, findSome?_cons, List.findSome?_append,
    List.findSome?_append, findSome?_flatMap, findSome?_flatMap, List.findSome?_map, Part.fault?]
  simp only [← TypeDef.fault?_eq, ← Function.fault?_eq]
  rfl

theorem CompilationUnit.fault?_eq (u : CompilationUnit) :
    u.fault? g = u.parts.findSome? (Part.fault? g) := by
  rw [CompilationUnit.fault?, CompilationUnit.parts, List.findSome?_append, List.findSome?_append,
    findSome?_flatMap, findSome?_flatMap, findSome?_flatMap]
  simp only [← TypeDef.fault?_eq, ← Function.fault?_eq, ← Extension.fault?_eq]

end

/-! ## Units -/

namespace CompilationUnit

theorem fault?_eq_none_iff {u : CompilationUnit} {g : Gaps} :
    u.fault? g = none ↔ u.WellFormed ∧ ∀ part, u.Holds part → part.gap? g = none := by
  rw [CompilationUnit.fault?_eq, List.findSome?_eq_none_iff]
  constructor
  · intro h
    have hown : ∀ part, u.Holds part →
        (part.fits = true ∧ ∀ otherwise, part.node ≠ .conditional [] otherwise) ∧
          part.gap? g = none := fun part ⟨top, htop, hwithin⟩ =>
      Part.ownFault?_eq_none_iff.mp (Part.ownFault?_of_fault?_eq_none (h top htop) hwithin)
    exact ⟨⟨fun part hpart => (hown part hpart).1.1, fun part hpart => (hown part hpart).1.2⟩,
      fun part hpart => (hown part hpart).2⟩
  · rintro ⟨hwell, hgaps⟩ top htop
    rw [Option.eq_none_iff_forall_ne_some]
    intro f hf
    obtain ⟨part, hwithin, hown⟩ := Part.exists_of_fault?_eq_some top hf
    have hpart : u.Holds part := ⟨top, htop, hwithin⟩
    rw [Part.ownFault?_eq_none_iff.mpr
      ⟨⟨hwell.fits part hpart, hwell.branches part hpart⟩, hgaps part hpart⟩] at hown
    exact nomatch hown

theorem exists_of_fault?_eq_some {u : CompilationUnit} {g : Gaps} {f : Failure}
    (h : u.fault? g = some f) : ∃ part, u.Holds part ∧ part.ownFault? g = some f := by
  rw [CompilationUnit.fault?_eq] at h
  obtain ⟨top, htop, hfault⟩ := List.exists_of_findSome?_eq_some h
  obtain ⟨part, hwithin, hown⟩ := Part.exists_of_fault?_eq_some top hfault
  exact ⟨part, ⟨top, htop, hwithin⟩, hown⟩

theorem wellFormed_iff {u : CompilationUnit} : u.WellFormed ↔ u.fault? .empty = none := by
  simp [fault?_eq_none_iff]

theorem unspelled_of_gap? {u : CompilationUnit} {s : Spelling} {part : Part} {f : Failure}
    (hpart : u.Holds part) (h : part.gap? s.gaps = some f) : u.Unspelled s f := by
  unfold Part.gap? at h
  split at h
  case h_1 n =>
    obtain ⟨hlong, rfl⟩ := s.gaps_integer_eq_some.mp h
    exact .integer hpart List.mem_cons_self hlong
  case h_2 ns =>
    obtain ⟨n, hn, h⟩ := List.exists_of_findSome?_eq_some h
    obtain ⟨hlong, rfl⟩ := s.gaps_integer_eq_some.mp h
    exact .integer hpart hn hlong
  case h_3 lhs c rhs =>
    obtain ⟨hmissing, rfl⟩ := s.gaps_comparison_eq_some.mp h
    exact .comparison hpart hmissing
  case h_4 kind =>
    obtain ⟨hmissing, rfl⟩ := s.gaps_kind_eq_some.mp h
    exact .kind hpart hmissing
  case h_5 => cases h

theorem SpelledIn.not_unspelled {u : CompilationUnit} {s : Spelling} {f : Failure}
    (h : u.SpelledIn s) : ¬u.Unspelled s f
  | .integer held written long => by
      rw [h.integers _ held _ written] at long
      cases long
  | .comparison held missing => h.comparisons _ _ _ held missing
  | .kind held missing => h.kinds _ held missing

theorem spelledIn_iff {u : CompilationUnit} {s : Spelling} :
    u.SpelledIn s ↔ ∀ part, u.Holds part → part.gap? s.gaps = none := by
  constructor
  · intro h part hpart
    rw [Option.eq_none_iff_forall_ne_some]
    exact fun f hgap => h.not_unspelled (unspelled_of_gap? hpart hgap)
  · intro h
    constructor
    case integers =>
      intro node hnode n hn
      have hgap := h _ hnode
      rw [Bool.eq_false_iff]
      intro hlong
      cases node with
      | intLiteral m =>
          rw [List.mem_singleton.mp hn] at hlong
          rw [Part.gap?, s.gaps_integer_eq_some.mpr ⟨hlong, rfl⟩] at hgap
          cases hgap
      | intArrayLiteral ns =>
          have hnone := List.findSome?_eq_none_iff.mp hgap n hn
          rw [s.gaps_integer_eq_some.mpr ⟨hlong, rfl⟩] at hnone
          cases hnone
      | _ => exact nomatch hn
    case comparisons =>
      intro lhs c rhs hcompare hmissing
      have hgap := h _ hcompare
      rw [Part.gap?, s.gaps_comparison_eq_some.mpr ⟨hmissing, rfl⟩] at hgap
      cases hgap
    case kinds =>
      intro kind hkind hmissing
      have hgap := h _ hkind
      rw [Part.gap?, s.gaps_kind_eq_some.mpr ⟨hmissing, rfl⟩] at hgap
      cases hgap

theorem cases_of_render_error {u : CompilationUnit} {style : Style} {s : Spelling} {f : Failure}
    (h : u.render style s = .error f) :
    (∃ part, u.Holds part ∧ part.fits = false ∧ f = .unrenderable part.node.kindName) ∨
      (∃ otherwise, u.Holds (.statement (.conditional [] otherwise)) ∧
        f = .invariantBroken "conditional without branches" []) ∨ u.Unspelled s f := by
  have hfault := u.faultOf_render style s
  rw [h] at hfault
  obtain ⟨part, hpart, hown⟩ := exists_of_fault?_eq_some hfault.symm
  rcases Part.cases_of_ownFault? hown with ⟨hmisfit, hf⟩ | ⟨⟨otherwise, rfl⟩, hf⟩ | hgap
  · exact .inl ⟨part, hpart, hmisfit, hf⟩
  · exact .inr (.inl ⟨otherwise, hpart, hf⟩)
  · exact .inr (.inr (unspelled_of_gap? hpart hgap))

theorem WellFormed.render_or_unspelled {u : CompilationUnit} (h : u.WellFormed) (style : Style)
    (spelling : Spelling) :
    (∃ text, u.render style spelling = .ok text) ∨
      ∃ f, u.render style spelling = .error f ∧ u.Unspelled spelling f := by
  cases hrender : u.render style spelling with
  | ok text => exact .inl ⟨text, rfl⟩
  | error f =>
      refine .inr ⟨f, rfl, ?_⟩
      rcases cases_of_render_error hrender with
        ⟨part, hpart, hmisfit, -⟩ | ⟨otherwise, hheld, -⟩ | hunspelled
      · rw [h.fits part hpart] at hmisfit
        cases hmisfit
      · exact absurd rfl (h.branches _ hheld otherwise)
      · exact hunspelled

/-- A unit has a text exactly if it is well-formed and the spelling has a text for all that it
writes out, in every layout.  Any other unit fails with a node that stands in a wrong place, with a
condition without branches, or without a code where the spelling has a gap. -/
theorem render_wellFormed (u : CompilationUnit) (style : Style) (spelling : Spelling) :
    ((∃ text, u.render style spelling = .ok text) ↔ u.WellFormed ∧ u.SpelledIn spelling) ∧
    ∀ f, u.render style spelling = .error f →
      (∃ part, u.Holds part ∧ part.fits = false ∧ f = .unrenderable part.node.kindName ∧
        f.name = "UNRENDERABLE_NODE") ∨
      (∃ otherwise, u.Holds (.statement (.conditional [] otherwise)) ∧
        f = .invariantBroken "conditional without branches" [] ∧ f.name = "INTERNAL_ERROR") ∨
      u.Unspelled spelling f ∧ f.isReported = false := by
  constructor
  · rw [← faultOf_eq_none_iff, u.faultOf_render, fault?_eq_none_iff, spelledIn_iff]
  · intro f hf
    rcases cases_of_render_error hf with
      ⟨part, hpart, hmisfit, rfl⟩ | ⟨otherwise, hheld, rfl⟩ | hunspelled
    · exact .inl ⟨part, hpart, hmisfit, rfl, rfl⟩
    · exact .inr (.inl ⟨otherwise, hheld, rfl, rfl⟩)
    · exact .inr (.inr ⟨hunspelled, hunspelled.isReported⟩)

def comparing : CompilationUnit :=
  let same : Node := .compare (.variableRef "a") .equal (.variableRef "b")
  { name := "Same", functions := [{ signature := { name := "same" }, body := [.ret (some same)] }] }

example : comparing.WellFormed ∧
    comparing.render .default { Spelling.swift with operators := [] } =
      .error (.unspelled "equal") :=
  ⟨wellFormed_iff.mpr rfl, rfl⟩

def literalRoot : CompilationUnit :=
  let path : Node := .keyPath "id" (some .nilLiteral)
  let key : Param := ⟨"key", .named "Key", none, some (.closure [] [.ret (some path)]), false⟩
  let find : Function := { signature := { name := "find", parameters := [key] } }
  let inner : TypeDef := { name := "Inner", functions := [find] }
  { name := "Keys"
    extensions :=
      [{ extendedType := .named "Table"
         structures := [{ name := "Outer", nestedTypes := [inner] }] }] }

theorem literalRoot_unprintable : ¬∃ text, literalRoot.render .default .swift = .ok text := by
  have hheld : literalRoot.Holds (.type .nilLiteral) := by
    let path : Node := .keyPath "id" (some .nilLiteral)
    refine ⟨.expression (.closure [] [.ret (some path)]), ?_, ?_⟩
    · simp [literalRoot, parts, Extension.parts, TypeDef.parts, nestedParts, Function.parts,
        Param.parts, path]
    · exact .head (b := .statement (.ret (some path))) List.mem_cons_self <|
        .head (b := .expression path) List.mem_cons_self (.single List.mem_cons_self)
  intro hprinted
  have hwell := (render_wellFormed literalRoot .default .swift).1.mp hprinted
  exact nomatch hwell.1.fits _ hheld

end CompilationUnit

end RecordLoom.Code
