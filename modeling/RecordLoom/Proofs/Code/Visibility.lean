import RecordLoom.Proofs.Code.Sections

/-!
# How visible declarations are

A declaration says how visible it is by a keyword, and a public one may say that it is inlinable.
What is internal says neither: the text of a unit with nothing but internal declarations does not
depend on what the words for the other visibilities are, nor on the word for inlinable ones.
-/

namespace RecordLoom.Code

/-! ## The declarations of a unit -/

mutual

def TypeDef.visibilities : TypeDef → List Visibility
  | ⟨_, _, visibility, _, nested, typeVariables, instanceVariables, computed, functions, _⟩ =>
      visibility :: nestedVisibilities nested ++
        (typeVariables ++ instanceVariables).map (·.visibility) ++
        computed.map (·.visibility) ++ functions.map (·.signature.visibility)

def nestedVisibilities : List TypeDef → List Visibility
  | [] => []
  | d :: rest => d.visibilities ++ nestedVisibilities rest

end

def Extension.visibilities (e : Extension) : List Visibility :=
  e.visibility :: nestedVisibilities e.structures ++ e.functions.map (·.signature.visibility)

def Declaration.visibilities : Declaration → List Visibility
  | .type d => d.visibilities
  | .function f => [f.signature.visibility]
  | .extension e => e.visibilities

def CompilationUnit.visibilities (u : CompilationUnit) : List Visibility :=
  u.declarations.flatMap Declaration.visibilities

theorem mem_nestedVisibilities {types : List TypeDef} {v : Visibility} :
    v ∈ nestedVisibilities types ↔ ∃ d ∈ types, v ∈ d.visibilities := by
  induction types with
  | nil => simp [nestedVisibilities]
  | cons d rest ih => simp [nestedVisibilities, ih]

structure TypeDef.IsUniform (v : Visibility) (d : TypeDef) : Prop where
  visibility : d.visibility = v
  nested : ∀ inner ∈ d.nestedTypes, ∀ w ∈ inner.visibilities, w = v
  typeVariables : ∀ x ∈ d.typeVariables, x.visibility = v
  instanceVariables : ∀ x ∈ d.instanceVariables, x.visibility = v
  computed : ∀ c ∈ d.computed, c.visibility = v
  functions : ∀ f ∈ d.functions, f.signature.visibility = v

theorem TypeDef.isUniform_iff {v : Visibility} {d : TypeDef} :
    d.IsUniform v ↔ ∀ w ∈ d.visibilities, w = v := by
  obtain ⟨name, kind, visibility, conformances, nested, typeVariables, instanceVariables, computed,
    functions, comment⟩ := d
  simp only [visibilities, List.cons_append, List.append_assoc, List.mem_cons, List.mem_append,
    List.map_append, List.mem_map, mem_nestedVisibilities]
  constructor
  · rintro ⟨hvisibility, hnested, htype, hinstance, hcomputed, hfunctions⟩ w hw
    rcases hw with rfl | ⟨d, hd, hw⟩ | ⟨x, hx, rfl⟩ | ⟨x, hx, rfl⟩ | ⟨c, hc, rfl⟩ | ⟨f, hf, rfl⟩
    · exact hvisibility
    · exact hnested d hd w hw
    · exact htype x hx
    · exact hinstance x hx
    · exact hcomputed c hc
    · exact hfunctions f hf
  · intro h
    exact
      { visibility := h _ (by simp)
        nested := fun d hd w hw => h w (.inr (.inl ⟨d, hd, hw⟩))
        typeVariables := fun x hx => h _ (.inr (.inr (.inl ⟨x, hx, rfl⟩)))
        instanceVariables := fun x hx => h _ (.inr (.inr (.inr (.inl ⟨x, hx, rfl⟩))))
        computed := fun c hc => h _ (.inr (.inr (.inr (.inr (.inl ⟨c, hc, rfl⟩)))))
        functions := fun f hf => h _ (.inr (.inr (.inr (.inr (.inr ⟨f, hf, rfl⟩))))) }

/-! ## Other words -/

/-- The words by which a declaration says that it is public, private or inlinable. -/
structure Marks where
  publicKeyword : String
  privateKeyword : String
  inlinableAttribute : String

/-- A spelling with other words for the marks of declarations. -/
def Spelling.marking (s : Spelling) (m : Marks) : Spelling :=
  { s with
      visibilityKeywords :=
        [(.isPublic, m.publicKeyword), (.isInternal, s.visibilityKeyword .isInternal),
         (.isPrivate, m.privateKeyword)]
      inlinableAttribute := m.inlinableAttribute }

namespace Printer

variable (p : Printer) (m : Marks)

def marking : Printer := ⟨p.style, p.spelling.marking m⟩

/-! ## Types, expressions and statements have no marks -/

mutual

theorem typeText_marking (type : Node) : (p.marking m).typeText type = p.typeText type := by
  cases type with
  | namedType name arguments =>
      simp only [typeText, typeTexts_marking arguments]
      rfl
  | optionalType wrapped =>
      simp only [typeText, typeText_marking wrapped]
      rfl
  | arrayType element =>
      simp only [typeText, typeText_marking element]
      rfl
  | qualifiedType base name => simp only [typeText, typeText_marking base]
  | keyPathType root value =>
      simp only [typeText, typeText_marking root, typeText_marking value]
      rfl
  | closureType parameters returns throws escaping =>
      simp only [typeText, typeText_marking returns, typeTexts_marking parameters]
      rfl
  | _ => rfl

theorem typeTexts_marking (types : List Node) :
    (p.marking m).typeTexts types = p.typeTexts types := by
  cases types with
  | nil => rfl
  | cons type rest => simp only [typeTexts, typeText_marking type, typeTexts_marking rest]

end

mutual

theorem writeExpression_marking (level : Nat) (node : Node) (b : Buffer) :
    (p.marking m).writeExpression level node b = p.writeExpression level node b := by
  cases node with
  | member base name =>
      simp only [writeExpression, writeExpression_marking level base]
      rfl
  | keyPath property root =>
      cases root with
      | none => rfl
      | some type =>
          simp only [writeExpression, typeText_marking p m type]
          rfl
  | typeExpression type =>
      simp only [writeExpression, typeText_marking p m type]
      rfl
  | call call => simp only [writeExpression, writeCall_marking level call]
  | closure parameters body =>
      simp only [writeExpression, writeStatements_marking (level + 1) body]
      rfl
  | arrayExpression elements =>
      simp only [writeExpression, expressionTexts_marking level elements]
  | compare lhs operator rhs =>
      simp only [writeExpression, writeExpression_marking level lhs,
        writeExpression_marking level rhs]
      rfl
  | _ => rfl

theorem expressionTexts_marking (level : Nat) (nodes : List Node) :
    (p.marking m).expressionTexts level nodes = p.expressionTexts level nodes := by
  cases nodes with
  | nil => rfl
  | cons node rest =>
      simp only [expressionTexts, writeExpression_marking level node,
        expressionTexts_marking level rest]

theorem argumentTexts_marking (level : Nat) (arguments : List Argument) :
    (p.marking m).argumentTexts level arguments = p.argumentTexts level arguments := by
  match arguments with
  | [] => rfl
  | .mk label value :: rest =>
      simp only [argumentTexts, writeExpression_marking level value,
        argumentTexts_marking level rest]
      rfl

theorem baseText_marking (level : Nat) (base : Option Node) :
    (p.marking m).baseText level base = p.baseText level base := by
  match base with
  | none => rfl
  | some base => simp only [baseText, writeExpression_marking level base]

theorem writeTrailing_marking (level : Nat) (trailing : Option Trailing) (b : Buffer) :
    (p.marking m).writeTrailing level trailing b = p.writeTrailing level trailing b := by
  match trailing with
  | none => rfl
  | some (.mk parameters body) =>
      simp only [writeTrailing, writeStatements_marking (level + 1) body]
      rfl

theorem writeCall_marking (level : Nat) (call : Invocation) (b : Buffer) :
    (p.marking m).writeCall level call b = p.writeCall level call b := by
  match call with
  | .mk name arguments base tries awaits trailing =>
      simp only [writeCall, baseText_marking level base, argumentTexts_marking level arguments,
        writeTrailing_marking level trailing]
      rfl

theorem writeStatement_marking (level : Nat) (node : Node) (b : Buffer) :
    (p.marking m).writeStatement level node b = p.writeStatement level node b := by
  cases node with
  | group statements => simp only [writeStatement, writeStatements_marking level statements]
  | variableDecl name value type mutable =>
      cases type with
      | none =>
          simp only [writeStatement, writeExpression_marking level value]
          rfl
      | some type =>
          simp only [writeStatement, typeText_marking p m type,
            writeExpression_marking level value]
          rfl
  | assignment target value =>
      simp only [writeStatement, writeExpression_marking level target,
        writeExpression_marking level value]
      rfl
  | callStatement call =>
      simp only [writeStatement, writeCall_marking level call]
      rfl
  | ret value =>
      cases value with
      | none => rfl
      | some value =>
          simp only [writeStatement, writeExpression_marking level value]
          rfl
  | conditional branches otherwise =>
      cases branches with
      | nil => rfl
      | cons branch rest =>
          have hbranches := fun keyword b => writeBranches_marking level keyword (branch :: rest) b
          cases otherwise with
          | nil =>
              simp only [writeStatement, hbranches]
              rfl
          | cons statement statements =>
              simp only [writeStatement, hbranches,
                writeStatements_marking (level + 1) (statement :: statements)]
              rfl
  | _ => rfl

theorem writeBranches_marking (level : Nat) (keyword : String) (branches : List Branch)
    (b : Buffer) :
    (p.marking m).writeBranches level keyword branches b =
      p.writeBranches level keyword branches b := by
  match branches with
  | [] => rfl
  | .mk condition body :: rest =>
      simp only [writeBranches, writeExpression_marking level condition,
        writeStatements_marking (level + 1) body,
        fun keyword => writeBranches_marking level keyword rest]
      rfl

theorem writeStatements_marking (level : Nat) (statements : List Node) (b : Buffer) :
    (p.marking m).writeStatements level statements b = p.writeStatements level statements b := by
  cases statements with
  | nil => rfl
  | cons statement rest =>
      simp only [writeStatements, writeStatement_marking level statement,
        writeStatements_marking level rest]

end

theorem writeBody_marking (level : Nat) (body : List Node) (b : Buffer) :
    (p.marking m).writeBody level body b = p.writeBody level body b := by
  have himplied : (p.marking m).impliedReturn? body = p.impliedReturn? body := rfl
  simp only [writeBody, himplied, writeExpression_marking, writeStatements_marking]
  rfl

theorem parameterText_marking (level : Nat) (param : Param) :
    (p.marking m).parameterText level param = p.parameterText level param := by
  simp only [parameterText, expressionText, typeText_marking, writeExpression_marking]
  rfl

theorem whereText_marking (constraints : List GenericConstraint) :
    (p.marking m).whereText constraints = p.whereText constraints := by
  have hconstraint : (p.marking m).constraintText = p.constraintText := by
    funext c
    simp only [constraintText, typeText_marking]
  simp only [whereText, hconstraint]
  rfl

theorem effectText_marking (s : Signature) :
    (p.marking m).effectText s = p.effectText s := by
  unfold effectText
  cases s.returns with
  | voidType => rfl
  | _ =>
      simp only [typeText_marking]
      rfl

/-! ## Internal declarations -/

section

variable {p m}

theorem writeInlinable_of_internal {v : Visibility} (h : v = .isInternal) (level : Nat)
    (inlinable : Bool) (b : Buffer) : p.writeInlinable level inlinable v b = b := by
  simp [writeInlinable, h]

theorem visibilityText_marking {v : Visibility} (h : v = .isInternal) (omitted : Bool) :
    (p.marking m).visibilityText v omitted = p.visibilityText v omitted := by
  subst h
  rfl

theorem writeSignature_marking {s : Signature} (h : s.visibility = .isInternal) (level : Nat)
    (omitted : Bool) (b : Buffer) :
    (p.marking m).writeSignature level s omitted b = p.writeSignature level s omitted b := by
  have hparameters : (p.marking m).parameterText level = p.parameterText level :=
    funext (parameterText_marking p m level)
  have hhead : (p.marking m).signatureHead s omitted = p.signatureHead s omitted := by
    rw [signatureHead, visibilityText_marking h]
    rfl
  simp only [writeSignature, effectText_marking, whereText_marking, hparameters, hhead]
  rfl

theorem writeFunction_marking {f : Function} (h : f.signature.visibility = .isInternal)
    (level : Nat) (omitted : Bool) (b : Buffer) :
    (p.marking m).writeFunction level omitted f b = p.writeFunction level omitted f b := by
  simp only [writeFunction, writeInlinable_of_internal h, writeSignature_marking h,
    writeBody_marking]
  rfl

theorem writeVariable_marking {v : Variable} (h : v.visibility = .isInternal) (level : Nat)
    (isStatic : Bool) (b : Buffer) :
    (p.marking m).writeVariable level isStatic v b = p.writeVariable level isStatic v b := by
  have htype : (p.marking m).optionalTypeText v.type = p.optionalTypeText v.type := by
    unfold optionalTypeText
    split
    · rfl
    · rw [typeText_marking]
      rfl
  have hvalue : (p.marking m).optionalValueText level v.value =
      p.optionalValueText level v.value := by
    unfold optionalValueText
    split
    · rfl
    · rw [expressionText, writeExpression_marking]
      rfl
  simp only [writeVariable, htype, hvalue, visibilityText_marking h]
  rfl

theorem writeComputed_marking {c : ComputedProperty} (h : c.visibility = .isInternal)
    (level : Nat) (b : Buffer) :
    (p.marking m).writeComputed level c b = p.writeComputed level c b := by
  have himplied : (p.marking m).impliedReturn? c.body = p.impliedReturn? c.body := rfl
  simp only [writeComputed, writeInlinable_of_internal h, visibilityText_marking h, himplied,
    typeText_marking, writeExpression_marking, writeBody_marking]
  rfl

theorem writeMembers_marking {α : Type} {hasComment : α → Bool}
    {write write' : α → Buffer → Printed Buffer} {members : List α}
    (h : ∀ x ∈ members, write x = write' x) (b : Buffer) :
    (p.marking m).writeMembers hasComment write members b =
      p.writeMembers hasComment write' members b := by
  have hgo : ∀ (afterComment : Bool) (b : Buffer),
      writeMembers.go (p.marking m) hasComment write afterComment members b =
        writeMembers.go p hasComment write' afterComment members b := by
    induction members with
    | nil => exact fun _ _ => rfl
    | cons x rest ih =>
        intro afterComment b
        have hrest := ih fun y hy => h y (List.mem_cons_of_mem x hy)
        simp only [writeMembers.go, h x List.mem_cons_self, hrest]
        rfl
  simp only [writeMembers, hgo]
  rfl

theorem foldlM_congr {α : Type} {write write' : Buffer → α → Printed Buffer} {items : List α}
    (h : ∀ x ∈ items, ∀ b, write b x = write' b x) (b : Buffer) :
    items.foldlM write b = items.foldlM write' b := by
  induction items generalizing b with
  | nil => rfl
  | cons x rest ih =>
      have hrest := ih fun y hy => h y (List.mem_cons_of_mem x hy)
      simp only [List.foldlM_cons, h x List.mem_cons_self, hrest]

theorem writeFunctions_marking {functions : List Function}
    (h : ∀ f ∈ functions, f.signature.visibility = .isInternal) (level : Nat) (omitted : Bool)
    (b : Buffer) :
    (p.marking m).writeFunctions level omitted functions b =
      p.writeFunctions level omitted functions b :=
  foldlM_congr (fun f hf b => writeFunction_marking (h f hf) level omitted (p.blankLine b)) b

theorem startType_marking {d : TypeDef} (h : d.visibility = .isInternal) (level : Nat)
    (omitted : Bool) (b : Buffer) :
    (p.marking m).startType level omitted d b = p.startType level omitted d b := by
  have htypes : (p.marking m).typeText = p.typeText := funext (typeText_marking p m)
  simp only [startType, typeHead, visibilityText_marking h, htypes]
  rfl

theorem writeOwnMembers_marking {d : TypeDef} (h : d.IsUniform .isInternal) (level : Nat)
    (b : Buffer) : (p.marking m).writeOwnMembers level d b = p.writeOwnMembers level d b := by
  have hvariables : ∀ (isStatic : Bool) (members : List Variable),
      (∀ v ∈ members, v.visibility = .isInternal) → ∀ v ∈ members,
        (p.marking m).writeVariable level isStatic v = p.writeVariable level isStatic v :=
    fun isStatic members hmembers v hv =>
      funext (writeVariable_marking (hmembers v hv) level isStatic)
  simp only [writeOwnMembers, writeMembers_marking (hvariables true _ h.typeVariables),
    writeMembers_marking (hvariables false _ h.instanceVariables),
    writeMembers_marking fun c hc => funext (writeComputed_marking (h.computed c hc) level),
    writeFunctions_marking h.functions]

mutual

theorem writeType_marking (d : TypeDef) (h : ∀ v ∈ d.visibilities, v = .isInternal) (level : Nat)
    (omitted : Bool) (b : Buffer) :
    (p.marking m).writeType level omitted d b = p.writeType level omitted d b := by
  match d with
  | ⟨name, kind, visibility, conformances, nested, typeVariables, instanceVariables, computed,
      functions, comment⟩ =>
      have huniform := TypeDef.isUniform_iff.mpr h
      have hown : TypeDef.IsUniform .isInternal ⟨name, kind, visibility, conformances, [],
          typeVariables, instanceVariables, computed, functions, comment⟩ :=
        { huniform with nested := nofun }
      have hnested : ∀ v ∈ nestedVisibilities nested, v = .isInternal := fun v hv =>
        have ⟨inner, hinner, hv⟩ := mem_nestedVisibilities.mp hv
        huniform.nested inner hinner v hv
      simp only [writeType, startType_marking hown.visibility, writeNested_marking nested hnested,
        writeOwnMembers_marking hown]
      rfl

theorem writeNested_marking (types : List TypeDef)
    (h : ∀ v ∈ nestedVisibilities types, v = .isInternal) (level : Nat) (b : Buffer) :
    (p.marking m).writeNested level types b = p.writeNested level types b := by
  match types with
  | [] => rfl
  | d :: rest =>
      simp only [nestedVisibilities, List.mem_append] at h
      simp only [writeNested, writeType_marking d fun v hv => h v (.inl hv),
        writeNested_marking rest fun v hv => h v (.inr hv)]
      rfl

end

theorem writeExtension_marking {e : Extension} (h : ∀ v ∈ e.visibilities, v = .isInternal)
    (b : Buffer) : (p.marking m).writeExtension e b = p.writeExtension e b := by
  simp only [Extension.visibilities, List.cons_append, List.mem_cons, List.mem_append,
    List.mem_map] at h
  have hstructures : ∀ (omitted : Bool) (b : Buffer),
      (p.marking m).writeStructures 1 omitted e.structures b =
        p.writeStructures 1 omitted e.structures b := fun omitted b =>
    foldlM_congr (fun d hd b => writeType_marking d
      (fun v hv => h v (.inr (.inl (mem_nestedVisibilities.mpr ⟨d, hd, hv⟩)))) 1 omitted
      (p.blankLine b)) b
  have hfunctions : ∀ (level : Nat) (omitted : Bool) (b : Buffer),
      (p.marking m).writeFunctions level omitted e.functions b =
        p.writeFunctions level omitted e.functions b :=
    writeFunctions_marking fun f hf => h _ (.inr (.inr ⟨f, hf, rfl⟩))
  simp only [writeExtension, typeText_marking, whereText_marking,
    visibilityText_marking (h _ (.inl rfl)), hstructures, hfunctions]
  rfl

theorem writeDeclaration_marking {d : Declaration} (h : ∀ v ∈ d.visibilities, v = .isInternal)
    (b : Buffer) : (p.marking m).writeDeclaration d b = p.writeDeclaration d b := by
  cases d with
  | type d => exact writeType_marking d h 0 false b
  | function f => exact writeFunction_marking (h _ (List.mem_singleton_self _)) 0 false b
  | extension e => exact writeExtension_marking h b

theorem writeUnit_marking {u : CompilationUnit} (h : ∀ v ∈ u.visibilities, v = .isInternal) :
    (p.marking m).writeUnit u = p.writeUnit u := by
  rw [writeUnit_eq, writeUnit_eq]
  exact foldlM_congr (fun d hd b => writeDeclaration_marking
    (fun v hv => h v (List.mem_flatMap.mpr ⟨d, hd, hv⟩)) (p.separate b)) (p.head u)

end

end Printer

/-- What is internal is printed without any of the marks, so that other words for them make no
difference. -/
theorem CompilationUnit.render_marking {u : CompilationUnit}
    (h : ∀ v ∈ u.visibilities, v = .isInternal) (style : Style) (s : Spelling) (m : Marks) :
    u.render style (s.marking m) = u.render style s :=
  congrArg (Except.map Buffer.text) (Printer.writeUnit_marking (p := ⟨style, s⟩) h)

end RecordLoom.Code
