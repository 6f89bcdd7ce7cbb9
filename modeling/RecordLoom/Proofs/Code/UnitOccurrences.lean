import RecordLoom.Proofs.Code.Occurrences

/-!
# Where a unit prints its nodes

The text of a unit holds the first line of each of its types, and what is written of every node in
it.
-/

namespace RecordLoom.Code

namespace Printer

variable {p : Printer}

def Declares (p : Printer) (d : TypeDef) (text : String) : Prop :=
  ∃ omitted, p.typeHead d omitted = .ok text

/-! ## Functions -/

theorem contains_parameterText {level : Nat} {param : Param} {text : String}
    (h : p.parameterText level param = .ok text) :
    ∀ kind ∈ param.parts.map p.Writes, Contains kind text := by
  obtain ⟨type, htype, h⟩ := bind_eq_ok h
  have hhead : Contains (p.Writes (.type param.type)) (p.parameterHead param ++ ": " ++ type) :=
    (Contains.whole (.type htype)).prepend _
  rw [Param.parts]
  cases hdefault : param.default with
  | none =>
      rw [hdefault] at h
      cases h
      exact List.forall_mem_singleton.mpr hhead
  | some value =>
      rw [hdefault] at h
      obtain ⟨default, hvalue, h⟩ := bind_eq_ok h
      cases h
      exact List.forall_mem_cons.mpr ⟨(hhead.append _).append _, List.forall_mem_singleton.mpr
        ((Contains.whole (.of_expressionText hvalue)).prepend _)⟩

theorem contains_whereText {constraints : List GenericConstraint} {text : String}
    (h : p.whereText constraints = .ok text) :
    ∀ kind ∈ (constraints.map GenericConstraint.part).map p.Writes, Contains kind text := by
  obtain ⟨texts, htexts, h⟩ := bind_eq_ok h
  cases h
  intro kind hkind
  have hone : ∀ (c : GenericConstraint) (t : String), p.constraintText c = .ok t →
      Contains (p.Writes c.part) t := by
    intro c t ht
    obtain ⟨type, htype, ht⟩ := bind_eq_ok ht
    cases ht
    exact (Contains.whole (.type htype)).prepend _
  obtain ⟨t, ht, hcontains⟩ := exists_of_mapM_part hone htexts kind hkind
  exact (contains_intercalate ht hcontains _).prepend _

theorem contains_effectText {s : Signature} {text : String} (h : p.effectText s = .ok text) :
    Contains (p.Writes (.type s.returns)) text := by
  unfold effectText at h
  generalize s.returns = returns at h ⊢
  cases returns with
  | voidType => exact ⟨"", "", text, by simp, .noResult⟩
  | _ =>
      obtain ⟨type, htype, h⟩ := bind_eq_ok h
      cases h
      rw [if_neg (by simp)]
      have harrow := (Contains.whole (Writes.type htype)).prepend (p.spelling.returnArrow ++ " ")
      exact (contains_intercalate (by simp) harrow " ").prepend " "

theorem emits_writeSignature (level : Nat) (s : Signature) (omitted : Bool) (b : Buffer) :
    Emits ((.type s.returns :: (s.parameters.flatMap Param.parts ++
      s.genericConstraints.map GenericConstraint.part)).map p.Writes) b
      (p.writeSignature level s omitted b) := by
  refine .after fun tail htail => .after fun parameters hparameters => ?_
  have hlist : Shows ([] ++ (s.parameters.flatMap (·.parts.map p.Writes) ++
      [p.Writes (.type s.returns)])) b
      (p.writeList level (p.signatureHead s omitted) parameters tail b) :=
    shows_writeList (List.forall_mem_nil _)
      (exists_of_mapM _ (fun _ _ h => contains_parameterText h) hparameters)
      (List.forall_mem_singleton.mpr (contains_effectText htail)) level b
  rw [← List.map_flatMap] at hlist
  split
  case isTrue hempty =>
    rw [List.isEmpty_iff.mp hempty]
    exact .pure (hlist.mono (by simp))
  case isFalse =>
    refine .after fun text htext => .pure ?_
    have hshows := hlist.trans (shows_line (p := p) (contains_whereText htext) (level + 1) _)
    exact hshows.mono (by simp)

theorem eq_of_impliedReturn? {body : List Node} {value : Node}
    (h : p.impliedReturn? body = some value) : body = [.ret (some value)] := by
  unfold impliedReturn? at h
  split at h
  · split at h
    · cases h
      rfl
    · cases h
  · cases h

theorem emits_impliedReturn (level : Nat) (value : Node) (b : Buffer) :
    Emits (([.ret (some value)].map .statement).map p.Writes) b
      (p.writeExpression level value b) := by
  intro b' hb'
  obtain ⟨added, hadded, hkinds⟩ := emits_expression level value b b' hb'
  exact ⟨added, hadded, List.forall_mem_singleton.mpr
    ((hkinds _ (List.mem_singleton_self _)).trans fun _ hwritten => .whole (.value hwritten))⟩

theorem emits_writeBody (level : Nat) (body : List Node) (b : Buffer) :
    Emits ((body.map .statement).map p.Writes) b (p.writeBody level body b) := by
  unfold writeBody
  split
  case h_1 value hvalue =>
    rw [eq_of_impliedReturn? hvalue]
    exact .after_code ((Adds.refl (p := p) b).append _)
      ((emits_impliedReturn level value _).finish fun c => (Adds.refl (p := p) c).ensure _)
  case h_2 => exact emits_writeStatements level body b

theorem emits_bodyBlock {level inner : Nat} {body : List Node} {b c : Buffer}
    {comments : List Comment} (hcode : p.Adds comments b c) :
    Emits ((body.map .statement).map p.Writes) b (do
      let d ← p.writeBody inner body c
      pure (p.closeBlock level p.style.eol d)) :=
  .after_code hcode ((emits_writeBody inner body c).finish fun d =>
    (Adds.refl d).closeBlock level _)

theorem emits_writeFunction (level : Nat) (omitted : Bool) (f : Function) (b : Buffer) :
    Emits (f.parts.map p.Writes) b (p.writeFunction level omitted f b) := by
  have hsplit : f.parts = (.type f.signature.returns ::
      (f.signature.parameters.flatMap Param.parts ++
        f.signature.genericConstraints.map GenericConstraint.part)) ++
      f.body.map .statement := by
    simp [Function.parts]
  rw [hsplit, List.map_append]
  refine .after_code (adds_functionStart level f _ b)
    ((emits_writeSignature level f.signature omitted _).bind fun c => ?_)
  exact emits_bodyBlock (((Adds.refl (p := p) c).append _).openBlock p.style.eol)

/-! ## Members -/

theorem contains_optionalTypeText {type : Option Node} {text : String}
    (h : p.optionalTypeText type = .ok text) :
    ∀ kind ∈ (type.toList.map .type).map p.Writes, Contains kind text := by
  cases type with
  | none => exact List.forall_mem_nil _
  | some type =>
      obtain ⟨inner, hinner, rfl⟩ := map_eq_ok h
      exact List.forall_mem_singleton.mpr ((Contains.whole (Writes.type hinner)).prepend _)

theorem contains_optionalValueText {level : Nat} {value : Option Node} {text : String}
    (h : p.optionalValueText level value = .ok text) :
    ∀ kind ∈ (value.toList.map .expression).map p.Writes, Contains kind text := by
  cases value with
  | none => exact List.forall_mem_nil _
  | some value =>
      obtain ⟨inner, hinner, rfl⟩ := map_eq_ok h
      exact List.forall_mem_singleton.mpr
        ((Contains.whole (Writes.of_expressionText hinner)).prepend _)

theorem emits_writeVariable (level : Nat) (isStatic : Bool) (v : Variable) (b : Buffer) :
    Emits (v.parts.map p.Writes) b (p.writeVariable level isStatic v b) := by
  rw [Variable.parts, List.map_append]
  refine .after fun type htype => .after fun value hvalue => .pure ?_
  refine .after_code (adds_writePropertyComment (p := p) level v.comment b)
    (shows_line (List.forall_mem_append.mpr ⟨fun kind hkind => ?_, fun kind hkind => ?_⟩) level _)
  · exact ((contains_optionalTypeText htype kind hkind).prepend _).append value
  · exact (contains_optionalValueText hvalue kind hkind).prepend _

theorem emits_writeComputed (level : Nat) (c : ComputedProperty) (b : Buffer) :
    Emits (c.parts.map p.Writes) b (p.writeComputed level c b) := by
  have hcomment := (adds_writePropertyComment (p := p) level c.comment b).writeInlinable level
    c.inlinable c.visibility
  refine .after fun type htype => ?_
  have htype : Contains (p.Writes (.type c.type)) type := .whole (.type htype)
  dsimp only
  split
  case h_1 value hvalue =>
    rw [ComputedProperty.parts, eq_of_impliedReturn? hvalue]
    refine .from_shows (.after_code hcomment (.append_text (List.forall_mem_singleton.mpr ?_) _))
      ((emits_impliedReturn level value _).finish fun d =>
        ((Adds.refl (p := p) d).append _).append _)
    exact (htype.prepend _).append _
  case h_2 =>
    refine .from_shows (.after_code hcomment (.append_text (List.forall_mem_singleton.mpr ?_) _))
      (emits_bodyBlock (((Adds.refl (p := p) _).ensure " ").openBlock p.style.eol))
    exact htype.prepend _

theorem emits_writeMembers {α : Type} {hasComment : α → Bool} {write : α → Buffer → Printed Buffer}
    {kinds : α → List (String → Prop)} (h : ∀ m b, Emits (kinds m) b (write m b))
    (members : List α) (b : Buffer) :
    Emits (members.flatMap kinds) b (p.writeMembers hasComment write members b) := by
  have hgo : ∀ (afterComment : Bool) (b : Buffer), Emits (members.flatMap kinds) b
      (writeMembers.go p hasComment write afterComment members b) := by
    induction members with
    | nil => exact fun _ b => .pure (.refl b)
    | cons m rest ih =>
        intro afterComment b
        exact .after_code (adds_blankAfter (p := p) afterComment b)
          ((h m _).bind fun c => ih (hasComment m) c)
  unfold writeMembers
  split
  case isTrue hempty =>
    rw [List.isEmpty_iff.mp hempty]
    exact .pure (.refl b)
  case isFalse => exact .after_code (Adds.refl (p := p) b).blankLine (hgo false _)

theorem emits_foldlM {α : Type} {write : Buffer → α → Printed Buffer}
    {kinds : α → List (String → Prop)} (h : ∀ a b, Emits (kinds a) b (write b a)) (items : List α)
    (b : Buffer) : Emits (items.flatMap kinds) b (items.foldlM write b) := by
  induction items generalizing b with
  | nil => exact .pure (.refl b)
  | cons item rest ih => exact (h item b).bind ih

theorem emits_writeFunctions (level : Nat) (omitted : Bool) (functions : List Function)
    (b : Buffer) :
    Emits (functions.flatMap (·.parts.map p.Writes)) b
      (p.writeFunctions level omitted functions b) :=
  emits_foldlM (fun f b => .after_code (Adds.refl (p := p) b).blankLine
    (emits_writeFunction level omitted f _)) functions b

theorem emits_writeOwnMembers (level : Nat) (d : TypeDef) (b : Buffer) :
    Emits ((d.typeVariables.flatMap Variable.parts ++ (d.instanceVariables.flatMap Variable.parts ++
      (d.computed.flatMap ComputedProperty.parts ++ d.functions.flatMap Function.parts))).map
        p.Writes) b (p.writeOwnMembers level d b) := by
  simp only [List.map_append, List.map_flatMap]
  refine (emits_writeMembers (emits_writeVariable level true) _ b).bind fun b => ?_
  refine (emits_writeMembers (emits_writeVariable level false) _ b).bind fun b => ?_
  exact (emits_writeMembers (emits_writeComputed level) _ b).bind
    (emits_writeFunctions level false d.functions)

/-! ## Types -/

def shownOf (p : Printer) (d : TypeDef) : List (String → Prop) :=
  p.Declares d :: d.parts.map p.Writes

theorem contains_typeHead {d : TypeDef} {omitted : Bool} {head : String}
    (h : p.typeHead d omitted = .ok head) :
    ∀ kind ∈ p.Declares d :: (Part.definition d.kind :: d.conformances.map .type).map p.Writes,
      Contains kind head := by
  refine List.forall_mem_cons.mpr ⟨.whole ⟨omitted, h⟩, ?_⟩
  obtain ⟨keyword, hkeyword, h⟩ := bind_eq_ok h
  obtain ⟨texts, htexts, h⟩ := bind_eq_ok h
  cases h
  refine List.forall_mem_cons.mpr ⟨?_, fun kind hkind => ?_⟩
  · have hcontains : Contains (p.Writes (.definition d.kind)) keyword :=
      .whole (.definition (eq_some_of_spelled hkeyword))
    split
    · exact ((hcontains.prepend _).append _).append _
    · exact ((((hcontains.prepend _).append _).append _).append _).append _
  · obtain ⟨text, htext, hcontains⟩ := exists_of_typeTexts htexts kind hkind
    rw [if_neg (c := texts.isEmpty = true) (by simp [List.ne_nil_of_mem htext])]
    exact (contains_intercalate htext hcontains _).prepend _

theorem emits_startType (level : Nat) (omitted : Bool) (d : TypeDef) (b : Buffer) :
    Emits (p.Declares d :: (Part.definition d.kind :: d.conformances.map .type).map p.Writes) b
      (p.startType level omitted d b) := by
  refine .after fun head hhead => .pure ?_
  have hshows := Shows.append_text
    (fun kind hkind => (contains_typeHead hhead kind hkind).prepend (p.indent level))
    (d.comment.elim b (p.writeTypeComment level · b))
  exact .after_code (adds_writeTypeComment (p := p) level d.comment b)
    (hshows.then_code (((Adds.refl (p := p) _).ensure " ").openBlock p.style.eol))

mutual

theorem emits_writeType (level : Nat) (omitted : Bool) (d : TypeDef) (b : Buffer) :
    Emits (p.shownOf d) b (p.writeType level omitted d b) := by
  match d with
  | ⟨name, kind, visibility, conformances, nested, typeVariables, instanceVariables, computed,
      functions, comment⟩ =>
      let own : TypeDef := ⟨name, kind, visibility, conformances, [], typeVariables,
        instanceVariables, computed, functions, comment⟩
      rw [writeType, shownOf, TypeDef.parts, List.map_append, List.map_append]
      refine (emits_startType level omitted own b).bind fun b => ?_
      refine (emits_writeNested (level + 1) nested b).bind fun b => ?_
      exact (emits_writeOwnMembers (level + 1) own b).finish fun c =>
        (Adds.refl (p := p) c).closeBlock level _

theorem emits_writeNested (level : Nat) (types : List TypeDef) (b : Buffer) :
    Emits ((nestedParts types).map p.Writes) b (p.writeNested level types b) := by
  match types with
  | [] => exact .pure (.refl b)
  | d :: rest =>
      rw [writeNested, nestedParts, List.map_append]
      have hfirst := (emits_writeType level false d (p.blankLine b)).mono
        (List.subset_cons_self (p.Declares d) _)
      exact .after_code (Adds.refl (p := p) b).blankLine
        (hfirst.bind fun b => emits_writeNested level rest b)

end

theorem emits_writeStructures (level : Nat) (omitted : Bool) (structures : List TypeDef)
    (b : Buffer) :
    Emits (structures.flatMap (·.parts.map p.Writes)) b
      (p.writeStructures level omitted structures b) :=
  emits_foldlM (fun d b => .after_code (Adds.refl (p := p) b).blankLine
    ((emits_writeType level omitted d _).mono (List.subset_cons_self (p.Declares d) _)))
    structures b

theorem emits_writeExtension (e : Extension) (b : Buffer) :
    Emits (e.parts.map p.Writes) b (p.writeExtension e b) := by
  have hmembers : ∀ c : Buffer, Emits ((e.structures.flatMap TypeDef.parts ++
      e.functions.flatMap Function.parts).map p.Writes) c (do
        let c ← p.writeStructures 1 (e.visibility == .isPublic) e.structures c
        let c ← p.writeFunctions 1 (e.visibility == .isPublic) e.functions c
        pure (p.line 0 "\x7d" c)) := by
    intro c
    rw [List.map_append, List.map_flatMap, List.map_flatMap]
    exact (emits_writeStructures 1 _ e.structures c).bind fun c =>
      (emits_writeFunctions 1 _ e.functions c).finish fun c => (Adds.refl (p := p) c).line 0 _
  rw [Extension.parts, List.map_cons, List.map_append]
  refine .after fun type htype => ?_
  have htype : Contains (p.Writes (.type e.extendedType)) type := .whole (.type htype)
  dsimp only
  split
  case isTrue hempty =>
    rw [List.isEmpty_iff.mp hempty]
    refine .from_shows (shows_line (List.forall_mem_singleton.mpr ?_) 0 b) (hmembers _)
    exact (htype.prepend _).append _
  case isFalse =>
    refine .after fun text htext => ?_
    refine .from_shows (shows_line (List.forall_mem_singleton.mpr ?_) 0 b)
      (.from_shows ((shows_line (contains_whereText htext) 1 _).then_code
        ((Adds.refl (p := p) _).lines 0 _)) (hmembers _))
    exact htype.prepend _

/-! ## Units -/

def shownOfUnit (p : Printer) (u : CompilationUnit) : List (String → Prop) :=
  u.structures.flatMap p.shownOf ++ (u.functions.flatMap (·.parts.map p.Writes) ++
    u.extensions.flatMap (·.parts.map p.Writes))

theorem declares_mem_shownOfUnit {u : CompilationUnit} {d : TypeDef} (hd : d ∈ u.structures) :
    p.Declares d ∈ p.shownOfUnit u :=
  List.mem_append_left _ (List.mem_flatMap.mpr ⟨d, hd, List.mem_cons_self⟩)

theorem writes_mem_shownOfUnit {u : CompilationUnit} {part : Part} (hpart : part ∈ u.parts) :
    p.Writes part ∈ p.shownOfUnit u := by
  simp only [CompilationUnit.parts, List.mem_append, List.mem_flatMap] at hpart
  simp only [shownOfUnit, List.mem_append, List.mem_flatMap]
  rcases hpart with ⟨d, hd, hpart⟩ | ⟨f, hf, hpart⟩ | ⟨e, he, hpart⟩
  · exact .inl ⟨d, hd, List.mem_cons_of_mem _ (List.mem_map_of_mem hpart)⟩
  · exact .inr (.inl ⟨f, hf, List.mem_map_of_mem hpart⟩)
  · exact .inr (.inr ⟨e, he, List.mem_map_of_mem hpart⟩)

theorem emits_writeUnit (u : CompilationUnit) :
    Emits (p.shownOfUnit u) .empty (p.writeUnit u) := by
  have hhead := (((Adds.refl (p := p) .empty).lines 0 (p.headerLines u.header)).lines 0
    (u.imports.map (p.spelling.importKeyword ++ " " ++ ·))).lines 0
      (u.reexports.map (p.spelling.reexportKeyword ++ " " ++ ·))
  refine .after_code hhead ?_
  refine (emits_foldlM (fun d b => .after_code (Adds.refl (p := p) b).separate
    (emits_writeType 0 false d _)) u.structures _).bind fun b => ?_
  refine (emits_foldlM (fun f b => .after_code (Adds.refl (p := p) b).separate
    (emits_writeFunction 0 false f _)) u.functions b).bind fun b => ?_
  exact emits_foldlM (fun e b => .after_code (Adds.refl (p := p) b).separate
    (emits_writeExtension e _)) u.extensions b

end Printer

/-- The text of a unit holds the first line of each of its types, and what is written of every place
in it. -/
theorem CompilationUnit.contains_render {u : CompilationUnit} {p : Printer} {text : String}
    (hfills : p.spelling.FillsTypes) (h : u.render p.style p.spelling = .ok text) :
    (∀ d ∈ u.structures, Contains (p.Declares d) text) ∧
      ∀ part, u.Holds part → Contains (p.Writes part) text := by
  obtain ⟨b, hb, rfl⟩ := map_eq_ok h
  have hshown : ∀ kind ∈ p.shownOfUnit u, Contains kind b.text :=
    (Printer.emits_writeUnit u b hb).contains (by simp)
  refine ⟨fun d hd => hshown _ (Printer.declares_mem_shownOfUnit hd), ?_⟩
  rintro part ⟨top, htop, hwithin⟩
  exact (hshown _ (Printer.writes_mem_shownOfUnit htop)).trans fun written hwritten =>
    hwritten.contains_within hfills hwithin

end RecordLoom.Code
