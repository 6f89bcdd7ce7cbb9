import RecordLoom.Proofs.Code.UnitComments
import RecordLoom.Proofs.Code.WellFormed

/-!
# Where a node is printed

The text of a tree holds the texts of the trees in it.  Each writer appends, for every place of what
it writes, a text that has the printed node somewhere in it; a node further down is found by going
from place to place.
-/

namespace RecordLoom.Code

def Contains (kind : String → Prop) (text : String) : Prop :=
  ∃ before written after, text = before ++ written ++ after ∧ kind written

theorem Contains.whole {kind : String → Prop} {text : String} (h : kind text) :
    Contains kind text := ⟨"", text, "", by simp, h⟩

theorem Contains.inside {kind : String → Prop} {text : String} (h : Contains kind text)
    (before after : String) : Contains kind (before ++ text ++ after) := by
  obtain ⟨first, written, last, rfl, hwritten⟩ := h
  exact ⟨before ++ first, written, last ++ after, by simp [String.append_assoc], hwritten⟩

theorem Contains.append {kind : String → Prop} {text : String} (h : Contains kind text)
    (after : String) : Contains kind (text ++ after) := by
  simpa using h.inside "" after

theorem Contains.prepend {kind : String → Prop} {text : String} (h : Contains kind text)
    (before : String) : Contains kind (before ++ text) := by
  simpa using h.inside before ""

theorem Contains.trans {kind inner : String → Prop} {text : String} (h : Contains kind text)
    (hinner : ∀ written, kind written → Contains inner written) : Contains inner text := by
  obtain ⟨before, written, after, rfl, hwritten⟩ := h
  exact (hinner written hwritten).inside before after

theorem contains_intercalate {kind : String → Prop} {items : List String} {item : String}
    (hitem : item ∈ items) (h : Contains kind item) (separator : String) :
    Contains kind (separator.intercalate items) := by
  induction items with
  | nil => cases hitem
  | cons first rest ih =>
      by_cases hrest : rest = []
      · obtain rfl : item = first := by simpa [hrest] using hitem
        simpa [hrest] using h
      · rw [String.intercalate_cons_of_ne_nil hrest]
        rcases List.mem_cons.mp hitem with rfl | hitem
        · exact (h.append separator).append _
        · exact (ih hitem).prepend (first ++ separator)

namespace Printer

/-- What is printed for a part, wherever it stands.  A function does not say that it has no result,
and a body that only returns a value may be that value. -/
inductive Writes (p : Printer) : Part → String → Prop
  | type {node : Node} {text : String} (h : p.typeText node = .ok text) : Writes p (.type node) text
  | noResult : Writes p (.type .voidType) ""
  | expression {node : Node} {text : String} {level : Nat} {b b' : Buffer}
      (h : p.writeExpression level node b = .ok b') (htext : b'.text = b.text ++ text) :
      Writes p (.expression node) text
  | statement {node : Node} {text : String} {level : Nat} {b b' : Buffer}
      (h : p.writeStatement level node b = .ok b') (htext : b'.text = b.text ++ text) :
      Writes p (.statement node) text
  | value {node : Node} {text : String} (h : Writes p (.expression node) text) :
      Writes p (.statement (.ret (some node))) text
  | definition {kind : TypeKind} {keyword : String}
      (h : p.spelling.typeKeyword? kind = some keyword) : Writes p (.definition kind) keyword

/-- What is appended to a buffer holds a text of each kind. -/
def Shows (kinds : List (String → Prop)) (b b' : Buffer) : Prop :=
  ∃ added, b'.text = b.text ++ added ∧ ∀ kind ∈ kinds, Contains kind added

def Emits (kinds : List (String → Prop)) (b : Buffer) (x : Printed Buffer) : Prop :=
  ∀ b', x = .ok b' → Shows kinds b b'

variable {p : Printer}

namespace Shows

theorem of_adds {comments : List Comment} {b c : Buffer} (h : p.Adds comments b c) :
    Shows [] b c := by
  obtain ⟨added, hadded, -⟩ := h
  exact ⟨added, hadded, nofun⟩

theorem refl (b : Buffer) : Shows [] b b := ⟨"", by simp, nofun⟩

theorem mono {kinds fewer : List (String → Prop)} {b c : Buffer} (h : Shows kinds b c)
    (hfewer : fewer ⊆ kinds) : Shows fewer b c := by
  obtain ⟨added, hadded, hkinds⟩ := h
  exact ⟨added, hadded, fun kind hkind => hkinds kind (hfewer hkind)⟩

theorem trans {kinds more : List (String → Prop)} {b c d : Buffer} (h : Shows kinds b c)
    (hmore : Shows more c d) : Shows (kinds ++ more) b d := by
  obtain ⟨added, hadded, hkinds⟩ := h
  obtain ⟨rest, hrest, hmore⟩ := hmore
  refine ⟨added ++ rest, by rw [hrest, hadded, String.append_assoc], fun kind hkind => ?_⟩
  rcases List.mem_append.mp hkind with hkind | hkind
  · exact (hkinds kind hkind).append rest
  · exact (hmore kind hkind).prepend added

theorem append_text {kinds : List (String → Prop)} {text : String}
    (h : ∀ kind ∈ kinds, Contains kind text) (b : Buffer) : Shows kinds b (b.append text) :=
  ⟨text, Buffer.text_append b text, h⟩

theorem then_code {kinds : List (String → Prop)} {b c d : Buffer} {comments : List Comment}
    (h : Shows kinds b c) (hcode : p.Adds comments c d) : Shows kinds b d := by
  simpa using h.trans (of_adds hcode)

theorem after_code {kinds : List (String → Prop)} {b c d : Buffer} {comments : List Comment}
    (hcode : p.Adds comments b c) (h : Shows kinds c d) : Shows kinds b d := by
  simpa using (of_adds hcode).trans h

theorem contains {kinds : List (String → Prop)} {b c : Buffer} (h : Shows kinds b c)
    {text : String} (htext : c.text = b.text ++ text) : ∀ kind ∈ kinds, Contains kind text := by
  obtain ⟨added, hadded, hkinds⟩ := h
  obtain rfl : added = text := (String.append_right_inj _).mp (hadded.symm.trans htext)
  exact hkinds

end Shows

theorem Shows.of_each {kinds : List (String → Prop)} {b c : Buffer} {comments : List Comment}
    (hcode : p.Adds comments b c) (h : ∀ kind ∈ kinds, Shows [kind] b c) : Shows kinds b c := by
  obtain ⟨added, hadded, -⟩ := hcode
  exact ⟨added, hadded, fun kind hkind =>
    (h kind hkind).contains hadded kind (List.mem_singleton_self kind)⟩

namespace Emits

theorem pure {kinds : List (String → Prop)} {b c : Buffer} (h : Shows kinds b c) :
    Emits kinds b (Pure.pure c) := by
  rintro _ ⟨⟩
  exact h

theorem of_prints {comments : List Comment} {b : Buffer} {x : Printed Buffer}
    (h : p.Prints comments b x) : Emits [] b x :=
  fun b' hb' => .of_adds (h b' hb')

theorem bind {kinds more : List (String → Prop)} {b : Buffer} {x : Printed Buffer}
    {f : Buffer → Printed Buffer} (h : Emits kinds b x) (hmore : ∀ c, Emits more c (f c)) :
    Emits (kinds ++ more) b (x >>= f) := by
  intro last hlast
  cases x with
  | error e => cases hlast
  | ok c => exact (h c rfl).trans (hmore c last hlast)

theorem after {α : Type} {kinds : List (String → Prop)} {b : Buffer} {x : Printed α}
    {f : α → Printed Buffer} (h : ∀ a, x = .ok a → Emits kinds b (f a)) :
    Emits kinds b (x >>= f) := by
  intro last hlast
  cases x with
  | error e => cases hlast
  | ok a => exact h a rfl last hlast

theorem mono {kinds fewer : List (String → Prop)} {b : Buffer} {x : Printed Buffer}
    (h : Emits kinds b x) (hfewer : fewer ⊆ kinds) : Emits fewer b x :=
  fun last hlast => (h last hlast).mono hfewer

theorem from_shows {kinds more : List (String → Prop)} {b c : Buffer} {x : Printed Buffer}
    (hshows : Shows kinds b c) (h : Emits more c x) : Emits (kinds ++ more) b x :=
  fun last hlast => hshows.trans (h last hlast)

theorem after_code {kinds : List (String → Prop)} {b c : Buffer} {x : Printed Buffer}
    {comments : List Comment} (hcode : p.Adds comments b c) (h : Emits kinds c x) :
    Emits kinds b x :=
  .from_shows (.of_adds hcode) h

theorem finish {kinds : List (String → Prop)} {b : Buffer} {x : Printed Buffer}
    {f : Buffer → Buffer} (h : Emits kinds b x) (hf : ∀ c, p.Adds [] c (f c)) :
    Emits kinds b (x >>= fun c => Pure.pure (f c)) := by
  have hbind := h.bind fun c => Emits.pure (.of_adds (hf c))
  rwa [List.append_nil] at hbind

end Emits

/-! ## Lists -/

theorem shows_line {kinds : List (String → Prop)} {text : String}
    (h : ∀ kind ∈ kinds, Contains kind text) (level : Nat) (b : Buffer) :
    Shows kinds b (p.line level text b) := by
  unfold line
  dsimp only
  split
  case isTrue hempty =>
    obtain rfl := String.isEmpty_iff.mp hempty
    have hshows : Shows kinds b b := Shows.append_text h b
    exact hshows.then_code ((Adds.refl (p := p) b).append _)
  case isFalse =>
    have hshows := Shows.append_text (fun kind hkind => (h kind hkind).prepend (p.indent level)) b
    exact hshows.then_code ((Adds.refl (p := p) _).append _)

theorem shows_lines {kinds : List (String → Prop)} {texts : List String}
    (h : ∀ kind ∈ kinds, ∃ text ∈ texts, Contains kind text) (level : Nat) (b : Buffer) :
    Shows kinds b (p.lines level texts b) := by
  refine .of_each ((Adds.refl (p := p) b).lines level texts) fun kind hkind => ?_
  obtain ⟨text, htext, hcontains⟩ := h kind hkind
  obtain ⟨before, after, rfl⟩ := List.append_of_mem htext
  have hsplit : p.lines level (before ++ text :: after) b =
      p.lines level after (p.line level text (p.lines level before b)) := by
    simp [lines]
  rw [hsplit]
  have hline := shows_line (p := p) (List.forall_mem_singleton.mpr hcontains) level
    (p.lines level before b)
  exact .after_code ((Adds.refl b).lines level before)
    (hline.then_code ((Adds.refl _).lines level after))

theorem contains_commaLines {kind : String → Prop} {items : List String} {item : String}
    (hitem : item ∈ items) (h : Contains kind item) :
    ∃ line ∈ commaLines items, Contains kind line := by
  induction items with
  | nil => cases hitem
  | cons first rest ih =>
      cases rest with
      | nil =>
          obtain rfl := List.mem_singleton.mp hitem
          exact ⟨item, List.mem_singleton_self item, h⟩
      | cons next rest =>
          rw [commaLines]
          · rcases List.mem_cons.mp hitem with rfl | hitem
            · exact ⟨item ++ ",", List.mem_cons_self, h.append ","⟩
            · obtain ⟨line, hline, hcontains⟩ := ih hitem
              exact ⟨line, List.mem_cons_of_mem _ hline, hcontains⟩
          · exact List.cons_ne_nil next rest

section

variable {first kinds last : List (String → Prop)} {head tail : String} {items : List String}

theorem contains_single (hfirst : ∀ kind ∈ first, Contains kind head)
    (h : ∀ kind ∈ kinds, ∃ item ∈ items, Contains kind item)
    (hlast : ∀ kind ∈ last, Contains kind tail) :
    ∀ kind ∈ first ++ (kinds ++ last),
      Contains kind (head ++ "(" ++ p.join items ++ ")" ++ tail) := by
  intro kind hkind
  rcases List.mem_append.mp hkind with hkind | hkind
  · exact ((((hfirst kind hkind).append "(").append _).append ")").append tail
  · rcases List.mem_append.mp hkind with hkind | hkind
    · obtain ⟨item, hitem, hcontains⟩ := h kind hkind
      have hjoined := contains_intercalate hitem hcontains p.style.listSeparator
      exact ((hjoined.prepend (head ++ "(")).append ")").append tail
    · exact (hlast kind hkind).prepend _

theorem shows_several (h : ∀ kind ∈ kinds, ∃ item ∈ items, Contains kind item) (level : Nat)
    {text : String} {texts : List String} (htexts : text :: texts = commaLines items ++ [tail])
    (b : Buffer) : Shows kinds b (p.lines level (text :: texts).dropLast b) := by
  rw [htexts, List.dropLast_concat]
  refine shows_lines (fun kind hkind => ?_) level b
  obtain ⟨item, hitem, hcontains⟩ := h kind hkind
  exact contains_commaLines hitem hcontains

theorem shows_writeArguments (hfirst : ∀ kind ∈ first, Contains kind head)
    (h : ∀ kind ∈ kinds, ∃ item ∈ items, Contains kind item) (level : Nat) (b : Buffer) :
    Shows (first ++ kinds) b (p.writeArguments level head items b) := by
  rcases p.listText_eq_or level head items "" with hlist | ⟨text, texts, htexts, hlist⟩
  · simp only [writeArguments, hlist]
    have hcontains : ∀ kind ∈ first ++ (kinds ++ []),
        Contains kind (head ++ "(" ++ p.join items ++ ")" ++ "") :=
      contains_single hfirst h (List.forall_mem_nil _)
    rw [List.append_nil] at hcontains
    exact .append_text hcontains b
  · simp only [writeArguments, hlist, List.head?_cons, Option.getD_some, List.drop_succ_cons,
      List.drop_zero]
    have hhead : Shows first b (b.append (head ++ "(" ++ p.style.eol)) :=
      .append_text (fun kind hkind => ((hfirst kind hkind).append "(").append _) b
    exact (hhead.trans (shows_several h (level + 1) htexts _)).then_code
      ((Adds.refl (p := p) _).append _)

theorem shows_writeList (hfirst : ∀ kind ∈ first, Contains kind head)
    (h : ∀ kind ∈ kinds, ∃ item ∈ items, Contains kind item)
    (hlast : ∀ kind ∈ last, Contains kind tail) (level : Nat) (b : Buffer) :
    Shows (first ++ (kinds ++ last)) b (p.writeList level head items tail b) := by
  rcases p.listText_eq_or level head items tail with hlist | ⟨text, texts, htexts, hlist⟩
  · simp only [writeList, hlist]
    exact shows_line (contains_single hfirst h hlast) level b
  · simp only [writeList, hlist, List.take_succ_cons, List.take_zero, List.drop_succ_cons,
      List.drop_zero]
    have hhead : Shows first b (p.lines level [head ++ "("] b) :=
      shows_line (fun kind hkind => (hfirst kind hkind).append "(") level b
    exact hhead.trans ((shows_several h (level + 1) htexts _).trans
      (shows_line (fun kind hkind => (hlast kind hkind).prepend ")") level _))

end

theorem exists_of_mapM {α : Type} {text : α → Printed String} (kinds : α → List (String → Prop))
    (h : ∀ a t, text a = .ok t → ∀ kind ∈ kinds a, Contains kind t) {items : List α}
    {texts : List String} (htexts : items.mapM text = .ok texts) :
    ∀ kind ∈ items.flatMap kinds, ∃ t ∈ texts, Contains kind t := by
  have hforall := forall₂_of_mapM htexts
  clear htexts
  induction hforall with
  | nil => nofun
  | @cons a t rest others ha _ ih =>
      intro kind hkind
      rw [List.flatMap_cons, List.mem_append] at hkind
      rcases hkind with hkind | hkind
      · exact ⟨t, List.mem_cons_self, h a t ha kind hkind⟩
      · obtain ⟨other, hother, hcontains⟩ := ih kind hkind
        exact ⟨other, List.mem_cons_of_mem _ hother, hcontains⟩

theorem exists_of_mapM_part {α : Type} {text : α → Printed String} {part : α → Part}
    (h : ∀ a t, text a = .ok t → Contains (p.Writes (part a)) t) {items : List α}
    {texts : List String} (htexts : items.mapM text = .ok texts) :
    ∀ kind ∈ (items.map part).map p.Writes, ∃ t ∈ texts, Contains kind t := by
  have hkinds := exists_of_mapM (fun a => [p.Writes (part a)])
    (fun a t ht => List.forall_mem_singleton.mpr (h a t ht)) htexts
  rwa [← List.map_eq_flatMap, ← Function.comp_def p.Writes, ← List.map_map] at hkinds

/-! ## Types -/

end Printer

structure Spelling.FillsTypes (s : Spelling) : Prop where
  element : ∀ text, Contains (· = text) (Text.fill [("element", text)] s.arrayType)
  root : ∀ root value,
    Contains (· = root) (Text.fill [("root", root), ("value", value)] s.keyPathType)
  value : ∀ root value,
    Contains (· = value) (Text.fill [("root", root), ("value", value)] s.keyPathType)

theorem Spelling.swift_fillsTypes : Spelling.swift.FillsTypes := by
  have harray : ∀ text, Text.fill [("element", text)] Spelling.swift.arrayType =
      "[ " ++ text ++ " ]" := by
    intro text
    apply String.toList_injective
    simp [Text.fill, Spelling.swift, Text.fillFrom, Text.placeholder, Text.openBracket,
      Text.closeBracket]
  have hkeyPath : ∀ root value,
      Text.fill [("root", root), ("value", value)] Spelling.swift.keyPathType =
        "KeyPath<" ++ root ++ ", " ++ value ++ ">" := by
    intro root value
    apply String.toList_injective
    simp [Text.fill, Spelling.swift, Text.fillFrom, Text.placeholder, Text.openBracket,
      Text.closeBracket, List.lookup_cons]
  have hself : ∀ text, Contains (· = text) text := fun text => .whole rfl
  refine ⟨fun text => ?_, fun root value => ?_, fun root value => ?_⟩
  · rw [harray]
    exact (hself text).inside "[ " " ]"
  · rw [hkeyPath]
    exact (((hself root).inside "KeyPath<" ", ").append value).append ">"
  · rw [hkeyPath]
    exact (hself value).inside ("KeyPath<" ++ root ++ ", ") ">"

namespace Printer

variable {p : Printer}

theorem typeTexts_eq (types : List Node) : p.typeTexts types = types.mapM p.typeText := by
  induction types with
  | nil => rfl
  | cons type rest ih => rw [typeTexts, ih, List.mapM_cons]

theorem exists_of_typeTexts {types : List Node} {texts : List String}
    (h : types.mapM p.typeText = .ok texts) :
    ∀ kind ∈ (types.map .type).map p.Writes, ∃ text ∈ texts, Contains kind text :=
  exists_of_mapM_part (fun _ _ htype => .whole (.type htype)) h

theorem contains_typeText (hfills : p.spelling.FillsTypes) {node : Node} {text : String}
    (h : p.typeText node = .ok text) :
    ∀ kind ∈ node.parts.map p.Writes, Contains kind text := by
  cases node with
  | namedType name arguments =>
      rw [typeText, typeTexts_eq] at h
      obtain ⟨texts, htexts, h⟩ := bind_eq_ok h
      cases h
      intro kind hkind
      obtain ⟨argument, hargument, hcontains⟩ := exists_of_typeTexts htexts kind hkind
      have hjoined := contains_intercalate hargument hcontains p.style.listSeparator
      cases arguments with
      | nil => cases hkind
      | cons => exact hjoined.inside (name ++ "<") ">"
  | optionalType wrapped =>
      obtain ⟨inner, hinner, h⟩ := bind_eq_ok h
      cases h
      refine List.forall_mem_singleton.mpr (Contains.append ?_ _)
      split
      · exact ((Contains.whole (.type hinner)).prepend _).append _
      · exact .whole (.type hinner)
  | arrayType element =>
      rw [typeText] at h
      obtain ⟨inner, hinner, h⟩ := bind_eq_ok h
      cases h
      refine List.forall_mem_singleton.mpr ((hfills.element inner).trans ?_)
      rintro _ rfl
      exact .whole (.type hinner)
  | qualifiedType base name =>
      rw [typeText] at h
      obtain ⟨inner, hinner, h⟩ := bind_eq_ok h
      cases h
      exact List.forall_mem_singleton.mpr (((Contains.whole (.type hinner)).append _).append _)
  | keyPathType root value =>
      rw [typeText] at h
      obtain ⟨root, hroot, h⟩ := bind_eq_ok h
      obtain ⟨value, hvalue, h⟩ := bind_eq_ok h
      cases h
      refine List.forall_mem_cons.mpr ⟨(hfills.root root value).trans ?_,
        List.forall_mem_singleton.mpr ((hfills.value root value).trans ?_)⟩
      · rintro _ rfl
        exact .whole (.type hroot)
      · rintro _ rfl
        exact .whole (.type hvalue)
  | closureType parameters returns throws escaping =>
      rw [typeText, typeTexts_eq] at h
      obtain ⟨result, hresult, h⟩ := bind_eq_ok h
      obtain ⟨texts, htexts, h⟩ := bind_eq_ok h
      cases h
      refine List.forall_mem_cons.mpr ⟨(Contains.whole (.type hresult)).prepend _,
        fun kind hkind => ?_⟩
      obtain ⟨parameter, hparameter, hcontains⟩ := exists_of_typeTexts htexts kind hkind
      have hbrackets := (contains_intercalate hparameter hcontains ", ").inside "( " " )"
      rw [if_neg (c := texts.isEmpty = true) (by simp [List.ne_nil_of_mem hparameter])]
      exact (((((hbrackets.prepend _).append " ").append _).append _).append " ").append result
  | voidType => exact List.forall_mem_nil _
  | _ => cases h

/-! ## Expressions and statements -/

theorem Writes.of_empty {node : Node} {level : Nat} {b : Buffer}
    (h : p.writeExpression level node .empty = .ok b) : p.Writes (.expression node) b.text :=
  .expression h (by simp)

theorem emits_expression (level : Nat) (node : Node) (b : Buffer) :
    Emits [p.Writes (.expression node)] b (p.writeExpression level node b) := by
  intro b' hb'
  obtain ⟨added, hadded, -⟩ := prints_writeExpression level node b b' hb'
  exact ⟨added, hadded, List.forall_mem_singleton.mpr (.whole (.expression hb' hadded))⟩

theorem emits_statement (level : Nat) (node : Node) (b : Buffer) :
    Emits [p.Writes (.statement node)] b (p.writeStatement level node b) := by
  intro b' hb'
  obtain ⟨added, hadded, -⟩ := prints_writeStatement level node b b' hb'
  exact ⟨added, hadded, List.forall_mem_singleton.mpr (.whole (.statement hb' hadded))⟩

theorem emits_value {kinds : List (String → Prop)} {level : Nat} {value : Node} {b c : Buffer}
    (h : Shows kinds b c) :
    Emits (kinds ++ [p.Writes (.expression value)]) b (do
      let c ← p.writeExpression level value c
      pure (c.ensure p.style.eol)) :=
  .from_shows h ((emits_expression level value c).finish fun d => (Adds.refl (p := p) d).ensure _)

theorem Writes.of_expressionText {level : Nat} {node : Node} {text : String}
    (h : p.expressionText level node = .ok text) : p.Writes (.expression node) text := by
  obtain ⟨b, hb, rfl⟩ := map_eq_ok h
  exact .of_empty hb

theorem expressionTexts_eq (level : Nat) (nodes : List Node) :
    p.expressionTexts level nodes = nodes.mapM (p.expressionText level) := by
  induction nodes with
  | nil => rfl
  | cons node rest ih =>
      rw [expressionTexts, ih, List.mapM_cons, expressionText]
      cases p.writeExpression level node .empty <;> rfl

theorem contains_labeled {kind : String → Prop} {text : String} (h : Contains kind text)
    (label : Option String) : Contains kind (p.labeled label text) := by
  cases label with
  | none => exact h
  | some label =>
      rw [labeled]
      split
      · exact h
      · exact h.prepend _

theorem exists_of_argumentTexts {level : Nat} {arguments : List Argument} {texts : List String}
    (h : p.argumentTexts level arguments = .ok texts) :
    ∀ kind ∈ (arguments.map (Part.expression ·.value)).map p.Writes,
      ∃ text ∈ texts, Contains kind text := by
  induction arguments generalizing texts with
  | nil => exact List.forall_mem_nil _
  | cons a rest ih =>
      obtain ⟨label, value⟩ := a
      rw [argumentTexts] at h
      obtain ⟨inner, hinner, h⟩ := bind_eq_ok h
      obtain ⟨others, hothers, h⟩ := bind_eq_ok h
      cases h
      have hvalue : Contains (p.Writes (.expression value)) (p.labeled label inner.text) :=
        contains_labeled (.whole (.of_empty hinner)) label
      exact List.forall_mem_cons.mpr ⟨⟨_, List.mem_cons_self, hvalue⟩, fun kind hkind =>
        (ih hothers kind hkind).imp fun _ => .imp_left (List.mem_cons_of_mem _)⟩

theorem emits_append {α : Type} {kinds : List (String → Prop)} {x : Printed α} {text : α → String}
    (h : ∀ a, x = .ok a → ∀ kind ∈ kinds, Contains kind (text a)) (b : Buffer) :
    Emits kinds b (do
      let a ← x
      pure (b.append (text a))) :=
  .after fun a ha => .pure (.append_text (h a ha) b)

theorem emits_writeStatements (level : Nat) (statements : List Node) (b : Buffer) :
    Emits ((statements.map .statement).map p.Writes) b (p.writeStatements level statements b) := by
  induction statements generalizing b with
  | nil => exact .pure (.refl b)
  | cons statement rest ih => exact (emits_statement level statement b).bind ih

theorem emits_block {level inner : Nat} {body : List Node} {b c : Buffer} (finish : String)
    (hcode : p.Adds [] b c) :
    Emits ((body.map .statement).map p.Writes) b (do
      let d ← p.writeStatements inner body c
      pure (p.closeBlock level finish d)) :=
  .after_code hcode ((emits_writeStatements inner body c).finish fun d =>
    (Adds.refl d).closeBlock level finish)

theorem emits_writeTrailing (level : Nat) (trailing : Option Trailing) (b : Buffer) :
    Emits ((trailing.toList.flatMap (·.body.map .statement)).map p.Writes) b
      (p.writeTrailing level trailing b) := by
  cases trailing with
  | none => exact .pure (.refl b)
  | some closure =>
      obtain ⟨parameters, body⟩ := closure
      rw [Option.toList_some, List.flatMap_singleton]
      exact emits_block p.style.eol
        (((Adds.refl (p := p) b).ensure " ").openBlock (p.closureHead parameters))

theorem contains_baseText {level : Nat} {base : Option Node} {text : String}
    (h : p.baseText level base = .ok text) :
    ∀ kind ∈ (base.toList.map .expression).map p.Writes, Contains kind text := by
  cases base with
  | none => exact List.forall_mem_nil _
  | some base =>
      rw [baseText] at h
      obtain ⟨inner, hinner, h⟩ := bind_eq_ok h
      cases h
      exact List.forall_mem_singleton.mpr ((Contains.whole (.of_empty hinner)).append ".")

theorem emits_writeCall (level : Nat) (call : Invocation) (b : Buffer) :
    Emits (call.parts.map p.Writes) b (p.writeCall level call b) := by
  obtain ⟨name, arguments, base, tries, awaits, trailing⟩ := call
  rw [writeCall, Invocation.parts, List.map_append, List.map_append, ← List.append_assoc]
  refine .after fun base hbase => .after fun texts htexts => ?_
  refine .from_shows ?_ (emits_writeTrailing level trailing _)
  refine shows_writeArguments (fun kind hkind => ?_) (exists_of_argumentTexts htexts) level b
  exact ((contains_baseText hbase kind hkind).prepend _).append _

theorem emits_writeExpression (level : Nat) (node : Node) (b : Buffer) :
    Emits (node.parts.map p.Writes) b (p.writeExpression level node b) := by
  cases node with
  | call call => exact emits_writeCall level call b
  | member base name =>
      exact emits_append (fun inner hinner => List.forall_mem_singleton.mpr
        (((Contains.whole (.of_empty hinner)).append _).append _)) b
  | keyPath property root =>
      cases root with
      | none => exact .of_prints (prints_writeExpression level (.keyPath property none) b)
      | some type =>
          exact emits_append (fun root hroot => List.forall_mem_singleton.mpr
            ((((Contains.whole (.type hroot)).prepend _).append _).append _)) b
  | typeExpression type =>
      exact emits_append (fun text htext => List.forall_mem_singleton.mpr
        ((Contains.whole (.type htext)).append _)) b
  | closure parameters body =>
      refine emits_append (fun inner hinner => ?_) b
      have hopen := (Adds.refl (p := p) .empty).openBlock (p.closureHead parameters)
      have hinside := Shows.after_code hopen (emits_writeStatements (level + 1) body _ inner hinner)
      exact (hinside.then_code ((Adds.refl (p := p) inner).closeBlock level "")).contains (by simp)
  | arrayExpression elements =>
      refine emits_append (fun texts htexts kind hkind => ?_) b
      rw [expressionTexts_eq] at htexts
      obtain ⟨text, htext, hcontains⟩ :=
        exists_of_mapM_part (fun _ _ h => .whole (.of_expressionText h)) htexts kind hkind
      rw [arrayText, if_neg (by simp [List.ne_nil_of_mem htext])]
      exact (contains_intercalate htext hcontains ", ").inside "[ " " ]"
  | compare lhs operator rhs =>
      refine .after fun _ _ => .after fun left hleft => emits_append (fun right hright => ?_) b
      exact List.forall_mem_cons.mpr
        ⟨(((((Contains.whole (.of_empty hleft)).append _).append _).append _).append _),
          List.forall_mem_singleton.mpr ((Contains.whole (.of_empty hright)).prepend _)⟩
  | nilLiteral | boolLiteral _ | intLiteral _ | doubleLiteral _ | stringLiteral _
  | intArrayLiteral _ | dataLiteral _ | variableRef _ | selfRef | rawExpression _ =>
      exact .of_prints (prints_writeExpression level _ b)
  | _ => nofun

theorem emits_writeBranches (level : Nat) (keyword : String) (branches : List Branch) (b : Buffer) :
    Emits ((branches.flatMap Branch.parts).map p.Writes) b
      (p.writeBranches level keyword branches b) := by
  induction branches generalizing keyword b with
  | nil => exact .pure (.refl b)
  | cons branch rest ih =>
      obtain ⟨condition, body⟩ := branch
      rw [writeBranches, List.flatMap_cons, List.map_append, Branch.parts, List.map_cons]
      refine .after fun test htest => ?_
      have htest : Contains (p.Writes (.expression condition)) test.text :=
        .whole (.of_empty htest)
      have hstart := Shows.append_text (List.forall_mem_singleton.mpr
        (htest.prepend (p.indent level ++ keyword ++ " "))) b
      have hopen := ((Adds.refl (p := p) (b.append
        (p.indent level ++ keyword ++ " " ++ test.text))).ensure " ").openBlock p.style.eol
      refine (Emits.from_shows (hstart.then_code hopen)
        (emits_writeStatements (level + 1) body _)).bind fun inner => ?_
      exact .after_code ((Adds.refl inner).closeBlock level _) (ih _ _)

theorem emits_conditional {level : Nat} {branches : List Branch} {otherwise : List Node}
    (b : Buffer) :
    Emits ((Node.conditional branches otherwise).parts.map p.Writes) b
      (p.writeStatement level (.conditional branches otherwise) b) := by
  cases branches with
  | nil => nofun
  | cons branch rest =>
      have hbranches := emits_writeBranches (p := p) level p.spelling.ifKeyword (branch :: rest) b
      rw [Node.parts, List.map_append]
      cases otherwise with
      | nil => exact hbranches.bind fun c => .pure (.refl c)
      | cons statement statements =>
          refine hbranches.bind fun c => emits_block p.style.eol ?_
          exact (((Adds.refl (p := p) c).append _).ensure " ").openBlock p.style.eol

theorem emits_writeStatement (level : Nat) (node : Node) (b : Buffer) :
    Emits (node.parts.map p.Writes) b (p.writeStatement level node b) := by
  cases node with
  | rawStatement text => exact .of_prints (prints_writeStatement level _ b)
  | group statements => exact emits_writeStatements level statements b
  | variableDecl name value type mutable =>
      have hhead := Shows.of_adds ((Adds.refl (p := p) b).append (p.indent level ++
        (if mutable then p.spelling.variableKeyword else p.spelling.constantKeyword) ++ " " ++
        p.spelling.identifier name))
      cases type with
      | none => exact emits_value (hhead.then_code ((Adds.refl (p := p) _).append _))
      | some type =>
          refine .after fun text htext => ?_
          have htype : Contains (p.Writes (.type type)) text := .whole (.type htext)
          have hshows := hhead.trans (Shows.append_text
            (List.forall_mem_singleton.mpr (htype.prepend p.style.typeSeparator)) _)
          exact emits_value (hshows.then_code ((Adds.refl (p := p) _).append _))
  | assignment target value =>
      refine .after fun left hleft => ?_
      have htarget : Contains (p.Writes (.expression target)) left.text :=
        .whole (.of_empty hleft)
      exact emits_value (.append_text (List.forall_mem_singleton.mpr
        ((htarget.prepend (p.indent level)).append p.style.valueSeparator)) b)
  | callStatement call =>
      exact .after_code ((Adds.refl (p := p) b).append _)
        ((emits_writeCall level call _).finish fun c => (Adds.refl (p := p) c).ensure _)
  | ret value =>
      cases value with
      | none => exact .of_prints (prints_writeStatement level (.ret none) b)
      | some value =>
          exact emits_value (.of_adds (((Adds.refl (p := p) b).append _).append _))
  | conditional branches otherwise => exact emits_conditional b
  | _ =>
      intro last hlast
      cases hlast

/-! ## Going from place to place -/

theorem Writes.contains (hfills : p.spelling.FillsTypes) {part : Part} {text : String}
    (h : p.Writes part text) : ∀ inner, part.Holds inner → Contains (p.Writes inner) text := by
  intro inner hinner
  have hkind : p.Writes inner ∈ part.node.parts.map p.Writes := List.mem_map_of_mem hinner
  cases h with
  | type h => exact contains_typeText hfills h _ hkind
  | noResult => cases hkind
  | expression h htext => exact (emits_writeExpression _ _ _ _ h).contains htext _ hkind
  | statement h htext => exact (emits_writeStatement _ _ _ _ h).contains htext _ hkind
  | value h =>
      obtain rfl := List.mem_singleton.mp hinner
      exact .whole h
  | definition => cases hkind

/-- Whatever is somewhere in a part is written somewhere in its text. -/
theorem Writes.contains_within (hfills : p.spelling.FillsTypes) {part inner : Part} {text : String}
    (h : p.Writes part text) (hinner : Relation.ReflTransGen Part.Holds part inner) :
    Contains (p.Writes inner) text := by
  induction hinner with
  | refl => exact .whole h
  | tail _ hstep ih => exact ih.trans fun written hwritten => hwritten.contains hfills _ hstep

end Printer

end RecordLoom.Code
