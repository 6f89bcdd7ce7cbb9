import RecordLoom.Proofs.Code.Comments
import RecordLoom.Proofs.Code.SideBySide

/-!
# The sections of a unit

A unit is printed as what comes before its declarations, and then each of them, with a line end
between two sections.  What is printed of a declaration does not depend on the sections around it:
it looks at nothing that was there before it, since it appends something before it looks.
-/

namespace RecordLoom.Code

/-! ## One buffer after another -/

namespace Buffer

def followedBy (b c : Buffer) : Buffer := ⟨c.pieces ++ b.pieces⟩

theorem text_followedBy (b c : Buffer) : (b.followedBy c).text = b.text ++ c.text := by
  simp [text, followedBy, String.join_append]

theorem followedBy_append (b c : Buffer) (text : String) :
    (b.followedBy c).append text = b.followedBy (c.append text) := by
  unfold append
  split <;> rfl

theorem endsWith_followedBy (b : Buffer) {c : Buffer} (hc : c.text ≠ "") (finish : String) :
    (b.followedBy c).endsWith finish = c.endsWith finish := by
  obtain ⟨pieces⟩ := c
  cases pieces with
  | nil => exact absurd text_empty hc
  | cons piece rest => rfl

def IsSolid (b : Buffer) : Prop := b.text = "" → b = .empty

theorem IsSolid.append {b : Buffer} (h : b.IsSolid) (text : String) : (b.append text).IsSolid := by
  intro hempty
  rw [text_append, String.append_eq_empty_iff] at hempty
  rw [hempty.2]
  exact h hempty.1

end Buffer

def Follows (before b c : Buffer) : Prop := c = before.followedBy b

def Continues (before b c : Buffer) : Prop := Follows before b c ∧ b.text ≠ ""

theorem Follows.append {before b c : Buffer} (h : Follows before b c) (text : String) :
    Follows before (b.append text) (c.append text) := by
  rw [Follows, h, Buffer.followedBy_append]

theorem continues_settles (before : Buffer) : Settles (Follows before) (Continues before) where
  append := Follows.append
  settle := fun hbc text htext => by
    refine ⟨hbc.append text, ?_⟩
    rw [Buffer.text_append, Ne, String.append_eq_empty_iff]
    exact fun heq => htext heq.2
  stable :=
    have happend : ∀ {b c : Buffer}, Continues before b c → ∀ text,
        Continues before (b.append text) (c.append text) := by
      rintro b c ⟨hbc, hb⟩ text
      refine ⟨hbc.append text, ?_⟩
      rw [Buffer.text_append, Ne, String.append_eq_empty_iff]
      exact fun heq => hb heq.1
    { append := happend
      ensure := by
        rintro b c ⟨hbc, hb⟩ finish
        have hsame : c.endsWith finish = b.endsWith finish := by
          rw [hbc, Buffer.endsWith_followedBy before hb]
        unfold Buffer.ensure
        rw [hsame]
        split
        · exact ⟨hbc, hb⟩
        · exact happend ⟨hbc, hb⟩ finish }

/-! ## Declarations of a unit -/

/-- A declaration that is not part of another one. -/
inductive Declaration where
  | type (d : TypeDef)
  | function (f : Function)
  | extension (e : Extension)

def CompilationUnit.declarations (u : CompilationUnit) : List Declaration :=
  u.structures.map .type ++ (u.functions.map .function ++ u.extensions.map .extension)

def Declaration.alone (name : String) : Declaration → CompilationUnit
  | .type d => { name, structures := [d] }
  | .function f => { name, functions := [f] }
  | .extension e => { name, extensions := [e] }

/-- What comes before the declarations, and then each of them alone in a unit. -/
def CompilationUnit.sections (u : CompilationUnit) (name : String) : List CompilationUnit :=
  { name, header := u.header, imports := u.imports, reexports := u.reexports } ::
    u.declarations.map (·.alone name)

def joinNonEmpty (separator : String) (texts : List String) : String :=
  separator.intercalate (texts.filter (· ≠ ""))

namespace Printer

variable (p : Printer)

def writeDeclaration : Declaration → Buffer → Printed Buffer
  | .type d => p.writeType 0 false d
  | .function f => p.writeFunction 0 false f
  | .extension e => p.writeExtension e

def head (u : CompilationUnit) : Buffer :=
  p.lines 0 (u.reexports.map (p.spelling.reexportKeyword ++ " " ++ ·)) <|
    p.lines 0 (u.imports.map (p.spelling.importKeyword ++ " " ++ ·)) <|
      p.lines 0 (p.headerLines u.header) .empty

def writeDeclarations (ds : List Declaration) (b : Buffer) : Printed Buffer :=
  ds.foldlM (fun b d => p.writeDeclaration d (p.separate b)) b

theorem writeUnit_eq (u : CompilationUnit) :
    p.writeUnit u = p.writeDeclarations u.declarations (p.head u) := by
  unfold writeDeclarations CompilationUnit.declarations
  rw [List.foldlM_append, List.foldlM_map]
  simp only [List.foldlM_append, List.foldlM_map]
  rfl

variable {p}

theorem writeDeclaration_continues (d : Declaration) (before : Buffer) :
    Alike (Continues before) (p.writeDeclaration d .empty) (p.writeDeclaration d before) := by
  have hstart : Follows before .empty before := rfl
  cases d with
  | type d => exact writeType_settles (continues_settles before) hstart 0 false d
  | function f => exact writeFunction_settles (continues_settles before) hstart 0 false f
  | extension e => exact writeExtension_settles (continues_settles before) hstart e

/-! ## Texts of several sections -/

section

variable {separator : String}

theorem filter_cons_of_ne_empty {text : String} (h : text ≠ "") (rest : List String) :
    (text :: rest).filter (· ≠ "") = text :: rest.filter (· ≠ "") :=
  List.filter_cons_of_pos (by simpa using h)

theorem joinNonEmpty_singleton (text : String) : joinNonEmpty separator [text] = text := by
  unfold joinNonEmpty
  by_cases htext : text = ""
  · rw [List.filter_cons_of_neg (by simpa using htext), htext]
    rfl
  · rw [filter_cons_of_ne_empty htext]
    exact String.intercalate_singleton

theorem joinNonEmpty_cons_cons (first : String) {second : String} (hsecond : second ≠ "")
    (rest : List String) :
    joinNonEmpty separator (first :: second :: rest) =
      joinNonEmpty separator
        ((if first = "" then second else first ++ separator ++ second) :: rest) := by
  have hfirst : first ≠ "" → first ++ separator ++ second ≠ "" := by
    intro hfirst heq
    exact hsecond (String.append_eq_empty_iff.mp heq).2
  unfold joinNonEmpty
  by_cases htext : first = ""
  · rw [if_pos htext, List.filter_cons_of_neg (by simpa using htext)]
  · rw [if_neg htext, filter_cons_of_ne_empty htext, filter_cons_of_ne_empty hsecond,
      filter_cons_of_ne_empty (hfirst htext), String.intercalate_cons_cons]
    generalize rest.filter _ = texts
    cases texts with
    | nil => simp [String.intercalate_singleton]
    | cons text texts => simp [String.intercalate_cons_cons, String.append_assoc]

end

theorem text_separate {b : Buffer} (hb : b.IsSolid) :
    (p.separate b).text = if b.text = "" then "" else b.text ++ p.style.eol := by
  unfold separate
  split
  case isTrue hempty =>
    have hpieces : b.pieces = [] := List.isEmpty_iff.mp hempty
    have htext : b.text = "" := by simp [Buffer.text, hpieces]
    rw [if_pos htext, htext]
  case isFalse hempty =>
    have htext : b.text ≠ "" := fun htext => hempty (by rw [hb htext]; rfl)
    rw [if_neg htext]
    exact Buffer.text_append b p.style.eol

/-- Declarations after what is there have the texts that they have alone, one after another. -/
theorem text_writeDeclarations (ds : List Declaration) {b : Buffer} (hb : b.IsSolid) :
    (p.writeDeclarations ds b).map Buffer.text =
      (ds.mapM fun d => (p.writeDeclaration d .empty).map Buffer.text).map fun texts =>
        joinNonEmpty p.style.eol (b.text :: texts) := by
  induction ds generalizing b with
  | nil => exact congrArg Except.ok (joinNonEmpty_singleton b.text).symm
  | cons d rest ih =>
      have hprinted := writeDeclaration_continues (p := p) d (p.separate b)
      unfold writeDeclarations at ih ⊢
      rw [List.foldlM_cons, List.mapM_cons]
      revert hprinted
      generalize p.writeDeclaration d .empty = alone
      generalize p.writeDeclaration d (p.separate b) = printed
      rintro (@⟨alone, printed, hfollows, htext⟩ | f)
      · have hprinted : printed.text = (p.separate b).text ++ alone.text := by
          rw [hfollows, Buffer.text_followedBy]
        have hsolid : printed.IsSolid := fun hempty => by
          rw [hprinted, String.append_eq_empty_iff] at hempty
          exact absurd hempty.2 htext
        have hjoined : printed.text =
            if b.text = "" then alone.text else b.text ++ p.style.eol ++ alone.text := by
          rw [hprinted, text_separate hb]
          split <;> simp
        refine (ih hsolid).trans ?_
        cases rest.mapM fun d => (p.writeDeclaration d .empty).map Buffer.text with
        | error f => rfl
        | ok texts =>
            refine congrArg Except.ok ?_
            rw [hjoined]
            exact (joinNonEmpty_cons_cons b.text htext texts).symm
      · rfl

/-! ## Line ends at the end -/

def Ended (eol text : String) : Prop := text ≠ "" → ∃ rest, text = rest ++ eol

theorem ended_append (b : Buffer) : Ended p.style.eol (b.append p.style.eol).text :=
  fun _ => ⟨b.text, Buffer.text_append b p.style.eol⟩

theorem ended_lines {b : Buffer} (hb : Ended p.style.eol b.text) (level : Nat)
    (texts : List String) : Ended p.style.eol (p.lines level texts b).text := by
  unfold lines
  induction texts generalizing b with
  | nil => exact hb
  | cons text rest ih => exact ih (ended_append _)

def Ends (eol : String) (x : Printed Buffer) : Prop := ∀ b, x = .ok b → Ended eol b.text

namespace Ends

theorem after {α : Type} {eol : String} {x : Printed α} {f : α → Printed Buffer}
    (h : ∀ a, Ends eol (f a)) : Ends eol (x >>= f) := by
  cases x with
  | ok a => exact h a
  | error f => nofun

theorem pure {eol : String} {b : Buffer} (h : Ended eol b.text) : Ends eol (pure b) := by
  rintro _ ⟨⟩
  exact h

end Ends

theorem ends_writeDeclaration (d : Declaration) (b : Buffer) :
    Ends p.style.eol (p.writeDeclaration d b) := by
  cases d with
  | type d =>
      obtain ⟨_, _, _, _, _, _, _, _, _, _⟩ := d
      rw [writeDeclaration, writeType]
      exact .after fun _ => .after fun _ => .after fun _ => .pure (ended_append _)
  | function f => exact .after fun _ => .after fun _ => .pure (ended_append _)
  | extension e =>
      have hmembers : ∀ b : Buffer, Ends p.style.eol (do
          let b ← p.writeStructures 1 (e.visibility == .isPublic) e.structures b
          let b ← p.writeFunctions 1 (e.visibility == .isPublic) e.functions b
          pure (p.line 0 "\x7d" b)) := fun b =>
        .after fun _ => .after fun _ => .pure (ended_append _)
      refine .after fun type => ?_
      dsimp only
      split
      · exact hmembers _
      · exact .after fun text => hmembers _

theorem ends_writeDeclarations (ds : List Declaration) {b : Buffer}
    (hb : Ended p.style.eol b.text) : Ends p.style.eol (p.writeDeclarations ds b) := by
  unfold writeDeclarations
  induction ds generalizing b with
  | nil => exact .pure hb
  | cons d rest ih =>
      intro c hc
      rw [List.foldlM_cons] at hc
      cases hd : p.writeDeclaration d (p.separate b) with
      | error f =>
          rw [hd] at hc
          exact nomatch hc
      | ok printed =>
          rw [hd] at hc
          exact ih (ends_writeDeclaration d _ printed hd) c hc

/-! ## What comes before the declarations -/

theorem isSolid_lines {b : Buffer} (hb : b.IsSolid) (level : Nat) (texts : List String) :
    (p.lines level texts b).IsSolid :=
  lines_alike (R := fun b _ => b.IsSolid) (c := b) (fun hb text => hb.append text) hb level texts

theorem isSolid_head (u : CompilationUnit) : (p.head u).IsSolid := by
  have hempty : Buffer.empty.IsSolid := fun _ => rfl
  exact isSolid_lines (isSolid_lines (isSolid_lines hempty 0 _) 0 _) 0 _

theorem ended_head (u : CompilationUnit) : Ended p.style.eol (p.head u).text := by
  have hempty : Ended p.style.eol Buffer.empty.text := fun h => absurd Buffer.text_empty h
  exact ended_lines (ended_lines (ended_lines hempty 0 _) 0 _) 0 _

end Printer

/-! ## Units -/

namespace CompilationUnit

theorem render_alone (d : Declaration) (name : String) (style : Style) (spelling : Spelling) :
    (d.alone name).render style spelling =
      (Printer.writeDeclaration ⟨style, spelling⟩ d .empty).map Buffer.text := by
  have halone : (d.alone name).declarations = [d] := by cases d <;> rfl
  have hhead : Printer.head ⟨style, spelling⟩ (d.alone name) = .empty := by cases d <;> rfl
  rw [render, Printer.writeUnit_eq, halone, hhead]
  exact congrArg (Except.map Buffer.text) (bind_pure _)

/-- The text of a unit is that of its sections, with a line end between two that are not empty.  Its
last line is ended. -/
theorem render_sections (u : CompilationUnit) (name : String) (style : Style)
    (spelling : Spelling) :
    u.render style spelling =
      ((u.sections name).mapM fun s : CompilationUnit => s.render style spelling).map
        (joinNonEmpty style.eol) ∧
    ∀ text, u.render style spelling = .ok text → text ≠ "" → ∃ rest, text = rest ++ style.eol := by
  let p : Printer := ⟨style, spelling⟩
  have hrender : u.render style spelling =
      (p.writeDeclarations u.declarations (p.head u)).map Buffer.text := by
    rw [render, Printer.writeUnit_eq]
  constructor
  · have halone : ∀ ds : List Declaration,
        (ds.map (·.alone name)).mapM (fun s : CompilationUnit => s.render style spelling) =
          ds.mapM fun d => (p.writeDeclaration d .empty).map Buffer.text := fun ds => by
      rw [List.mapM_map]
      exact congrArg (ds.mapM ·) (funext fun d => render_alone d name style spelling)
    rw [hrender, Printer.text_writeDeclarations _ (Printer.isSolid_head u), sections,
      List.mapM_cons, halone]
    cases u.declarations.mapM fun d => (p.writeDeclaration d .empty).map Buffer.text with
    | error f => rfl
    | ok texts => rfl
  · intro text htext
    rw [hrender] at htext
    cases hwritten : p.writeDeclarations u.declarations (p.head u) with
    | error f =>
        rw [hwritten] at htext
        exact nomatch htext
    | ok b =>
        rw [hwritten] at htext
        obtain rfl := Except.ok.inj htext
        exact Printer.ends_writeDeclarations _ (Printer.ended_head u) b hwritten

end CompilationUnit

end RecordLoom.Code
