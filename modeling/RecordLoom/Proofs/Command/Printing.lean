import RecordLoom.Json.Writer
import RecordLoom.Proofs.Json.Members
import RecordLoom.Proofs.Text.Characters
import RecordLoom.Report.Overview
import RecordLoom.Text.Terminal
import Mathlib.Data.List.Infix
import Mathlib.Data.List.TakeWhile

/-!
# What printing leaves of a text

A command prints a text without its escape sequences.  The text comes out as it is exactly if there
is none in it; this is so for documents, which spell the character that starts a sequence by its
number.
-/

namespace RecordLoom

namespace Text

def StartsSequence (cs : List Char) : Prop :=
  ∃ parameters final after, cs = '\x1b' :: '[' :: (parameters ++ final :: after) ∧
    (∀ c ∈ parameters, isParameter c = true) ∧ final.isAlpha = true

def HoldsSequence (s : String) : Prop := ∃ rest, rest <:+ s.toList ∧ StartsSequence rest

theorem toNat_of_isAlpha {c : Char} (h : c.isAlpha = true) :
    65 ≤ c.toNat ∧ c.toNat ≤ 90 ∨ 97 ≤ c.toNat ∧ c.toNat ≤ 122 := by
  rcases (Bool.or_eq_true _ _).mp h with hupper | hlower
  · exact .inl (of_decide_eq_true hupper)
  · exact .inr (((Bool.and_eq_true _ _).mp hlower).imp of_decide_eq_true of_decide_eq_true)

theorem isParameter_of_isAlpha {c : Char} (h : c.isAlpha = true) : isParameter c = false := by
  have hletter := toNat_of_isAlpha h
  have hsemicolon : c ≠ ';' := by
    rintro rfl
    cases h
  have hquestion : c ≠ '?' := by
    rintro rfl
    cases h
  have hdigit : c.isDigit = false := by
    rw [Bool.eq_false_iff, Ne, Char.isDigit_iff_toNat]
    simp only [Char.reduceToNat]
    omega
  simp [isParameter, hsemicolon, hquestion, hdigit]

theorem sequenceLength?_isSome_iff {cs : List Char} :
    (sequenceLength? cs).isSome = true ↔ StartsSequence cs := by
  constructor
  · intro h
    unfold sequenceLength? at h
    split at h
    case h_1 rest =>
      cases hafter : rest.dropWhile isParameter with
      | nil => simp [hafter] at h
      | cons final after =>
          have hfinal : final.isAlpha = true := by
            by_contra hnot
            simp [hafter, hnot] at h
          refine ⟨rest.takeWhile isParameter, final, after, ?_, ?_, hfinal⟩
          · rw [← hafter, List.takeWhile_append_dropWhile]
          · exact fun c hc => List.mem_takeWhile_imp hc
    case h_2 => cases h
  · rintro ⟨parameters, final, after, rfl, hparameters, hfinal⟩
    have hafter : (parameters ++ final :: after).dropWhile isParameter = final :: after := by
      rw [List.dropWhile_append_of_pos hparameters,
        List.dropWhile_cons_of_neg (by simp [isParameter_of_isAlpha hfinal])]
    simp [sequenceLength?, hafter, hfinal]

theorem length_withoutSequencesFrom_le (skip : Nat) (cs : List Char) :
    (withoutSequencesFrom skip cs).length ≤ cs.length := by
  induction cs generalizing skip with
  | nil => simp [withoutSequencesFrom]
  | cons c rest ih =>
      cases skip with
      | succ skip => exact (ih skip).trans (Nat.le_succ _)
      | zero =>
          rw [withoutSequencesFrom]
          split
          · exact (ih _).trans (Nat.le_succ _)
          · exact Nat.succ_le_succ (ih 0)

theorem withoutSequencesFrom_eq_self_iff (cs : List Char) :
    withoutSequencesFrom 0 cs = cs ↔ ∀ rest, rest <:+ cs → ¬ StartsSequence rest := by
  induction cs with
  | nil =>
      have hempty : ¬ StartsSequence [] := by
        rintro ⟨_, _, _, h, -⟩
        cases h
      simp [withoutSequencesFrom, hempty]
  | cons c rest ih =>
      simp only [List.suffix_cons_iff, forall_eq_or_imp]
      rw [← ih, ← sequenceLength?_isSome_iff, withoutSequencesFrom]
      cases hlength : sequenceLength? (c :: rest) with
      | none => simp
      | some length =>
          have hshorter := length_withoutSequencesFrom_le (length - 1) rest
          have hne : withoutSequencesFrom (length - 1) rest ≠ c :: rest := by
            intro hsame
            rw [hsame, List.length_cons] at hshorter
            omega
          simp [hne]

theorem withoutSequences_eq_self_iff (s : String) :
    withoutSequences s = s ↔ ¬ HoldsSequence s := by
  rw [withoutSequences, ← String.toList_inj, String.toList_ofList,
    withoutSequencesFrom_eq_self_iff, HoldsSequence]
  push Not
  rfl

theorem withoutSequences_of_not_mem {s : String} (h : '\x1b' ∉ s.toList) :
    withoutSequences s = s := by
  rw [withoutSequences_eq_self_iff]
  rintro ⟨_, hsuffix, _, _, _, rfl, -⟩
  exact h (hsuffix.subset List.mem_cons_self)

end Text

/-! ## Documents -/

namespace Json

inductive OfTexts : Json → Prop
  | null : OfTexts .null
  | str (value : String) : OfTexts (.str value)
  | arr {items : List Json} (h : ∀ item ∈ items, OfTexts item) : OfTexts (.arr items)
  | obj {members : List (String × Json)} (h : ∀ m ∈ members, OfTexts m.2) : OfTexts (.obj members)

theorem digitChar_ne_escape (d : Nat) : Nat.digitChar d ≠ '\x1b' := by
  grind [Nat.digitChar]

theorem escape_not_mem_toDigitsCore {base fuel : Nat} :
    ∀ {n : Nat} {digits : List Char}, '\x1b' ∉ digits →
      '\x1b' ∉ Nat.toDigitsCore base fuel n digits := by
  induction fuel with
  | zero => exact fun h => h
  | succ fuel ih =>
      intro n digits h
      have hnext : '\x1b' ∉ Nat.digitChar (n % base) :: digits := by
        simp [h, (digitChar_ne_escape (n % base)).symm]
      rw [Nat.toDigitsCore]
      split
      · exact hnext
      · exact ih hnext

theorem escape_not_mem_escapeUnit (unit : Nat) : '\x1b' ∉ escapeUnit unit := by
  have hdigits : '\x1b' ∉ Nat.toDigits 16 unit := escape_not_mem_toDigitsCore List.not_mem_nil
  simp [escapeUnit, hexDigits, Number.padZeros, hdigits]

theorem escape_not_mem_escapeChar (c : Char) : '\x1b' ∉ escapeChar c := by
  unfold escapeChar
  split
  case h_8 =>
    split_ifs with hshown
    · simp only [List.mem_singleton]
      rintro rfl
      simp at hshown
    · exact escape_not_mem_escapeUnit _
    · simp [escape_not_mem_escapeUnit]
  all_goals simp

theorem escape_not_mem_append {s t : String} (hs : '\x1b' ∉ s.toList) (ht : '\x1b' ∉ t.toList) :
    '\x1b' ∉ (s ++ t).toList := by
  simp [hs, ht]

theorem escape_not_mem_quoted (s : String) : '\x1b' ∉ (quoted s).toList := by
  simp [quoted, escape_not_mem_escapeChar]

theorem escape_not_mem_intercalate {separator : String} {items : List String}
    (hseparator : '\x1b' ∉ separator.toList) (hitems : ∀ item ∈ items, '\x1b' ∉ item.toList) :
    '\x1b' ∉ (separator.intercalate items).toList := by
  rw [String.toList_intercalate]
  intro h
  rcases Text.mem_intercalate h with h | ⟨_, hitem, h⟩
  · exact hseparator h
  · obtain ⟨item, hmem, rfl⟩ := List.mem_map.mp hitem
    exact hitems item hmem h

theorem escape_not_mem_bracketed {opening closing : String} {depth : Option Nat}
    {items : List String} (hopening : '\x1b' ∉ opening.toList)
    (hclosing : '\x1b' ∉ closing.toList) (hitems : ∀ item ∈ items, '\x1b' ∉ item.toList) :
    '\x1b' ∉ (bracketed opening closing depth items).toList := by
  have hjoined : ∀ separator : String, '\x1b' ∉ separator.toList →
      '\x1b' ∉ (separator.intercalate items).toList :=
    fun separator h => escape_not_mem_intercalate h hitems
  have hline : ∀ level : Nat,
      '\x1b' ∉ ("\n" ++ String.ofList (List.replicate (2 * level) ' ')).toList := by simp
  unfold bracketed
  split
  · exact escape_not_mem_append hopening hclosing
  · exact escape_not_mem_append (escape_not_mem_append hopening (hjoined ", " (by decide))) hclosing
  · refine escape_not_mem_append (escape_not_mem_append (escape_not_mem_append
      (escape_not_mem_append hopening (hline _)) (hjoined _ ?_)) (hline _)) hclosing
    exact escape_not_mem_append (by decide) (hline _)

theorem writeItems_eq_map (depth : Option Nat) (items : List Json) :
    writeItems depth items = items.map (write depth) := by
  induction items with
  | nil => rfl
  | cons item rest ih => rw [writeItems, ih, List.map_cons]

theorem writeMembers_eq_map (depth : Option Nat) (members : List (String × Json)) :
    writeMembers depth members =
      members.map fun m => quoted m.1 ++ ": " ++ write depth m.2 := by
  induction members with
  | nil => rfl
  | cons m rest ih => rw [writeMembers, ih, List.map_cons]

theorem OfTexts.escape_not_mem {value : Json} (h : value.OfTexts) (depth : Option Nat) :
    '\x1b' ∉ (write depth value).toList := by
  induction h generalizing depth with
  | null => simp [write]
  | str value => exact escape_not_mem_quoted value
  | @arr items _ ih =>
      rw [write, writeItems_eq_map]
      refine escape_not_mem_bracketed (by decide) (by decide) fun text htext => ?_
      obtain ⟨item, hitem, rfl⟩ := List.mem_map.mp htext
      exact ih item hitem _
  | @obj members _ ih =>
      rw [write, writeMembers_eq_map]
      refine escape_not_mem_bracketed (by decide) (by decide) fun text htext => ?_
      obtain ⟨m, hm, rfl⟩ := List.mem_map.mp htext
      simp [escape_not_mem_quoted, ih m hm]

theorem OfTexts.withoutSequences_pretty {value : Json} (h : value.OfTexts) :
    Text.withoutSequences (value.pretty ++ "\n") = value.pretty ++ "\n" := by
  refine Text.withoutSequences_of_not_mem ?_
  simp [pretty, h.escape_not_mem]

theorem OfTexts.optional (text : Option String) : OfTexts (text.elim .null .str) := by
  cases text with
  | none => exact .null
  | some text => exact .str text

end Json

namespace Report

open Json

theorem diagnosticDocument_ofTexts (d : Diagnostic) : (diagnosticDocument d).OfTexts := by
  refine .obj fun m hm => ?_
  simp only [List.mem_cons, List.not_mem_nil, or_false] at hm
  rcases hm with rfl | rfl | rfl | rfl | rfl
  · exact .str _
  · exact .str _
  · exact .str _
  · exact .optional d.entity
  · exact .optional d.column

theorem recordNames_ofTexts (db : Database) : (Json.obj (recordNames db)).OfTexts := by
  refine .obj fun m hm => ?_
  obtain ⟨e, -, rfl⟩ := List.mem_map.mp (mem_ofMembers hm)
  exact .str e.name

theorem databaseDocument_ofTexts (db : Database) : (databaseDocument db).OfTexts := by
  refine .obj fun m hm => ?_
  simp only [List.mem_cons, List.not_mem_nil, or_false] at hm
  rcases hm with rfl | rfl | rfl
  · exact .str db.name
  · exact recordNames_ofTexts db
  · refine .arr fun item hitem => ?_
    obtain ⟨d, -, rfl⟩ := List.mem_map.mp hitem
    exact diagnosticDocument_ofTexts d

end Report

end RecordLoom
