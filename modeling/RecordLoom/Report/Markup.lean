import RecordLoom.Report.EmojiCode
import RecordLoom.Text.Width

/-!
Text as a terminal shows it.  A terminal reads square brackets as style marks, and a backslash
before a mark makes it plain text; what it shows has no marks.  Emoji codes are read in each piece
of plain text by itself.
-/

namespace RecordLoom.Report

def startsMark (c : Char) : Bool := c.isLower || c = '#' || c = '/' || c = '@'

def isBracket (c : Char) : Bool := c = '[' || c = ']'

def markBody? : List Char → Option (List Char × List Char)
  | [] => none
  | c :: rest =>
      if startsMark c then
        match rest.dropWhile fun d => !isBracket d with
        | ']' :: after => some (c :: rest.takeWhile fun d => !isBracket d, after)
        | _ => none
      else none

theorem length_after_lt {cs body after : List Char} (h : markBody? cs = some (body, after)) :
    after.length < cs.length := by
  unfold markBody? at h
  split at h
  · cases h
  · rename_i c rest
    split at h
    · split at h
      · rename_i tail found
        have shorter := (List.dropWhile_suffix (fun d => !isBracket d) (l := rest)).length_le
        rw [found] at shorter
        simp only [Option.some.injEq, Prod.mk.injEq] at h
        rw [← h.2]
        simp only [List.length_cons] at shorter ⊢
        omega
      · cases h
    · cases h

def backslashes (count : Nat) : List Char := List.replicate count '\\'

/-- Escapes every mark; `pending` backslashes were read and not written. -/
def escapeFrom (pending : Nat) (cs : List Char) : List Char :=
  match cs with
  | [] => backslashes pending
  | c :: rest =>
      if c = '\\' then escapeFrom (pending + 1) rest
      else if c = '[' then
        match h : markBody? rest with
        | some (body, after) =>
            have := length_after_lt h
            backslashes (2 * pending + 1) ++ '[' :: body ++ ']' :: escapeFrom 0 after
        | none => backslashes pending ++ '[' :: escapeFrom 0 rest
      else backslashes pending ++ c :: escapeFrom 0 rest
termination_by cs.length

/-- A lone backslash at the end is doubled. -/
def closeBackslash (cs : List Char) : List Char :=
  match cs.reverse with
  | '\\' :: '\\' :: _ => cs
  | '\\' :: _ => cs ++ ['\\']
  | _ => cs

def escape (s : String) : String := .ofList (closeBackslash (escapeFrom 0 s.toList))

def prepend (cs : List Char) : List (List Char) → List (List Char)
  | [] => [cs]
  | piece :: pieces => (cs ++ piece) :: pieces

/-- The pieces of plain text that marks leave; `pending` backslashes were read and not written.  A
mark that is made plain is a piece of its own, and so are the backslashes before a mark. -/
def plainPieces (pending : Nat) (cs : List Char) : List (List Char) :=
  match cs with
  | [] => [backslashes pending]
  | c :: rest =>
      if c = '\\' then plainPieces (pending + 1) rest
      else if c = '[' then
        match h : markBody? rest with
        | some (body, after) =>
            have := length_after_lt h
            let shown := if pending % 2 = 1 then '[' :: body ++ [']'] else []
            [] :: backslashes (pending / 2) :: shown :: plainPieces 0 after
        | none => prepend (backslashes (pending - 1) ++ ['[']) (plainPieces 0 rest)
      else prepend (backslashes pending ++ [c]) (plainPieces 0 rest)
termination_by cs.length

def isUnshown (c : Char) : Bool := [0x07, 0x08, 0x0b, 0x0c, 0x0d].contains c.toNat

def tabWidth : Nat := 8

/-- A line given as the parts between its tabs.  A tab is one space and as many more as lead to the
next multiple of the tab width; `column` cells stand before the line. -/
def expandTabs (column : Nat) : List (List Char) → List Char
  | [] => []
  | [last] => last
  | part :: rest =>
      let shown := part ++ [' ']
      let after := column + Text.cellCount shown
      let fill := (tabWidth - after % tabWidth) % tabWidth
      shown ++ List.replicate fill ' ' ++ expandTabs (after + fill) rest

def shownLines (s : String) : List String :=
  let shown := ((plainPieces 0 s.toList).flatMap expandCodes).filter fun c => !isUnshown c
  (shown.splitOn '\n').map fun line => .ofList (expandTabs 0 (line.splitOn '\t'))

end RecordLoom.Report
