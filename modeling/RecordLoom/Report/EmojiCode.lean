import RecordLoom.Text.Blank
import RecordLoom.Text.Case
import RecordLoom.Text.Emoji
import RecordLoom.Text.Replace

/-!
Emoji codes.  A name between two colons stands for its emoji, in any case, and can ask to be drawn
as text or as emoji.  A pair of colons around no name stays, and neither of the two belongs to
another code.
-/

namespace RecordLoom.Report

def isInCode (c : Char) : Bool := c != ':' && !Text.isBlank c

def codeBody? (cs : List Char) : Option (List Char × List Char) :=
  match cs.dropWhile isInCode with
  | ':' :: after => some (cs.takeWhile isInCode, after)
  | _ => none

theorem length_afterCode_lt {cs body after : List Char} (h : codeBody? cs = some (body, after)) :
    after.length < cs.length := by
  unfold codeBody? at h
  split at h
  · rename_i tail found
    have shorter := (List.dropWhile_suffix isInCode (l := cs)).length_le
    rw [found] at shorter
    simp only [Option.some.injEq, Prod.mk.injEq] at h
    rw [← h.2]
    simp only [List.length_cons] at shorter
    omega
  · cases h

def presentations : List (String × Char) := [("-emoji", '\ufe0f'), ("-text", '\ufe0e')]

def emojiOfCode? (code : String) : Option (List Char) :=
  let named := fun (name : String) => (Text.emojiNamed? (Text.lower name)).map String.toList
  match presentations.find? fun (ending, _) => Text.endsWith code ending with
  | some (ending, mark) => (named (Text.dropLast code ending.length)).map (· ++ [mark])
  | none => named code

def expandCodes (cs : List Char) : List Char :=
  match cs with
  | [] => []
  | c :: rest =>
      if c = ':' then
        match h : codeBody? rest with
        | some (body, after) =>
            have := length_afterCode_lt h
            (emojiOfCode? (.ofList body)).getD (':' :: body ++ [':']) ++ expandCodes after
        | none => ':' :: expandCodes rest
      else c :: expandCodes rest
termination_by cs.length

end RecordLoom.Report
