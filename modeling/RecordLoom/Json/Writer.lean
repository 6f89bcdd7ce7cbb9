import RecordLoom.Json.Basic
import RecordLoom.Number.Shortest

/-!
Writer for JSON text, on one line or with one item on each line.  All output is ASCII.
-/

namespace RecordLoom.Json

open RecordLoom.Number

def hexDigits (width n : Nat) : List Char := padZeros width (Nat.toDigits 16 n)

def escapeUnit (unit : Nat) : List Char := '\\' :: 'u' :: hexDigits 4 unit

def escapeChar (c : Char) : List Char :=
  match c with
  | '"' => ['\\', '"']
  | '\\' => ['\\', '\\']
  | '\n' => ['\\', 'n']
  | '\r' => ['\\', 'r']
  | '\t' => ['\\', 't']
  | '\x08' => ['\\', 'b']
  | '\x0c' => ['\\', 'f']
  | c =>
      if 32 ≤ c.toNat && c.toNat < 127 then [c]
      else if c.toNat < 0x10000 then escapeUnit c.toNat
      else
        let beyond := c.toNat - 0x10000
        escapeUnit (0xd800 + beyond / 1024) ++ escapeUnit (0xdc00 + beyond % 1024)

def quoted (s : String) : String := .ofList ('"' :: s.toList.flatMap escapeChar ++ ['"'])

def numberText (x : Double) : String :=
  if x.isNaN then "NaN"
  else if x.isInfinite then if x.isNegative then "-Infinity" else "Infinity"
  else x.text

/-- Items between brackets: on one line if `depth` is none, else on lines of their own. -/
def bracketed (opening closing : String) (depth : Option Nat) (items : List String) : String :=
  match items, depth with
  | [], _ => opening ++ closing
  | items, none => opening ++ ", ".intercalate items ++ closing
  | items, some depth =>
      let line := fun (level : Nat) => "\n" ++ String.ofList (List.replicate (2 * level) ' ')
      opening ++ line (depth + 1) ++ ("," ++ line (depth + 1)).intercalate items ++
        line depth ++ closing

mutual

def write (depth : Option Nat) : Json → String
  | null => "null"
  | bool value => if value then "true" else "false"
  | int value => toString value
  | real value => numberText value
  | str value => quoted value
  | arr items => bracketed "[" "]" depth (writeItems (depth.map (· + 1)) items)
  | obj members => bracketed "\x7b" "\x7d" depth (writeMembers (depth.map (· + 1)) members)

def writeItems (depth : Option Nat) : List Json → List String
  | [] => []
  | item :: rest => write depth item :: writeItems depth rest

def writeMembers (depth : Option Nat) : List (String × Json) → List String
  | [] => []
  | (key, value) :: rest =>
      (quoted key ++ ": " ++ write depth value) :: writeMembers depth rest

end

def compact (value : Json) : String := write none value

def pretty (value : Json) : String := write (some 0) value

end RecordLoom.Json
