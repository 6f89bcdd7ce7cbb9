import RecordLoom.Number.Shortest
import RecordLoom.Text.Printable

/-!
Quoted forms of texts and byte strings for messages and comments.  The quote is `'`, or `"` for a
text that holds only quotes of the first kind.
-/

namespace RecordLoom.Text

open RecordLoom.Number

def hexEscape (letter : Char) (width code : Nat) : List Char :=
  '\\' :: letter :: padZeros width (Nat.toDigits 16 code)

def codeEscape (code : Nat) : List Char :=
  if code < 0x100 then hexEscape 'x' 2 code
  else if code < 0x10000 then hexEscape 'u' 4 code
  else hexEscape 'U' 8 code

def quoteChar (quote c : Char) : List Char :=
  if c = quote || c = '\\' then ['\\', c]
  else if c = '\n' then ['\\', 'n']
  else if c = '\r' then ['\\', 'r']
  else if c = '\t' then ['\\', 't']
  else if isPrintable c then [c]
  else codeEscape c.toNat

def chooseQuote (cs : List Char) : Char :=
  if cs.contains '\'' && !cs.contains '"' then '"' else '\''

def quoteChars (cs : List Char) : List Char :=
  let quote := chooseQuote cs
  quote :: cs.flatMap (quoteChar quote) ++ [quote]

def quoted (s : String) : String := .ofList (quoteChars s.toList)

def quoteByte (quote : Char) (byte : UInt8) : List Char :=
  if byte.toNat < 128 then quoteChar quote (Char.ofNat byte.toNat)
  else hexEscape 'x' 2 byte.toNat

def quotedBytes (bytes : List UInt8) : String :=
  let quote := chooseQuote (bytes.map fun byte => Char.ofNat byte.toNat)
  .ofList ('b' :: quote :: bytes.flatMap (quoteByte quote) ++ [quote])

end RecordLoom.Text
