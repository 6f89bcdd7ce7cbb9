/-!
Distinct names: a name that is taken gets the first free number.
-/

namespace RecordLoom.Naming

/-- So many numbers are tried before a name is given out twice. -/
def dedupeLimit : Nat := 1000

def numbered (name : String) (number : Nat) : String := name ++ toString number

/-- The first of the names numbered from `number` on that is free, within `fuel` tries. -/
def firstFree? (name : String) (taken : List String) : Nat → Nat → Option String
  | 0, _ => none
  | fuel + 1, number =>
      if taken.contains (numbered name number) then firstFree? name taken fuel (number + 1)
      else some (numbered name number)

/-- The name itself if it is free, else the first free numbered one. -/
def freeName (name : String) (taken : List String) : String :=
  if taken.contains name then (firstFree? name taken dedupeLimit 0).getD name else name

def claim (name : String) (taken : List String) : List String :=
  if taken.contains name then taken else name :: taken

def dedupe (name : String) (taken : List String) : String × List String :=
  let chosen := freeName name taken
  (chosen, claim chosen taken)

def dedupeTimes (name : String) (taken : List String) : Nat → String × List String
  | 0 => (name, taken)
  | 1 => dedupe name taken
  | count + 1 => dedupeTimes name (dedupe name taken).2 count

end RecordLoom.Naming
