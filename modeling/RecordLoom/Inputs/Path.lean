/-!
Paths with `/` between their parts.  A normal path has no empty part and no part `.`; parts `..`
stay, since what they mean depends on the directories there are.
-/

namespace RecordLoom.Inputs

structure Path where
  root : String
  parts : List String
  deriving DecidableEq, Repr

namespace Path

/-- Exactly two slashes at the start stay; any other number counts as one. -/
def rootOf (text : String) : String :=
  match (text.toList.takeWhile (· = '/')).length with
  | 0 => ""
  | 2 => "//"
  | _ => "/"

def ofString (text : String) : Path :=
  ⟨rootOf text, ((text.toList.splitOn '/').map String.ofList).filter fun p => p != "" && p != "."⟩

def toString (p : Path) : String :=
  if p.root.isEmpty && p.parts.isEmpty then "." else p.root ++ "/".intercalate p.parts

def isAbsolute (p : Path) : Bool := !p.root.isEmpty

def name (p : Path) : String := p.parts.getLast?.getD ""

def parent (p : Path) : Path := { p with parts := p.parts.dropLast }

def enter (p : Path) (reached : List String) (part : String) : List String :=
  if part == ".." then
    match reached with
    | [] => if p.isAbsolute then [] else [part]
    | last :: above => if last == ".." then part :: reached else above
  else part :: reached

/-- The path without parts `..` after others, as if every directory on the way were there. -/
def collapsed (p : Path) : Path := { p with parts := (p.parts.foldl p.enter []).reverse }

/-- The directories on the way to a path, collapsed: what its parts but the last lead to. -/
def above (p : Path) : List Path :=
  (List.range p.parts.length).map fun count => { p with parts := p.parts.take count }.collapsed

end Path

end RecordLoom.Inputs
