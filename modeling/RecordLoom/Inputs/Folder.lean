import RecordLoom.Failure
import RecordLoom.Inputs.Path

/-!
The files that a run can see.
-/

namespace RecordLoom.Inputs

inductive Entry where
  | file (bytes : List UInt8)
  | directory
  /-- A file that exists and cannot be opened. -/
  | unreadable (reason : String)
  /-- Something that cannot even be looked at, such as a name that is too long. -/
  | hidden (reason : String)
  deriving DecidableEq, Repr

def Entry.isHidden : Entry → Bool
  | hidden _ => true
  | _ => false

/-- Entries by their paths, collapsed.  Relative paths start from the working directory. -/
structure Folder where
  entries : List (Path × Entry)

namespace Folder

/-- Whether a collapsed path leads to a directory: what holds an entry is one, and so are the start
and all that is above it. -/
def isDirectory (folder : Folder) (path : Path) : Bool :=
  path.parts.all (· == "..") || folder.entries.any fun (place, entry) =>
    (entry == .directory && place == path) ||
      (place.root == path.root && path.parts.isPrefixOf place.parts &&
        path.parts.length < place.parts.length)

/-- Resolves `..` part by part; what stands before a part must be a directory.  `reached` holds the
directories entered, the latest first. -/
def resolveFrom (folder : Folder) (path : Path) : List String → List String → Option Path
  | reached, [] => some { path with parts := reached.reverse }
  | reached, part :: rest =>
      if folder.isDirectory { path with parts := reached.reverse } then
        folder.resolveFrom path (path.enter reached part) rest
      else none

def resolve (folder : Folder) (path : Path) : Option Path := folder.resolveFrom path [] path.parts

def at? (folder : Folder) (place : Path) : Option Entry :=
  if folder.isDirectory place then some .directory else folder.entries.lookup place

def entry? (folder : Folder) (path : Path) : Option Entry :=
  (folder.resolve path).bind folder.at?

def isFile (folder : Folder) (path : Path) : Except Failure Bool :=
  match folder.entry? path with
  | some (.file _) | some (.unreadable _) => .ok true
  | some (.hidden reason) => .error (.pathHidden path.toString reason)
  | some .directory | none => .ok false

def namesDirectory (text : String) : Bool :=
  ["/", "."].contains ((text.toList.splitOn '/').getLast?.elim "" fun part =>
    if part.isEmpty then "/" else .ofList part)

/-- What stands at a path as it was written; only a directory can be named like one. -/
def entryNamed? (folder : Folder) (text : String) : Option Entry :=
  if text.isEmpty then none
  else
    match folder.entry? (.ofString text) with
    | some .directory => some .directory
    | some entry => if namesDirectory text then none else some entry
    | none => none

/-- Whether a file can be put at a path once the directories on the way are made: nothing else
stands in their places, and the place of the file can be looked at and is no directory, also none of
those. -/
def isWritable (folder : Folder) (path : Path) : Bool :=
  !folder.isDirectory path.collapsed && !path.above.contains path.collapsed &&
    (folder.at? path.collapsed).all (!·.isHidden) &&
    path.above.all fun place => (folder.at? place).all (· == .directory)

def resolvedName (folder : Folder) (path : Path) : String :=
  ((folder.resolve path).getD path).toString

end Folder

end RecordLoom.Inputs
