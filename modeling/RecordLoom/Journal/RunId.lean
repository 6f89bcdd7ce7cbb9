/-!
Run ids.  An id is current from where it is set; a scope has an id of its own and gives back the id
that was current before it, whatever happened inside.
-/

namespace RecordLoom.Journal

/-- The current id, and the ids that the open scopes give back, the innermost first. -/
structure RunIds where
  current : Option String
  saved : List (Option String)
  deriving DecidableEq, Repr

inductive ScopeAction where
  | assign (id : String)
  | clear
  | enter (id : String)
  | leave
  deriving DecidableEq, Repr

namespace RunIds

def empty : RunIds := ⟨none, []⟩

def choose (wanted : Option String) (fresh : String) : String :=
  match wanted with
  | some id => if id.isEmpty then fresh else id
  | none => fresh

def step (ids : RunIds) : ScopeAction → RunIds
  | .assign id => { ids with current := some id }
  | .clear => { ids with current := none }
  | .enter id => ⟨some id, ids.current :: ids.saved⟩
  | .leave =>
      match ids.saved with
      | before :: rest => ⟨before, rest⟩
      | [] => ids

def run (ids : RunIds) (actions : List ScopeAction) : RunIds := actions.foldl step ids

end RunIds

end RecordLoom.Journal
