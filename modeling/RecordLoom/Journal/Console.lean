/-!
Console output makes way while something else draws on the terminal: it is suppressed from where a
block is entered to where any block is left.
-/

namespace RecordLoom.Journal

inductive BlockAction where
  | enter
  | leave
  deriving DecidableEq, Repr

/-- Whether console output is suppressed after an action; only the last one counts. -/
def suppressedAfter : BlockAction → Bool
  | .enter => true
  | .leave => false

def isSuppressed (actions : List BlockAction) : Bool :=
  actions.foldl (fun _ action => suppressedAfter action) false

end RecordLoom.Journal
