import RecordLoom.Entity.Basic
import RecordLoom.Report.Markup

/-!
Lines that tell a user how a command goes.
-/

namespace RecordLoom.Report

inductive Tone where
  | success
  | error
  | warning
  | info
  | bare
  deriving DecidableEq, Repr

namespace Tone

def names : List (String × Tone) :=
  [("success", success), ("error", error), ("warning", warning), ("info", info), ("none", bare)]

def ofName (name : String) : Tone := (names.lookup name).getD bare

def mark : Tone → String
  | success => "[green]✓[/green] "
  | error => "[red]✗[/red] "
  | warning => "[yellow]![/yellow] "
  | info => "  "
  | bare => ""

def ofSeverity : Severity → Tone
  | .error => error
  | .warning => warning
  | .info => info

end Tone

def padding (indent : Int) : String := .ofList (List.replicate indent.toNat ' ')

def statusLines (tone : Tone) (indent : Int) (message : String) : List String :=
  shownLines (padding indent ++ tone.mark ++ escape message)

def announceLines (indent : Int) (message : String) : List String :=
  shownLines (padding indent ++ message ++ "...")

def countNoun (count : Int) (singular : String) (plural : Option String) : String :=
  if count = 1 then "1 " ++ singular
  else
    let many := (plural.filter fun word => !word.isEmpty).getD (singular ++ "s")
    toString count ++ " " ++ many

def diagnosticLines (diagnostics : List Diagnostic) : List String :=
  diagnostics.flatMap fun d => statusLines (.ofSeverity d.severity) 0 d.message

def countWarnings (diagnostics : List Diagnostic) : Nat :=
  diagnostics.countP fun d => d.severity != .info

end RecordLoom.Report
