import SharedCounter.Run

/-!
# The command line

The command runs the default configuration and prints the counter; it takes no arguments into
account.

* `Report` : what a command writes, and its exit code;
* `Result.report` : the report of what a run came to.
-/

namespace SharedCounter

/-- What a command writes, and the code that it exits with. -/
structure Report where
  stdout : String := ""
  stderr : String := ""
  code : Nat := 0
  deriving DecidableEq, Repr

/-- A counter is printed; an error is told with its label, and a panic with its message. -/
def Result.report : Result → Report
  | returned (.ok l) => { stdout := "The magic number is: " ++ toString l.value ++ "\n" }
  | returned (.error e) => { stderr := "[" ++ e.label ++ "] " ++ e.display ++ "\n", code := 1 }
  | panicked p => { stderr := p.message ++ "\n", code := 101 }

/-- What a run of orderly producers comes to, if it comes to an end. -/
def Config.outcome? (c : Config) (subscribers : List Subscriber) : Option Result :=
  match Run.start c (Team.orderlyActs c) subscribers with
  | .ok r => r.execute.result?
  | .error p => some (.panicked p)

/-- What the command writes. -/
def commandReport : Report :=
  match ({} : Config).outcome? [] with
  | some r => r.report
  | none => {}

end SharedCounter
