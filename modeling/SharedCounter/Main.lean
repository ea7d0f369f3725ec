import SharedCounter.CommandLine

/-!
# The program

Prints the report of the command and exits with its code.
-/

/-- Runs the default configuration and prints what came of it. -/
def main (_ : List String) : IO UInt32 := do
  let report := SharedCounter.commandReport
  IO.print report.stdout
  IO.eprint report.stderr
  return report.code.toUInt32
