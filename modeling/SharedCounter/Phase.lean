/-!
# Phases of a count

The coordinator waits for signals and completions (`running`), then empties the signal buffers
without waiting (`draining`), then stops changing the counter (`done`).
-/

namespace SharedCounter

/-- How far a count has come. -/
inductive Phase where
  | running
  | draining
  | done
  deriving DecidableEq, Repr

namespace Phase

/-- The word for a phase in events and log lines. -/
def name : Phase → String
  | running => "running"
  | draining => "draining"
  | done => "done"

/-- The phase as a title. -/
def title : Phase → String
  | running => "Running"
  | draining => "Draining"
  | done => "Done"

theorem name_injective {a b : Phase} (h : a.name = b.name) : a = b := by
  cases a <;> cases b <;> simp_all [name]

end Phase

end SharedCounter
