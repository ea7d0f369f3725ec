/-!
# Panics

What stops everything at once, and the message that it leaves.
-/

namespace SharedCounter

/-- What stops everything at once. -/
inductive Panic where
  /-- A sum left its range. -/
  | sumOverflow
  /-- A bus was asked for with too large a ring. -/
  | ringTooLarge
  /-- The ring of a bus, rounded up, does not fit into memory. -/
  | ringUnplaceable
  /-- A subscriber asked for too large a queue. -/
  | queueTooLarge
  /-- Too many permits were given to a gate at once. -/
  | permitsTooMany
  /-- A gate was given so many permits that it holds too many. -/
  | permitsOverflow (given : Nat)
  deriving DecidableEq, Repr

/-- The message of a panic. -/
def Panic.message : Panic → String
  | sumOverflow => "attempt to add with overflow"
  | ringTooLarge => "broadcast channel capacity exceeded `usize::MAX / 2`"
  | ringUnplaceable => "capacity overflow"
  | queueTooLarge =>
    "a semaphore may not have more than MAX_PERMITS permits (2305843009213693951)"
  | permitsTooMany => "cannot add more than MAX_PERMITS permits (2305843009213693951)"
  | permitsOverflow given =>
    s!"number of added permits ({given}) would overflow MAX_PERMITS (2305843009213693951)"

end SharedCounter
