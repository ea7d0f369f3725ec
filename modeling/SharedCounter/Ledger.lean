import SharedCounter.Limits
import SharedCounter.Effect

/-!
# Ledgers: what a coordinator has booked

* `Ledger` : the final value, the signals applied of each effect, how many of them came in while
  draining, and the completions consumed;
* `Ledger.applied?` : all signals applied, when that is still a count;
* `Ledger.book?` : one more signal of an effect.
-/

namespace SharedCounter

/-- The books of one count. -/
structure Ledger where
  value : Int := 0
  increments : Nat := 0
  decrements : Nat := 0
  /-- Signals applied while draining; `increments` and `decrements` include them. -/
  drained : Nat := 0
  completions : Nat := 0
  deriving DecidableEq, Repr

namespace Ledger

/-- The signals applied of one effect. -/
def of (l : Ledger) : Effect → Nat
  | .increment => l.increments
  | .decrement => l.decrements

/-- The signals applied of both effects, unless that leaves the range of counts. -/
def applied? (l : Ledger) : Option Nat := addCount l.increments l.decrements

/-- One more signal applied, unless its count leaves the range. -/
def book? (l : Ledger) : Effect → Option Ledger
  | .increment => (addCount l.increments 1).map fun n => { l with increments := n }
  | .decrement => (addCount l.decrements 1).map fun n => { l with decrements := n }

theorem applied?_eq_some_iff {l : Ledger} {n : Nat} :
    l.applied? = some n ↔ n = l.increments + l.decrements ∧ n ≤ countMax :=
  addCount_eq_some_iff

end Ledger

end SharedCounter
