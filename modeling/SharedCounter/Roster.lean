import SharedCounter.Event

/-!
# Rosters: who has started and not finished

* `Roster` : the names of the producers at work, in increasing order and without repetition;
* `Roster.update` : a starting producer is entered, a finished one is struck out, and all other
  events change nothing;
* `Roster.ofEvents` : the roster after a history of events.
-/

namespace SharedCounter

/-- The names at work, in increasing order. Names are ordered by their code points, which is also
the order of their UTF-8 bytes. -/
structure Roster where
  names : List String := []
  deriving DecidableEq, Repr

namespace Roster

/-- Enters a name into an increasing list, unless it stands there. -/
def enter (name : String) : List String → List String
  | [] => [name]
  | n :: ns =>
    if name < n then name :: n :: ns
    else if name = n then n :: ns
    else n :: enter name ns

/-- The roster after one more event. -/
def update (r : Roster) (e : Event) : Roster :=
  match e.producer, e.kind with
  | some name, .producerStarting => { r with names := enter name r.names }
  | some name, .producerFinished => { r with names := r.names.filter (· ≠ name) }
  | _, _ => r

/-- The roster after a history of events. -/
def ofEvents (es : List Event) : Roster := es.foldl update {}

/-- The name under which the roster subscribes to events. -/
def subscriberName : String := "AliveTracker"

theorem mem_enter {name x : String} {ns : List String} :
    x ∈ enter name ns ↔ x = name ∨ x ∈ ns := by
  induction ns with
  | nil => simp [enter]
  | cons n ns ih =>
    unfold enter
    split
    · simp
    · split <;> simp_all
      grind

end Roster

end SharedCounter
