import SharedCounter.Channel
import SharedCounter.Event
import SharedCounter.Ledger
import SharedCounter.Progress

/-!
# Coordinators: the only ones that change the counter

* `Inlets` : the two signal channels and the completion channel that a coordinator receives from;
* `Coordinator` : the counter, the completions still to come, and the books;
* `serve` : while running, one of the three sources (`Branch`) is served, in any order; a source is
  served when it holds an item or has just closed, and otherwise `serve` is undefined;
* `drainStep` : after the last completion the signal channels are emptied without waiting, one item
  from the first, one from the second, until neither has any;
* `step` : one step, with the branch that is chosen while running;
* `run` : as many steps as can be taken without waiting, the sources being asked in an order that
  turns (`preference`);
* `Outcome` : the books, or the completions that never came, or a sum out of range.
-/

namespace SharedCounter

/-- The channels that a coordinator receives from. -/
structure Inlets where
  first : Channel
  second : Channel
  completions : Channel
  deriving DecidableEq, Repr

/-- How a coordinator ended. -/
inductive Outcome where
  | counted (ledger : Ledger)
  /-- Every completion sender went while `remaining` completions were missing. -/
  | lost (remaining : Nat)
  /-- The counter or a count would have left its range. -/
  | overflowed
  deriving DecidableEq, Repr

/-- One of the two signal channels. -/
inductive Side where
  | first
  | second
  deriving DecidableEq, Repr

/-- A source that a running coordinator can serve. -/
inductive Branch where
  | signals (side : Side)
  | completions
  deriving DecidableEq, Repr

/-- What a coordinator is doing. -/
inductive Stage where
  | running
  /-- Emptying the buffers: `before` signals were applied when that began, the channel on side
  `turn` is next, and `progressed` tells whether this round has found any. -/
  | draining (before : Nat) (turn : Side) (progressed : Bool)
  /-- The outcome stands, and the receiving ends are still held. -/
  | leaving (outcome : Outcome)
  | ended (outcome : Outcome)
  deriving DecidableEq, Repr

/-- A coordinator at work. -/
structure Coordinator where
  counter : Int
  /-- Completions still to come. -/
  remaining : Nat
  ledger : Ledger
  firstEffect : Effect := .increment
  secondEffect : Effect := .decrement
  /-- Whether the first channel is still received from while running. -/
  firstOpen : Bool := true
  secondOpen : Bool := true
  stage : Stage := .running
  deriving DecidableEq, Repr

namespace Coordinator

/-- A coordinator that waits for `producers` completions. -/
def create (initial : Int) (producers : Nat) (firstEffect secondEffect : Effect) : Coordinator where
  counter := initial
  remaining := producers
  ledger := { value := initial }
  firstEffect := firstEffect
  secondEffect := secondEffect

/-- The phase of a coordinator. -/
def phase (c : Coordinator) : Phase :=
  match c.stage with
  | .running => .running
  | .draining .. => .draining
  | _ => .done

/-- The outcome, once it stands. -/
def outcome? (c : Coordinator) : Option Outcome :=
  match c.stage with
  | .leaving o | .ended o => some o
  | _ => none

def effect (c : Coordinator) : Side → Effect
  | .first => c.firstEffect
  | .second => c.secondEffect

def isOpen (c : Coordinator) : Side → Bool
  | .first => c.firstOpen
  | .second => c.secondOpen

/-- The channel on a side is not received from any more. -/
def close (c : Coordinator) : Side → Coordinator
  | .first => { c with firstOpen := false }
  | .second => { c with secondOpen := false }

end Coordinator

namespace Inlets

def signals (i : Inlets) : Side → Channel
  | .first => i.first
  | .second => i.second

def setSignals (i : Inlets) (side : Side) (c : Channel) : Inlets :=
  match side with
  | .first => { i with first := c }
  | .second => { i with second := c }

/-- All three receiving ends are let go. -/
def hangUp (i : Inlets) : Inlets := ⟨i.first.hangUp, i.second.hangUp, i.completions.hangUp⟩

/-- The items that wait in the three buffers. -/
def buffered (i : Inlets) : Nat := i.first.buffered + i.second.buffered + i.completions.buffered

end Inlets

namespace Coordinator

/-- A coordinator, its channels, and the events that it has made. -/
structure State where
  coordinator : Coordinator
  inlets : Inlets
  events : List Event := []
  deriving DecidableEq, Repr

namespace State

/-- The coordinator ends with `o`. -/
def leave (s : State) (o : Outcome) : State :=
  { s with coordinator := { s.coordinator with stage := .leaving o } }

def note (s : State) (e : Event) : State := { s with events := s.events ++ [e] }

/-- A signal of effect `e` changes the counter and is booked. -/
def apply (s : State) (e : Effect) : State :=
  match addCounter s.coordinator.counter e.delta, s.coordinator.ledger.book? e with
  | some counter, some ledger => { s with coordinator := { s.coordinator with counter, ledger } }
  | _, _ => s.leave .overflowed

/-- A completion is counted, and an event tells how many are still to come. -/
def complete (s : State) : State :=
  let c := s.coordinator
  let remaining := c.remaining - 1
  let ledger := { c.ledger with completions := c.ledger.completions + 1 }
  let t := { s with coordinator := { c with remaining, ledger } }
  match ledger.applied? with
  | some n => t.note { kind := .completionObserved, remaining := some remaining, count := some n }
  | none => t.leave .overflowed

/-- Serves one source of a running coordinator, if it is ready. -/
def serve (s : State) : Branch → Option State
  | .signals side =>
    if s.coordinator.isOpen side then
      match (s.inlets.signals side).receive with
      | (.item, ch) =>
        some ({ s with inlets := s.inlets.setSignals side ch }.apply (s.coordinator.effect side))
      | (.closed, _) => some { s with coordinator := s.coordinator.close side }
      | (.empty, _) => none
    else none
  | .completions =>
    match s.inlets.completions.receive with
    | (.item, ch) => some { s with inlets := { s.inlets with completions := ch } }.complete
    | (.closed, _) => some (s.leave (.lost s.coordinator.remaining))
    | (.empty, _) => none

/-- Draining begins once no completion is missing. -/
def startDrain (s : State) : State :=
  match s.coordinator.ledger.applied? with
  | some n =>
    { s with coordinator := { s.coordinator with stage := .draining n .first false } }.note
      { kind := .drainStarted, phase := some .draining, count := some n }
  | none => s.leave .overflowed

/-- A whole round has found nothing: what was applied since draining began is noted, and the books
are closed. -/
def finishDrain (s : State) (before : Nat) : State :=
  match s.coordinator.ledger.applied? with
  | some n =>
    let c := s.coordinator
    let ledger := { c.ledger with drained := n - before, value := c.counter }
    { s with coordinator := { c with ledger, stage := .leaving (.counted ledger) } }.note
      { kind := .drainFinished, phase := some .done, count := some (n - before) }
  | none => s.leave .overflowed

/-- One step of draining. The first channel begins a round, the second ends it. -/
def drainStep (s : State) (before : Nat) (turn : Side) (progressed : Bool) : State :=
  let (t, found) := match (s.inlets.signals turn).take? with
    | some ch =>
      ({ s with inlets := s.inlets.setSignals turn ch }.apply (s.coordinator.effect turn), true)
    | none => (s, progressed)
  let goOn (stage : Stage) : State :=
    match t.coordinator.stage with
    | .leaving _ => t
    | _ => { t with coordinator := { t.coordinator with stage } }
  match turn, found with
  | .first, _ => goOn (.draining before .second found)
  | .second, true => goOn (.draining before .first false)
  | .second, false => t.finishDrain before

/-- One step. While completions are missing the branch `b` is served; later it does not matter. -/
def step (s : State) (b : Branch) : Option State :=
  match s.coordinator.stage with
  | .running => if s.coordinator.remaining = 0 then some s.startDrain else s.serve b
  | .draining before turn progressed => some (s.drainStep before turn progressed)
  | .leaving o =>
    some { s with coordinator := { s.coordinator with stage := .ended o },
                  inlets := s.inlets.hangUp }
  | .ended _ => none

/-- The order in which the sources are asked. It turns with every item taken, so that no source is
kept waiting by the others. -/
def preference (s : State) : List Branch :=
  match (s.coordinator.ledger.increments + s.coordinator.ledger.decrements
      + s.coordinator.ledger.completions) % 3 with
  | 0 => [.signals .first, .signals .second, .completions]
  | 1 => [.signals .second, .completions, .signals .first]
  | _ => [.completions, .signals .first, .signals .second]

/-- One step, for which the first source that is ready is served. -/
def stepAny (s : State) : Option State := s.preference.findSome? s.step

end State

/-- A rank of the stages that falls with each step that takes no item. -/
def rank (c : Coordinator) : Nat :=
  match c.stage with
  | .running => 6 + c.firstOpen.toNat + c.secondOpen.toNat
  | .draining _ .first progressed => 3 + 2 * progressed.toNat
  | .draining _ .second progressed => 2 + 2 * progressed.toNat
  | .leaving _ => 1
  | .ended _ => 0

/-- A bound on the steps that can be taken without waiting: an item outweighs every change of
stage. -/
def State.effort (s : State) : Nat := 4 * s.inlets.buffered + s.coordinator.rank

/-- A coordinator taken as far as it gets without waiting. -/
def run (c : Coordinator) (i : Inlets) : State :=
  let s : State := ⟨c, i, []⟩
  advance State.stepAny s.effort s

end Coordinator

end SharedCounter
