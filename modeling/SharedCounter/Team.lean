import SharedCounter.Config
import SharedCounter.Coordinator
import SharedCounter.Failure
import SharedCounter.Producer

/-!
# The team of a count: two producers and a coordinator

* `Team` : the parties of a count and the three channels between them;
* `Party` : who moves next, and for a running coordinator which source it serves;
* `Team.step` : one step of one party, with the events that it makes. A schedule is a list of
  parties; what holds under every schedule is stated about `step`;
* `Team.crash?`, `Team.failure?` : of the producers that have joined, what the first to crash or to
  fail has come to;
* `Team.start` : the wiring of a count. Each producer holds one end of its own signal channel
  and one of the shared completion channel.
-/

namespace SharedCounter

/-- The parties of a count and the channels between them. The coordinator receives increments from
its first signal channel and decrements from its second one. -/
structure Team where
  incrementer : Producer
  decrementer : Producer
  coordinator : Coordinator
  inlets : Inlets
  deriving DecidableEq, Repr

/-- Who takes the next step. -/
inductive Party where
  | producer (effect : Effect)
  | coordinator (branch : Branch)
  deriving DecidableEq, Repr

namespace Team

/-- The signal channel of an effect. -/
def side : Effect → Side
  | .increment => .first
  | .decrement => .second

def producer (s : Team) : Effect → Producer
  | .increment => s.incrementer
  | .decrement => s.decrementer

def setProducer (s : Team) (e : Effect) (p : Producer) : Team :=
  match e with
  | .increment => { s with incrementer := p }
  | .decrement => { s with decrementer := p }

/-- A producer with the channels that it sends on. -/
def producerState (s : Team) (e : Effect) : Producer.State :=
  ⟨s.producer e, ⟨s.inlets.signals (side e), s.inlets.completions⟩, []⟩

/-- The team after a producer has moved. -/
def putProducer (s : Team) (e : Effect) (t : Producer.State) : Team :=
  { s.setProducer e t.producer with
    inlets := { s.inlets.setSignals (side e) t.outlets.signals with
      completions := t.outlets.completions } }

def coordinatorState (s : Team) : Coordinator.State := ⟨s.coordinator, s.inlets, []⟩

/-- The team after the coordinator has moved. -/
def putCoordinator (s : Team) (t : Coordinator.State) : Team :=
  { s with coordinator := t.coordinator, inlets := t.inlets }

/-- One step of one party, and the events that it makes. -/
def step (s : Team) : Party → Option (Team × List Event)
  | .producer e => (s.producerState e).step.map fun t => (s.putProducer e t, t.events)
  | .coordinator b => (s.coordinatorState.step b).map fun t => (s.putCoordinator t, t.events)

/-- The crash of the first producer to join that has crashed. -/
def crash? (s : Team) (wording : CrashWording) (joined : List Effect) : Option RunError :=
  joined.findSome? fun e =>
    match (s.producer e).verdict with
    | some (.crashed m) => some (.producerPanicked (wording e m))
    | _ => none

/-- The failure of the first producer to join that has failed. -/
def failure? (s : Team) (joined : List Effect) : Option RunError :=
  joined.findSome? fun e =>
    match (s.producer e).verdict with
    | some (.failed d) => some (.producerFailed d)
    | _ => none

/-- The wiring of a count with the acts of each producer. -/
def start (c : Config) (acts : Effect → List Act) : Team where
  incrementer := { name := Effect.increment.name, acts := acts .increment }
  decrementer := { name := Effect.decrement.name, acts := acts .decrement }
  coordinator := .create c.initial Effect.all.length .increment .decrement
  inlets :=
    { first := .create c.signalSlots
      second := .create c.signalSlots
      completions := { Channel.create c.completionSlots with senders := Effect.all.length } }

/-- The acts of two orderly producers. -/
def orderlyActs (c : Config) (_ : Effect) : List Act := Act.plan c.iterations

end Team

end SharedCounter
