import SharedCounter.Audience
import SharedCounter.Bus
import SharedCounter.Panic
import SharedCounter.Team

/-!
# Runs: a count that is listened to

A run is a team at its count, the bus on which its events are published, a listener that hands them
to an audience, and the main task, which coordinates, joins the producers, reports the counter,
stops the listener and waits for it.

* `Run` : the state of all these tasks; `Run.start` sets them up;
* `Move`, `Run.step` : one step of one task. A schedule is a list of moves; what holds under every
  schedule is stated about `step`;
* `Task`, `Run.turn` : a task takes a turn, in which it goes on until it has to wait or has moved
  `turnLength` items. A producer whose turn ends before a send keeps the place of that send;
* `Run.tick` : tasks that can go on take their turns in the order in which that became so (`wake`).
  When no task waits for its turn, the main task has one, and after it come the tasks whose turns
  were cut short, the last one first;
* `Run.result?` : what the run returns. A crashed producer comes before lost completions, and these
  before a failed producer;
* `Run.execute` : a run from its start to its end.
-/

namespace SharedCounter

/-- What the listener is doing. -/
inductive ListenerStage where
  /-- It looks at the bus next. -/
  | listening
  /-- It has found the bus empty and looks at the stop sign next. -/
  | checkingStop
  /-- It has found neither, and sleeps until one of them changes. -/
  | asleep
  /-- It has left its loop and waits for the workers of the audience. -/
  | closing
  | gone
  deriving DecidableEq, Repr

/-- What the main task is doing. -/
inductive MainStage where
  | coordinating
  /-- The coordinator has ended; the producers have to end too, and `joined` of them are known to
  have done so. -/
  | joining (outcome : Outcome) (joined : Nat)
  /-- The counter is reported, if there is one; the listener is told to stop next. -/
  | stopping (outcome : Outcome)
  /-- The listener has to finish. -/
  | awaiting (outcome : Outcome)
  | returned (outcome : Outcome)
  deriving DecidableEq, Repr

/-- A task beside the main one. -/
inductive Task where
  | worker (index : Nat)
  | listener
  | producer (effect : Effect)
  deriving DecidableEq, Repr

/-- Who takes the next step: a task, or the main task, which serves `branch` if it coordinates. -/
inductive Move where
  | task (task : Task)
  | main (branch : Branch)
  deriving DecidableEq, Repr

/-- The state of a run. -/
structure Run where
  team : Team
  bus : Bus
  /-- The number of the next event. -/
  seq : Nat := 0
  reader : Reader
  audience : Audience
  listener : ListenerStage := .listening
  stop : Bool := false
  main : MainStage := .coordinating
  /-- Producers that have ended, the first one first. -/
  joined : List Effect := []
  /-- Tasks that can go on, in the order in which that became so. -/
  queue : List Task := []
  /-- Tasks whose turns were cut short, the first one first. -/
  deferred : List Task := []
  deriving DecidableEq, Repr

/-- What a run comes to. -/
inductive Result where
  | returned (result : Except RunError Ledger)
  | panicked (panic : Panic)
  deriving Repr

namespace Run

/-- Makes events and publishes them. -/
def publish (r : Run) (es : List Event) : Run :=
  { r with bus := r.bus.publishAll r.seq es, seq := r.seq + es.length }

/-- How many hold a publishing end of the bus: the main task and the coordinator until they end,
the producers likewise, the audience until the listener has finished, and each worker. -/
def holders (r : Run) : Nat :=
  (match r.main with | .returned _ => 0 | _ => 1)
    + (match r.team.coordinator.stage with | .ended _ => 0 | _ => 1)
    + (Effect.all.countP fun e => !(r.team.producer e).ended)
    + (if r.listener = .gone then 0 else 1)
    + r.audience.countP (·.duty = .working)

/-! ## Steps -/

/-- One step of the listener. -/
def stepListener (r : Run) : Option Run :=
  let leave (r : Run) : Run := { r with audience := r.audience.close, listener := .closing }
  match r.listener with
  | .listening =>
    match { r.bus with handles := r.holders }.read r.reader with
    | (.event e, reader) =>
      let (audience, reports) := r.audience.emit e
      some ({ r with reader, audience }.publish reports)
    | (.lagged _, reader) => some { r with reader }
    | (.closed, _) => some (leave r)
    | (.empty, _) => some { r with listener := .checkingStop }
  | .checkingStop => some (if r.stop then leave r else { r with listener := .asleep })
  | .asleep =>
    if r.stop || r.reader.next < r.bus.history.size then some { r with listener := .listening }
    else none
  | .closing => if r.audience.allLeft then some { r with listener := .gone } else none
  | .gone => none

/-- One step of the worker at a desk. -/
def stepWorker (r : Run) (i : Nat) : Option Run :=
  match r.audience[i]? with
  | some d =>
    (Desk.State.step ⟨d, []⟩).map fun t =>
      { r with audience := r.audience.set i t.desk }.publish t.events
  | none => none

/-- One step of a producer. -/
def stepProducer (r : Run) (e : Effect) : Option Run :=
  (r.team.step (.producer e)).map fun (team, es) =>
    let r := { r with team }.publish es
    if (team.producer e).ended then { r with joined := r.joined ++ [e] } else r

/-- The report of the counter, when there is one. -/
def counterReport : Outcome → List Event
  | .counted l =>
    [{ kind := .counterReported, phase := some .done, value := some l.value, count := l.applied? }]
  | _ => []

/-- One step of the main task. While it coordinates, the branch `b` is served. A sum out of range
ends everything at once. -/
def stepMain (r : Run) (b : Branch) : Option Run :=
  match r.main with
  | .coordinating =>
    match r.team.coordinator.stage with
    | .ended .overflowed => some { r with main := .returned .overflowed }
    | .ended o => some { r with main := .joining o 0 }
    | _ => (r.team.step (.coordinator b)).map fun (team, es) => { r with team }.publish es
  | .joining o n =>
    if n < r.joined.length then some { r with main := .joining o (n + 1) }
    else if n = Effect.all.length then
      some { r.publish (counterReport o) with main := .stopping o }
    else none
  | .stopping o => some { r with stop := true, main := .awaiting o }
  | .awaiting o => if r.listener = .gone then some { r with main := .returned o } else none
  | .returned _ => none

/-- One step, undefined where its task waits or has ended. -/
def step (r : Run) : Move → Option Run
  | .task (.worker i) => r.stepWorker i
  | .task .listener => r.stepListener
  | .task (.producer e) => r.stepProducer e
  | .main b => r.stepMain b

/-- One step of the main task, for which the first source that is ready is served. -/
def stepMainAny (r : Run) : Option Run :=
  r.team.coordinatorState.preference.findSome? fun b => r.step (.main b)

/-! ## Waking -/

/-- Whether a task can go on from where it waits. -/
def awake (r : Run) : Task → Bool
  | .worker i =>
    match r.audience[i]? with
    | some d => d.awake
    | none => false
  | .listener =>
    match r.listener with
    | .asleep => r.stop || r.reader.next < r.bus.history.size
    | .closing => r.audience.allLeft
    | _ => false
  | .producer e =>
    (r.team.producer e).place.isSome && (r.team.producerState e).step.isSome

/-- The producers in the order in which one step lets them go on: those that wait on their signal
channels, then those that wait for a completion to be taken, the longest waiting first. -/
def producerOrder (r : Run) : List Effect :=
  let up := r.team.incrementer
  let down := r.team.decrementer
  if up.sendsCompletion && (!down.sendsCompletion || down.place.getD 0 < up.place.getD 0) then
    [.decrement, .increment]
  else [.increment, .decrement]

def workers (r : Run) : List Task := (List.range r.audience.length).map .worker

/-- The tasks in the order in which one step lets them go on: a step gives slots away before it
publishes, and publishes before it offers events. -/
def tasks (r : Run) : List Task := r.producerOrder.map .producer ++ .listener :: r.workers

/-- Tasks that can go on join the queue, unless they stand there or were cut short. -/
def wake (r : Run) : Run :=
  { r with queue := r.queue ++ r.tasks.filter fun t =>
      !r.queue.contains t && !r.deferred.contains t && r.awake t }

/-! ## Turns -/

/-- A step of a producer, as long as a send that it makes is within the turn. -/
def producerStepWithin : Producer.State × Nat → Option (Producer.State × Nat)
  | (s, budget) =>
    if s.producer.sends then
      match budget with
      | 0 => none
      | left + 1 => s.step.map fun t => (t, if t.producer.place.isSome then budget else left)
    else s.step.map fun t => (t, budget)

/-- The turn of a producer. When it is over before a send, that send takes its place: if a slot is
reserved for it the turn is cut short, and otherwise the producer waits. -/
def turnProducer (r : Run) (e : Effect) : Run :=
  let s := r.team.producerState e
  let (t, _) := advance producerStepWithin s.producer.effort (s, turnLength)
  let t := if t.producer.sends && t.producer.place.isNone then t.takePlace else t
  let r := { r with team := r.team.putProducer e t }.publish t.events
  if t.producer.ended then { r with joined := r.joined ++ [e] }
  else if t.step.isSome then { r with deferred := r.deferred ++ [.producer e] }
  else r

def turnWorker (r : Run) (i : Nat) : Run :=
  match r.audience[i]? with
  | some d =>
    let t := d.work
    let r := { r with audience := r.audience.set i t.state.desk }.publish t.state.events
    if t.cut then { r with deferred := r.deferred ++ [.worker i] } else r
  | none => r

/-- A step of the listener, as long as what it reads is within the turn. -/
def listenerStepWithin : Run × Nat → Option (Run × Nat)
  | (r, budget) =>
    if r.listener = .listening then
      match budget with
      | 0 => none
      | left + 1 => r.stepListener.map fun t =>
        (t, if t.listener = .checkingStop then budget else left)
    else r.stepListener.map fun t => (t, budget)

/-- A bound on the steps of the listener in one turn. -/
def listenerEffort : Nat := 2 * turnLength + 8

def turnListener (r : Run) : Run :=
  let (r, _) := advance listenerStepWithin listenerEffort (r, turnLength)
  if r.listener = .listening then { r with deferred := r.deferred ++ [.listener] } else r

/-- Whether the next step of the main task is one of those that a turn bounds: serving a source, or
joining a producer. -/
def mainCounts (r : Run) : Bool :=
  match r.main with
  | .coordinating => r.team.coordinator.stage = .running && 0 < r.team.coordinator.remaining
  | .joining _ n => n < Effect.all.length
  | _ => false

/-- A step of the main task within its turn, after which the tasks that it lets go on are woken. -/
def mainStepWithin : Run × Nat → Option (Run × Nat)
  | (r, budget) =>
    if r.mainCounts then
      match budget with
      | 0 => none
      | left + 1 => r.stepMainAny.map fun t => (t.wake, left)
    else r.stepMainAny.map fun t => (t.wake, budget)

/-- A bound on the steps of the main task in one turn. -/
def mainEffort (r : Run) : Nat := r.team.coordinatorState.effort + 8

def turnMain (r : Run) : Run := (advance mainStepWithin r.mainEffort (r, turnLength)).1

def turn (r : Run) : Task → Run
  | .worker i => r.turnWorker i
  | .listener => r.turnListener
  | .producer e => r.turnProducer e

/-- One turn: of the task that has waited longest for it, or else of the main task, after which the
tasks that were cut short come back. -/
def tick (r : Run) : Option Run :=
  match r.main, r.queue with
  | .returned _, _ => none
  | _, t :: rest => some (({ r with queue := rest }.turn t).wake)
  | _, [] =>
    if r.stepMainAny.isSome || !r.deferred.isEmpty then
      some { r with queue := r.deferred.reverse, deferred := [] }.turnMain
    else none

/-- A bound on the turns of a run. -/
def effort (r : Run) : Nat :=
  let width := r.audience.length + 4
  8 * (r.team.incrementer.effort + r.team.decrementer.effort + 16) * (width * width * width)

/-! ## Whole runs -/

/-- A run that is about to begin. A roster listens beside the given subscribers. Every task is
queued once, in the order in which the tasks are started. -/
def start (c : Config) (acts : Effect → List Act) (subscribers : List Subscriber)
    (size : SlotSize := default) : Except Panic Run :=
  match Bus.create c.busSlots size with
  | .error p => .error p
  | .ok bus =>
    match Audience.open? (subscribers ++ [{ name := Roster.subscriberName }]) with
    | none => .error .queueTooLarge
    | some audience =>
      let (bus, reader) := bus.subscribe
      let r : Run := { team := .start c acts, bus, reader, audience }
      .ok { r with queue := r.workers ++ .listener :: Effect.all.map .producer }

/-- The names that have started and not finished, as the roster heard it. -/
def pending (r : Run) : List String :=
  match r.audience.getLast? with
  | some d => d.roster.names
  | none => []

/-- What the run returns, once it has. -/
def result? (r : Run) (wording : CrashWording := .unnumbered) : Option Result :=
  match r.main with
  | .returned .overflowed => some (.panicked .sumOverflow)
  | .returned (.lost n) =>
    some (.returned (.error ((r.team.crash? wording r.joined).getD (.completionLost n r.pending))))
  | .returned (.counted l) =>
    some (.returned (match r.team.crash? wording r.joined <|> r.team.failure? r.joined with
      | some e => .error e
      | none => .ok l))
  | _ => none

/-- A run from its start to its end. -/
def execute (r : Run) : Run := advance tick r.effort r

/-- The events that the subscriber at a desk has handled, in order. -/
def heard (r : Run) (i : Nat) : List Event :=
  match r.audience[i]? with
  | some d => d.handled.toList.map Stamped.event
  | none => []

end Run

end SharedCounter
