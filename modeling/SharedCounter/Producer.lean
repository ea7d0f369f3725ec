import SharedCounter.Channel
import SharedCounter.Event
import SharedCounter.Failure
import SharedCounter.Progress

/-!
# Producers: they send, and never touch the counter

* `Act` : one thing that a producer does; `Act.plan n` is what an orderly producer does: it tells
  that it starts, sends `n` signals, sends its completion after the last of them, and tells that it
  has finished;
* `Producer` : the acts still to come, where the current send waits, and which sending ends the
  producer still holds;
* `Outlets` : the two channels that it sends on;
* `Producer.State.step` : one step, undefined while the producer waits and after it has ended;
* `Producer.State.takePlace` : the next send takes its place in the queue of its channel and goes no
  further;
* `Producer.run` : as many steps as can be taken without waiting;
* `Producer.abandon` : the producer is given up where it stands.
-/

namespace SharedCounter

/-- One act of a producer. -/
inductive Act where
  /-- Publish an event about itself, with a count of signals if one is given. -/
  | announce (kind : EventKind) (count : Option Nat)
  /-- Send `n` signals, one after the other. -/
  | send (n : Nat)
  /-- Send one completion. -/
  | complete
  | dropSignals
  | dropCompletion
  /-- Fail, as if `channel` had lost its receiver. -/
  | fail (channel : String)
  /-- Crash, leaving a message or none. -/
  | crash (message : Option String)
  /-- Give both sending ends away to an orderly producer of `n` signals and let it run. -/
  | produce (n : Nat)
  deriving DecidableEq, Repr

namespace Act

/-- What an orderly producer of `n` signals does. -/
def plan (n : Nat) : List Act :=
  [announce .producerStarting (some n), send n, complete, announce .producerFinished (some n)]

/-- The steps that an act can take, each signal counting twice because its send may have to
wait first. -/
def effort : Act → Nat
  | send n => 2 * n + 2
  | produce n => 2 * n + 14
  | _ => 2

/-- The steps that several acts can take, one after the other. -/
def efforts : List Act → Nat
  | [] => 0
  | act :: rest => act.effort + efforts rest

end Act

/-- How a producer ended. -/
inductive Verdict where
  | finished
  | failed (cause : Disconnected)
  | crashed (message : Option String)
  deriving DecidableEq, Repr

/-- A producer at work. -/
structure Producer where
  name : String
  acts : List Act
  /-- Where the send at the head of `acts` waits, if it does. -/
  place : Option Ticket := none
  holdsSignals : Bool := true
  holdsCompletion : Bool := true
  verdict : Option Verdict := none
  deriving DecidableEq, Repr

/-- The channels that a producer sends on. -/
structure Outlets where
  signals : Channel
  completions : Channel
  deriving DecidableEq, Repr

namespace Producer

/-- The orderly producer of `n` signals. -/
def orderly (name : String) (n : Nat) : Producer := { name, acts := Act.plan n }

/-- A producer, its channels, and the events that it has published. -/
structure State where
  producer : Producer
  outlets : Outlets
  events : List Event := []
  deriving DecidableEq, Repr

/-- Whether a producer has ended and let go of everything. -/
def ended (p : Producer) : Bool := p.verdict.isSome && !p.holdsSignals && !p.holdsCompletion

/-- Whether the next act sends a completion. -/
def sendsCompletion (p : Producer) : Bool :=
  match p.acts with
  | .complete :: _ => p.verdict.isNone && p.holdsCompletion
  | _ => false

/-- Whether the next act sends an item. -/
def sends (p : Producer) : Bool :=
  match p.acts with
  | .send (_ + 1) :: _ => p.verdict.isNone && p.holdsSignals
  | _ => p.sendsCompletion

/-- The next act starts. -/
def next (p : Producer) (acts : List Act) : Producer := { p with acts, place := none }

/-- A producer that holds no act back any more ends with `v`. -/
def finish (p : Producer) (v : Verdict) : Producer := { p with place := none, verdict := some v }

namespace State

def letGoSignals (s : State) : State where
  producer := { s.producer with holdsSignals := false }
  outlets := { s.outlets with signals := s.outlets.signals.dropSender }
  events := s.events

def letGoCompletion (s : State) : State where
  producer := { s.producer with holdsCompletion := false }
  outlets := { s.outlets with completions := s.outlets.completions.dropSender }
  events := s.events

/-- The outcome of polling the send at the head of the acts: `acts` are to come once it is sent. A
send that goes on waiting is no step. -/
def sendTo (s : State) (acts : List Act) (channel : String) (outlets : Channel → Outlets) :
    SendPoll × Channel → Option State
  | (.sent, c) => some { s with producer := s.producer.next acts, outlets := outlets c }
  | (.waiting t, c) =>
    if s.producer.place = some t then none
    else some { s with producer := { s.producer with place := some t }, outlets := outlets c }
  | (.refused, c) =>
    some { s with producer := s.producer.finish (.failed ⟨s.producer.name, channel⟩),
                  outlets := outlets c }

/-- One act. A send without the end that it needs is passed over. -/
def perform (s : State) (act : Act) (rest : List Act) : Option State :=
  let p := s.producer
  match act with
  | .announce kind count =>
    some { s with producer := p.next rest,
                  events := s.events ++ [{ kind, producer := some p.name, count }] }
  | .send 0 => some { s with producer := p.next rest }
  | .send (n + 1) =>
    if p.holdsSignals then
      s.sendTo (.send n :: rest) "signal" ({ s.outlets with signals := · })
        (s.outlets.signals.pollSend p.place)
    else some { s with producer := p.next rest }
  | .complete =>
    if p.holdsCompletion then
      s.sendTo rest "completion" ({ s.outlets with completions := · })
        (s.outlets.completions.pollSend p.place)
    else some { s with producer := p.next rest }
  | .dropSignals =>
    let t := { s with producer := p.next rest }
    some (if p.holdsSignals then t.letGoSignals else t)
  | .dropCompletion =>
    let t := { s with producer := p.next rest }
    some (if p.holdsCompletion then t.letGoCompletion else t)
  | .fail channel => some { s with producer := p.finish (.failed ⟨p.name, channel⟩) }
  | .crash message => some { s with producer := p.finish (.crashed message) }
  | .produce n =>
    let inner := if p.holdsSignals && p.holdsCompletion then Act.plan n else []
    some { s with producer := p.next (inner ++ .dropSignals :: .dropCompletion :: rest) }

/-- One step of a producer. After its verdict it lets go of its sending ends, one by one. -/
def step (s : State) : Option State :=
  match s.producer.verdict with
  | some _ =>
    if s.producer.holdsSignals then some s.letGoSignals
    else if s.producer.holdsCompletion then some s.letGoCompletion
    else none
  | none =>
    match s.producer.acts with
    | [] => some { s with producer := s.producer.finish .finished }
    | act :: rest => s.perform act rest

/-- The send that comes next takes its place in the queue of its channel. -/
def takePlace (s : State) : State :=
  let waitingAt (c : Channel) : Producer := { s.producer with place := some c.nextTicket }
  if s.producer.sendsCompletion then
    { s with producer := waitingAt s.outlets.completions,
             outlets := { s.outlets with completions := s.outlets.completions.takePlace } }
  else
    { s with producer := waitingAt s.outlets.signals,
             outlets := { s.outlets with signals := s.outlets.signals.takePlace } }

end State

/-- A bound on the steps that a producer has before it. -/
def effort (p : Producer) : Nat :=
  (match p.verdict with
    | some _ => 0
    | none => Act.efforts p.acts + 2 - p.place.isSome.toNat)
    + p.holdsSignals.toNat + p.holdsCompletion.toNat

/-- A producer taken as far as it gets without waiting. -/
def run (p : Producer) (o : Outlets) : State := advance State.step p.effort ⟨p, o, []⟩

/-- The channels after the producer is given up: its waiting send is withdrawn and its sending ends
are let go. -/
def abandon (p : Producer) (o : Outlets) : Outlets :=
  let o := match p.place, p.acts with
    | some t, .complete :: _ => { o with completions := o.completions.withdraw t }
    | some t, _ => { o with signals := o.signals.withdraw t }
    | none, _ => o
  let o := if p.holdsSignals then { o with signals := o.signals.dropSender } else o
  if p.holdsCompletion then { o with completions := o.completions.dropSender } else o

end Producer

end SharedCounter
