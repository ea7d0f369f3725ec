import SharedCounter.Audience
import SharedCounter.Bus
import SharedCounter.Coordinator
import SharedCounter.Panic
import SharedCounter.Producer
import SharedCounter.Workbench.Rota

/-!
# The workbench: named parts that move only when they are told to

* `Named` : things under names; a name given again replaces what it stood for;
* `Errand` : something begun that is advanced by polling it: a send, a completion, a producer, a
  coordinator, or the closing of an audience;
* `Workbench` : all channels, buses and desks ever made, and the names under which their ends are
  held;
* `poll` : an errand goes on as far as it can without waiting (`Polled`);
* `abandon` : an errand is given up, and lets go of the ends that it holds;
* `round`, `settle` : workers that can go on take turns by a `Rota`, in rounds of at most
  `roundLength` turns; `settle` is `settleRounds` rounds, in which every worker comes to wait unless
  there are too many turns to take.
-/

namespace SharedCounter

/-- Things under names. -/
abbrev Named (α : Type) := List (String × α)

namespace Named

variable {α : Type}

def find? (m : Named α) (name : String) : Option α := m.lookup name

def remove (m : Named α) (name : String) : Named α := m.filter (·.1 ≠ name)

def put (m : Named α) (name : String) (a : α) : Named α := (name, a) :: m.remove name

end Named

/-- An end of a signal channel. -/
structure SignalEnd where
  channel : Nat
  effect : Effect
  deriving DecidableEq, Repr

/-- A sending end of a completion channel; ends of one channel differ in their keys. -/
structure CompletionEnd where
  channel : Nat
  key : Nat
  deriving DecidableEq, Repr

/-- A listener of one of the buses. -/
structure Listener where
  bus : Nat
  reader : Reader
  deriving DecidableEq, Repr

/-- An audience that is held: its desks, and the bus on which refusals are reported. -/
structure HeldAudience where
  desks : List Nat
  bus : Nat
  deriving DecidableEq, Repr

/-- Something begun that goes on when it is polled. -/
inductive Errand where
  /-- Signals sent one after the other on one channel. -/
  | sending (producer : Producer) (channel : Nat)
  /-- One completion sent on the end `held`. -/
  | completing (producer : Producer) (held : CompletionEnd)
  | producing (producer : Producer) (signals completions : Nat) (bus : Option Nat)
  | coordinating (coordinator : Coordinator) (first second completions : Nat) (bus : Option Nat)
  /-- Waiting for the workers of an audience. -/
  | closing (audience : HeldAudience)
  deriving DecidableEq, Repr

/-- What came of polling an errand. -/
inductive Polled where
  | pending
  /-- All items are sent. -/
  | sent
  | finished
  | failed (cause : Disconnected)
  | counted (ledger : Ledger)
  | lost (error : RunError)
  | panicked (panic : Panic)
  deriving Repr

/-- The parts on a workbench and the names of those that are held. -/
structure Workbench where
  channels : Array Channel := #[]
  buses : Array Bus := #[]
  /-- Every desk, with the bus on which its worker reports. -/
  desks : Array (Desk × Nat) := #[]
  signalSenders : Named SignalEnd := []
  signalReceivers : Named SignalEnd := []
  completionSenders : Named CompletionEnd := []
  completionReceivers : Named Nat := []
  busNames : Named Nat := []
  listeners : Named Listener := []
  audiences : Named HeldAudience := []
  /-- The desks of plain subscribers. -/
  subscribers : Named Nat := []
  /-- The desks of those that wait at a gate. -/
  gates : Named Nat := []
  /-- The desks of rosters. -/
  rosters : Named Nat := []
  errands : Named Errand := []
  /-- Desks whose workers can go on. -/
  rota : Rota := {}
  /-- The number of the next event. -/
  seq : Nat := 0
  /-- The key of the next completion sender. -/
  nextKey : Nat := 0
  /-- The memory that a slot of a bus takes. -/
  slotSize : SlotSize := default
  deriving Repr

namespace Workbench

/-! ## Parts -/

def channel (w : Workbench) (i : Nat) : Channel := w.channels.getD i (.create 1)

def setChannel (w : Workbench) (i : Nat) (c : Channel) : Workbench :=
  { w with channels := w.channels.setIfInBounds i c }

def onChannel (w : Workbench) (i : Nat) (f : Channel → Channel) : Workbench :=
  w.setChannel i (f (w.channel i))

def onBus (w : Workbench) (i : Nat) (f : Bus → Bus) : Workbench :=
  { w with buses := w.buses.modify i f }

/-- Makes events, and publishes them if there is a bus for them. -/
def publish (w : Workbench) (bus : Option Nat) (es : List Event) : Workbench :=
  let w' := match bus with
    | some i => w.onBus i (·.publishAll w.seq es)
    | none => w
  { w' with seq := w.seq + es.length }

/-- Lets go of one publishing end, if there is one. -/
def dropBus (w : Workbench) : Option Nat → Workbench
  | some i => w.onBus i Bus.dropHandle
  | none => w

/-- The receiving ends of a coordinator's channels are let go. -/
def hangUp (w : Workbench) (is : List Nat) : Workbench :=
  is.foldl (fun w i => w.onChannel i Channel.hangUp) w

/-- The desk `i` changes, and its worker is woken if it can go on now and could not before. -/
def onDesk (w : Workbench) (i : Nat) (f : Desk → Desk) : Workbench :=
  match w.desks[i]? with
  | some (d, bus) =>
    let w := { w with desks := w.desks.setIfInBounds i (f d, bus) }
    if (f d).awake && !d.awake then { w with rota := w.rota.wake i } else w
  | none => w

/-- The audience is let go: nothing more will be offered at its desks. -/
def closeAudience (w : Workbench) (a : HeldAudience) : Workbench :=
  a.desks.foldl (fun w i => w.onDesk i Desk.close) w

/-- Whether the workers at all these desks have ended. -/
def allLeft (w : Workbench) (is : List Nat) : Bool :=
  is.all fun i => match w.desks[i]? with
    | some (d, _) => d.duty ≠ .working
    | none => true

/-! ## Errands -/

/-- The verdict of a producer as the outcome of a poll. -/
def polledVerdict (success : Polled) : Option Verdict → Polled
  | some .finished => success
  | some (.failed d) => .failed d
  | _ => .pending

/-- An errand goes on as far as it can without waiting. What is left of it is returned while it is
pending. -/
def poll (w : Workbench) : Errand → Workbench × Polled × Option Errand
  | .sending p i =>
    let s := p.run ⟨w.channel i, w.channel i⟩
    let left := if s.producer.ended then none else some (.sending s.producer i)
    (w.setChannel i s.outlets.signals, polledVerdict .sent s.producer.verdict, left)
  | .completing p held =>
    let s := p.run ⟨w.channel held.channel, w.channel held.channel⟩
    let left := if s.producer.ended then none else some (.completing s.producer held)
    (w.setChannel held.channel s.outlets.completions, polledVerdict .sent s.producer.verdict, left)
  | .producing p i j bus =>
    let s := p.run ⟨w.channel i, w.channel j⟩
    let w := (w.setChannel i s.outlets.signals).setChannel j s.outlets.completions
    let w := if bus.isSome then w.publish bus s.events else w
    if s.producer.ended then (w.dropBus bus, polledVerdict .finished s.producer.verdict, none)
    else (w, .pending, some (.producing s.producer i j bus))
  | .coordinating c i j k bus =>
    let s := c.run ⟨w.channel i, w.channel j, w.channel k⟩
    let w := ((w.setChannel i s.inlets.first).setChannel j s.inlets.second).setChannel k
      s.inlets.completions
    let w := w.publish bus s.events
    match s.coordinator.stage with
    | .ended (.counted l) => (w.dropBus bus, .counted l, none)
    | .ended (.lost n) => (w.dropBus bus, .lost (.completionLost n []), none)
    | .ended .overflowed => (w.dropBus bus, .panicked .sumOverflow, none)
    | _ => (w, .pending, some (.coordinating s.coordinator i j k bus))
  | .closing a =>
    if w.allLeft a.desks then (w.dropBus (some a.bus), .finished, none)
    else (w, .pending, some (.closing a))

/-- An errand is given up: a waiting send is withdrawn, and all ends are let go. -/
def abandon (w : Workbench) : Errand → Workbench
  | .sending p i => w.setChannel i (p.abandon ⟨w.channel i, w.channel i⟩).signals
  | .completing p held =>
    w.setChannel held.channel
      (p.abandon ⟨w.channel held.channel, w.channel held.channel⟩).completions
  | .producing p i j bus =>
    let o := p.abandon ⟨w.channel i, w.channel j⟩
    ((w.setChannel i o.signals).setChannel j o.completions).dropBus bus
  | .coordinating _ i j k bus => (w.hangUp [i, j, k]).dropBus bus
  | .closing a => w.dropBus (some a.bus)

/-- Keeps an errand under a name. What stood there is given up. -/
def keep (w : Workbench) (name : String) (e : Errand) : Workbench :=
  let w := match w.errands.find? name with
    | some old => w.abandon old
    | none => w
  { w with errands := w.errands.put name e }

/-- Begins an errand with a first poll, and keeps it if it is pending. -/
def begin (w : Workbench) (name : String) (e : Errand) : Workbench × Polled :=
  match w.poll e with
  | (w, p, some left) => (w.keep name left, p)
  | (w, p, none) => (w, p)

/-- Polls an errand that is kept under a name. -/
def proceed (w : Workbench) (name : String) (e : Errand) : Workbench × Polled :=
  match w.poll e with
  | (w, p, some left) => ({ w with errands := w.errands.put name left }, p)
  | (w, p, none) => ({ w with errands := w.errands.remove name }, p)

/-! ## Workers -/

/-- The worker at desk `i` takes a turn. -/
def turnDesk (w : Workbench) (i : Nat) : Workbench :=
  match w.desks[i]? with
  | some (d, bus) =>
    let t := d.work
    let w := { w with desks := w.desks.setIfInBounds i (t.state.desk, bus) }.publish (some bus)
      t.state.events
    let w := if t.cut then { w with rota := w.rota.defer i } else w
    if d.duty = .working ∧ t.state.desk.duty ≠ .working then w.dropBus (some bus) else w
  | none => w

/-- A round in which at most `n` more workers take turns. -/
def round (w : Workbench) : (n : Nat) → Workbench
  | 0 => { w with rota := w.rota.endRound }
  | n + 1 =>
    match w.rota.choose with
    | (some i, rota) => round ({ w with rota }.turnDesk i) n
    | (none, rota) => { w with rota := rota.endRound }

def rounds (w : Workbench) : (n : Nat) → Workbench
  | 0 => w
  | n + 1 => rounds (w.round roundLength) n

/-- The rounds for which the workers are let run. -/
def settleRounds : Nat := 100

/-- The workers run until they wait, as far as `settleRounds` rounds go. -/
def settle (w : Workbench) : Workbench := w.rounds settleRounds

end Workbench

end SharedCounter
