import SharedCounter.Limits
import SharedCounter.Progress
import SharedCounter.Roster
import SharedCounter.Subscriber

/-!
# Desks: the queue and the worker of one subscriber

* `Desk` : the events queued for a subscriber, the one that its worker holds at the gate, and those
  handled;
* `offer` : an event is queued, or refused because the queue is full or the worker is gone;
* `step` : one step of the worker. A panic while handling is reported and the worker goes on; a
  panic at the hand-over ends it and loses what was queued;
* `work` : the worker takes a turn of at most `turnLength` steps (`Turn`). The turn is cut short if
  the worker has not ended by then and does not stand before a gate without a permit.
-/

namespace SharedCounter

/-- Why an event was not queued. -/
inductive Refusal where
  | full
  | closed
  deriving DecidableEq, Repr

namespace Refusal

def name : Refusal → String
  | full => "full"
  | closed => "closed"

end Refusal

/-- The state of a worker. -/
inductive Duty where
  | working
  /-- It ended because of a panic at a hand-over. -/
  | died
  /-- It ended because nothing more can come. -/
  | left
  deriving DecidableEq, Repr

/-- The queue and the worker of one subscriber. -/
structure Desk where
  subscriber : Subscriber
  /-- Events accepted and not taken up, the oldest first. -/
  queue : List Stamped := []
  /-- The event that waits at the gate. -/
  inHand : Option Stamped := none
  /-- Events handled without a panic. -/
  handled : Array Stamped := #[]
  /-- Permits given and not used. The first is for the event that waits at the gate, if one does. -/
  permits : Nat := 0
  /-- Whether more events may be offered. -/
  isOpen : Bool := true
  duty : Duty := .working
  deriving DecidableEq, Repr

namespace Desk

/-- Offers an event to the queue. -/
def offer (d : Desk) (e : Stamped) : Desk × Option Refusal :=
  if d.duty = .working then
    if d.queue.length < d.subscriber.slots then ({ d with queue := d.queue ++ [e] }, none)
    else (d, some .full)
  else (d, some .closed)

/-- No more events will be offered. -/
def close (d : Desk) : Desk := { d with isOpen := false }

def permit (d : Desk) (n : Nat) : Desk := { d with permits := d.permits + n }

/-- The permits that the gate holds for events to come. -/
def spare (d : Desk) : Nat := if d.inHand.isSome then d.permits - 1 else d.permits

/-- Permits are added to those that the gate holds, whose count starts again at `gateRange`. -/
def overfill (d : Desk) (n : Nat) : Desk :=
  { d with permits := d.permits - d.spare + (d.spare + n) % gateRange }

/-- The roster that a desk has kept by handling events. -/
def roster (d : Desk) : Roster := Roster.ofEvents (d.handled.toList.map Stamped.event)

/-- A desk, and the events that its worker has published. -/
structure State where
  desk : Desk
  events : List Event := []
  deriving DecidableEq, Repr

/-- The worker handles an event, whose hand-over went well. -/
def State.handle (s : State) (e : Stamped) : State :=
  match s.desk.subscriber.meets e.event with
  | .panicked text =>
    let report := Event.panicked s.desk.subscriber.name (panicMessage text)
    { s with events := s.events ++ [report] }
  | _ => { s with desk := { s.desk with handled := s.desk.handled.push e } }

/-- One step of the worker, undefined while it waits and after it has ended. -/
def State.step (s : State) : Option State :=
  let d := s.desk
  if d.duty ≠ .working then none
  else
    match d.inHand with
    | some e =>
      if 0 < d.permits then
        some ({ s with desk := { d with inHand := none, permits := d.permits - 1 } }.handle e)
      else none
    | none =>
      match d.queue with
      | e :: rest =>
        let t := { s with desk := { d with queue := rest } }
        if d.subscriber.meets e.event = .died then
          some { s with desk := { d with queue := [], duty := .died } }
        else if d.subscriber.gated then some { s with desk := { t.desk with inHand := some e } }
        else some (t.handle e)
      | [] => if d.isOpen then none else some { s with desk := { d with duty := .left } }

/-- A bound on the steps of the worker before it waits. -/
def effort (d : Desk) : Nat :=
  if d.duty = .working then 2 * d.queue.length + d.inHand.isSome.toNat + 1 else 0

/-- A step, as long as some of the turn is left. -/
def State.stepWithin : State × Nat → Option (State × Nat)
  | (_, 0) => none
  | (s, left + 1) => s.step.map fun t => (t, left)

/-- What came of the turn of a worker. -/
structure Turn where
  state : State
  /-- Whether the turn was over before the worker had to wait. -/
  cut : Bool
  deriving DecidableEq, Repr

/-- One turn of the worker. -/
def work (d : Desk) : Turn :=
  let (state, left) := advance State.stepWithin turnLength (⟨d, []⟩, turnLength)
  let atGate := state.desk.inHand.isSome && state.desk.permits = 0
  { state, cut := left = 0 && state.desk.duty = .working && !atGate }

/-- Whether the worker could go on at once. -/
def awake (d : Desk) : Bool := (State.step ⟨d, []⟩).isSome

/-! ## A worker stops -/

@[simp]
theorem effort_handle (s : State) (e : Stamped) : (s.handle e).desk.effort = s.desk.effort := by
  unfold State.handle; split <;> rfl

/-- Every step of a worker lowers its effort. -/
theorem effort_step {s t : State} (h : s.step = some t) : t.desk.effort < s.desk.effort := by
  unfold State.step at h
  dsimp only at h
  split at h
  · simp at h
  · rename_i working
    rw [ne_eq, Decidable.not_not] at working
    repeat' split at h
    all_goals simp only [Option.some.injEq, reduceCtorEq] at h
    all_goals subst h
    all_goals try rw [effort_handle]
    all_goals simp_all [effort] <;> omega

end Desk

end SharedCounter
