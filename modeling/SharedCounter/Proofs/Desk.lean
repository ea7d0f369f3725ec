import SharedCounter.Desk

/-!
# Steps of a worker

* `Desk.meeting?` : the event that the subscriber meets if the worker goes on;
* `Desk.Goes d t` : the ways in which the worker at `d` goes on to `t` (`Goes.of_step`);
* `Desk.handle_eq` : an event is handled, or the panic over it is reported;
* `Desk.tells` : what the worker publishes when it goes on, with the event that it is about.
-/

namespace SharedCounter

/-- The text that a panic left, if there was one. -/
def Reaction.panic? : Reaction → Option (Option String)
  | panicked text => some text
  | _ => none

/-- Only one who panics at the hand-over can end its worker. -/
theorem Subscriber.meets_ne_died {s : Subscriber} (late : s.panicMode ≠ .eager) (e : Event) :
    s.meets e ≠ .died := by
  unfold meets
  split
  · cases mode : s.panicMode <;> simp_all
  · rintro ⟨⟩

namespace Desk

variable {d : Desk} {t : State} {e : Stamped}

/-- The event that the subscriber meets if the worker goes on. One that will wait at the gate is met
only when it has passed. -/
def meeting? (d : Desk) : Option Stamped :=
  match d.inHand, d.queue with
  | some e, _ => some e
  | none, e :: _ =>
    if d.subscriber.gated ∧ d.subscriber.meets e.event ≠ .died then none else some e
  | none, [] => none

/-- The ways in which a worker goes on. -/
inductive Goes (d : Desk) : State → Prop
  /-- The event passes the gate and is handled. -/
  | pass {e : Stamped} (inHand : d.inHand = some e) (permitted : 0 < d.permits) :
      Goes d (State.handle ⟨{ d with inHand := none, permits := d.permits - 1 }, []⟩ e)
  /-- The subscriber panics when the event is handed over. -/
  | die {e : Stamped} {rest : List Stamped} (free : d.inHand = none) (queue : d.queue = e :: rest)
      (fatal : d.subscriber.meets e.event = .died) :
      Goes d ⟨{ d with queue := [], duty := .died }, []⟩
  /-- The event is taken up and waits at the gate. -/
  | wait {e : Stamped} {rest : List Stamped} (free : d.inHand = none) (queue : d.queue = e :: rest)
      (survives : d.subscriber.meets e.event ≠ .died) (gated : d.subscriber.gated) :
      Goes d ⟨{ d with queue := rest, inHand := some e }, []⟩
  /-- The event is taken up and handled. -/
  | take {e : Stamped} {rest : List Stamped} (free : d.inHand = none) (queue : d.queue = e :: rest)
      (survives : d.subscriber.meets e.event ≠ .died) (ungated : ¬ d.subscriber.gated) :
      Goes d (State.handle ⟨{ d with queue := rest }, []⟩ e)
  /-- Nothing is left to do and nothing more can come. -/
  | leave (free : d.inHand = none) (queue : d.queue = []) (closed : d.isOpen = false) :
      Goes d ⟨{ d with duty := .left }, []⟩

theorem working_of_step (step : State.step ⟨d, []⟩ = some t) : d.duty = .working := by
  unfold State.step at step
  dsimp only at step
  split at step
  next => cases step
  next working => exact Decidable.not_not.mp working

theorem Goes.of_step (step : State.step ⟨d, []⟩ = some t) : Goes d t := by
  have working := working_of_step step
  unfold State.step at step
  dsimp only at step
  rw [if_neg (not_not_intro working)] at step
  split at step
  next e in_hand =>
    obtain ⟨permitted, ⟨⟩⟩ := Option.ite_none_right_eq_some.mp step
    exact .pass in_hand permitted
  next free =>
    split at step
    next e rest queue =>
      split at step
      next fatal =>
        cases step
        exact .die free queue fatal
      next survives =>
        split at step <;> cases step
        next gated => exact .wait free queue survives gated
        next ungated => exact .take free queue survives ungated
    next queue =>
      obtain ⟨open', ⟨⟩⟩ := Option.ite_none_left_eq_some.mp step
      exact .leave free queue (by simpa using open')

theorem isOpen_offer (d : Desk) (e : Stamped) : (d.offer e).1.isOpen = d.isOpen := by
  unfold offer
  repeat' split
  all_goals rfl

@[simp]
theorem isOpen_handle (s : State) (e : Stamped) : (s.handle e).desk.isOpen = s.desk.isOpen := by
  unfold State.handle
  split <;> rfl

theorem isOpen_of_step (step : State.step ⟨d, []⟩ = some t) : t.desk.isOpen = d.isOpen := by
  cases Goes.of_step step <;> simp

theorem awake_of_inHand (working : d.duty = .working) (inHand : d.inHand = some e)
    (permitted : 0 < d.permits) : d.awake := by
  simp [awake, State.step, working, inHand, permitted]

/-- A queued event can be taken up if none waits at the gate. -/
theorem awake_of_queue (working : d.duty = .working) (free : d.inHand = none)
    (queued : d.queue ≠ []) : d.awake := by
  obtain ⟨e, rest, queue⟩ := List.exists_cons_of_ne_nil queued
  simp only [awake, State.step, working, free, queue]
  split
  · contradiction
  · repeat' split
    all_goals rfl

/-- What the next step of the worker publishes, with the event that it is about. -/
def tells (d : Desk) : List (Stamped × Event) :=
  match d.meeting?, State.step ⟨d, []⟩ with
  | some e, some t => t.events.map (e, ·)
  | _, _ => []

/-- The report of a panic. -/
def reportOf (d : Desk) (text : Option String) : Event :=
  Event.panicked d.subscriber.name (panicMessage text)

theorem handle_eq (d : Desk) (e : Stamped) (survives : d.subscriber.meets e.event ≠ .died) :
    State.handle ⟨d, []⟩ e
      = ⟨{ d with handled := if d.subscriber.meets e.event = .handled
            then d.handled.push e else d.handled },
        ((d.subscriber.meets e.event).panic?.map d.reportOf).toList⟩ := by
  unfold State.handle
  cases reaction : d.subscriber.meets e.event with
  | handled => rfl
  | panicked text => simp [Reaction.panic?, reportOf]
  | died => contradiction

/-- An event that was taken up is handled, or the panic over it is reported. -/
theorem handle_eq_of_panic (d : Desk) (e : Stamped) :
    State.handle ⟨d, []⟩ e
      = ⟨{ d with handled := if (d.subscriber.meets e.event).panic?.isNone
            then d.handled.push e else d.handled },
        ((d.subscriber.meets e.event).panic?.map d.reportOf).toList⟩ := by
  unfold State.handle
  cases d.subscriber.meets e.event <;> simp [Reaction.panic?, reportOf]

theorem subscriber_offer (d : Desk) (e : Stamped) : (d.offer e).1.subscriber = d.subscriber := by
  unfold offer
  repeat' split
  all_goals rfl

theorem subscriber_of_step (step : State.step ⟨d, []⟩ = some t) :
    t.desk.subscriber = d.subscriber := by
  cases Goes.of_step step with
  | pass | take => rw [handle_eq_of_panic]
  | die | wait | leave => rfl

/-- Whatever the worker publishes is about the event that the subscriber meets. -/
theorem map_snd_tells (step : State.step ⟨d, []⟩ = some t) : d.tells.map Prod.snd = t.events := by
  unfold tells
  rw [step]
  cases Goes.of_step step with
  | pass in_hand => simp [meeting?, in_hand, Function.comp_def]
  | die free queue fatal => simp [meeting?, free, queue, fatal]
  | wait free queue survives gated => simp [meeting?, free, queue, survives, gated]
  | take free queue survives ungated => simp [meeting?, free, queue, ungated, Function.comp_def]
  | leave free queue => simp [meeting?, free, queue]

theorem length_tells (step : State.step ⟨d, []⟩ = some t) : d.tells.length = t.events.length := by
  simpa using congrArg List.length (map_snd_tells step)

end Desk

end SharedCounter
