import Mathlib.Tactic.Common
import SharedCounter.Audience
import SharedCounter.Proofs.Desk

/-!
# Audiences that miss nothing

* `Subscriber.Able` : a subscriber that never panics, with room for a number of events;
* `Desk.Served es d` : of the events `es`, offered in this order, the desk has lost none. Offers
  (`Served.offer`) and the steps of the worker (`Served.step`) keep it, and a worker that has left
  has handled them all (`Served.handled_eq`);
* `Audience.Served` : the same of every desk of an audience, which then has nothing to report
  (`Served.emit`).
-/

namespace SharedCounter

/-- A subscriber that never panics and has room for `n` events. -/
structure Subscriber.Able (n : Nat) (s : Subscriber) : Prop where
  calm : ∀ e, s.meets e = .handled
  roomy : n ≤ s.slots

theorem Subscriber.able_of_calm {n : Nat} {s : Subscriber} (calm : s.panicsOn = [])
    (roomy : n ≤ s.slots) : s.Able n := by
  refine ⟨fun e => ?_, roomy⟩
  simp [Subscriber.meets, calm]

namespace Desk

variable {n : Nat} {es : List Stamped} {e : Stamped} {d : Desk} {t : State}

/-- Of the events `es` the desk has lost none. Its worker leaves only when nothing is left to do and
nothing more can come. -/
structure Served (es : List Stamped) (d : Desk) : Prop where
  all : d.handled.toList ++ d.inHand.toList ++ d.queue = es
  duty : d.duty = .working ∨
    d.duty = .left ∧ d.isOpen = false ∧ d.inHand = none ∧ d.queue = []

theorem Served.start (s : Subscriber) : Served [] { subscriber := s } := ⟨rfl, .inl rfl⟩

theorem Served.working (h : d.Served es) (isOpen : d.isOpen = true) : d.duty = .working := by
  refine h.duty.resolve_right fun left => ?_
  rw [left.2.1] at isOpen
  cases isOpen

theorem Served.handled_eq (h : d.Served es) (ended : d.duty ≠ .working) :
    d.handled.toList = es := by
  obtain ⟨-, -, in_hand, queue⟩ := h.duty.resolve_left ended
  have all := h.all
  rw [in_hand, queue] at all
  simpa using all

theorem Served.close (h : d.Served es) : d.close.Served es :=
  ⟨h.all, h.duty.imp_right fun left => ⟨left.1, rfl, left.2.2⟩⟩

theorem Served.permit (h : d.Served es) (k : Nat) : (d.permit k).Served es := ⟨h.all, h.duty⟩

/-- An open desk with enough room takes every event that it is offered. -/
theorem Served.offer (h : d.Served es) (able : d.subscriber.Able n) (isOpen : d.isOpen = true)
    (few : es.length < n) (e : Stamped) :
    d.offer e = ({ d with queue := d.queue ++ [e] }, none) ∧
      Served (es ++ [e]) { d with queue := d.queue ++ [e] } := by
  have working := h.working isOpen
  have room : d.queue.length < d.subscriber.slots := by
    have all := congrArg List.length h.all
    have roomy := able.roomy
    rw [List.length_append] at all
    omega
  refine ⟨?_, ?_, .inl working⟩
  · unfold Desk.offer
    rw [if_pos working, if_pos room]
  · rw [← h.all]
    exact (List.append_assoc _ _ _).symm

theorem Served.handle (calm : d.subscriber.meets e.event = .handled) :
    State.handle ⟨d, []⟩ e = ⟨{ d with handled := d.handled.push e }, []⟩ := by
  unfold State.handle
  simp only [calm]

/-- What a step of the worker keeps, if the subscriber never panics. -/
structure Steady (d : Desk) (t : State) : Prop where
  subscriber : t.desk.subscriber = d.subscriber
  isOpen : t.desk.isOpen = d.isOpen
  quiet : t.events = []

/-- The worker loses nothing on the way from the queue to the gate and through it. -/
theorem Served.step (h : d.Served es) (able : d.subscriber.Able n)
    (step : State.step ⟨d, []⟩ = some t) : Steady d t ∧ t.desk.Served es := by
  have all := h.all
  have working := working_of_step step
  cases Goes.of_step step with
  | @pass e in_hand =>
    rw [Served.handle (d := { d with inHand := none, permits := d.permits - 1 })
      (able.calm e.event)]
    refine ⟨⟨rfl, rfl, rfl⟩, ?_, .inl working⟩
    rw [in_hand] at all
    simpa using all
  | @die e rest free queue fatal =>
    rw [able.calm] at fatal
    cases fatal
  | wait free queue =>
    refine ⟨⟨rfl, rfl, rfl⟩, ?_, .inl working⟩
    rw [free, queue] at all
    simpa using all
  | @take e rest free queue =>
    rw [Served.handle (d := { d with queue := rest }) (able.calm e.event)]
    refine ⟨⟨rfl, rfl, rfl⟩, ?_, .inl working⟩
    rw [free, queue] at all
    rw [free]
    simpa using all
  | leave free queue closed =>
    exact ⟨⟨rfl, rfl, rfl⟩, all, .inr ⟨rfl, closed, free, queue⟩⟩

end Desk

namespace Audience

variable {n : Nat} {seats : List Subscriber} {es : List Stamped} {e : Stamped} {a : Audience}

/-- No desk of the audience has lost any of the events `es`. -/
structure Served (n : Nat) (seats : List Subscriber) (es : List Stamped) (a : Audience) :
    Prop where
  able : ∀ s ∈ seats, s.Able n
  seats : a.map Desk.subscriber = seats
  desks : ∀ d ∈ a, d.Served es

/-- Every desk can still be offered events. -/
def IsOpen (a : Audience) : Prop := ∀ d ∈ a, d.isOpen = true

theorem Served.able_of_mem (h : Served n seats es a) {d : Desk} (hd : d ∈ a) :
    d.subscriber.Able n := by
  refine h.able _ ?_
  rw [← h.seats]
  exact List.mem_map_of_mem hd

theorem Served.start (able : ∀ s ∈ seats, s.Able n) :
    Served n seats [] (seats.map fun s => { subscriber := s }) where
  able := able
  seats := by
    rw [List.map_map]
    exact List.map_id _
  desks := by
    intro d hd
    obtain ⟨s, -, rfl⟩ := List.mem_map.mp hd
    exact .start s

theorem IsOpen.start (seats : List Subscriber) :
    IsOpen (seats.map fun s => { subscriber := s }) := by
  intro d hd
  obtain ⟨s, -, rfl⟩ := List.mem_map.mp hd
  rfl

/-- An open audience with enough room takes every event, and has nothing to report. -/
theorem Served.emit (h : Served n seats es a) (isOpen : a.IsOpen) (few : es.length < n)
    (e : Stamped) :
    (a.emit e).2 = [] ∧ Served n seats (es ++ [e]) (a.emit e).1 ∧ IsOpen (a.emit e).1 := by
  have offered : ∀ d ∈ a, d.offer e = ({ d with queue := d.queue ++ [e] }, none) ∧
      Desk.Served (es ++ [e]) { d with queue := d.queue ++ [e] } := fun d hd =>
    (h.desks d hd).offer (h.able_of_mem hd) (isOpen d hd) few e
  refine ⟨?_, ⟨h.able, ?_, ?_⟩, ?_⟩
  · refine List.filterMap_eq_nil_iff.mpr fun d hd => ?_
    rw [(offered d hd).1]
    rfl
  · rw [← h.seats, Audience.emit, List.map_map]
    refine List.map_congr_left fun d hd => ?_
    show (d.offer e).1.subscriber = d.subscriber
    rw [(offered d hd).1]
  · intro d' hd'
    obtain ⟨d, hd, rfl⟩ := List.mem_map.mp hd'
    rw [(offered d hd).1]
    exact (offered d hd).2
  · intro d' hd'
    obtain ⟨d, hd, rfl⟩ := List.mem_map.mp hd'
    rw [(offered d hd).1]
    exact isOpen d hd

theorem Served.close (h : Served n seats es a) : Served n seats es a.close where
  able := h.able
  seats := by
    rw [← h.seats, Audience.close, List.map_map]
    rfl
  desks := by
    intro d' hd'
    obtain ⟨d, hd, rfl⟩ := List.mem_map.mp hd'
    exact (h.desks d hd).close

/-- One desk changes. -/
theorem Served.set (h : Served n seats es a) {i : Nat} {d d' : Desk} (hd : a[i]? = some d)
    (subscriber : d'.subscriber = d.subscriber) (served : d'.Served es) :
    Served n seats es (a.set i d') where
  able := h.able
  seats := by
    have seat : (a.map Desk.subscriber)[i]? = some d.subscriber := by
      rw [List.getElem?_map, hd]
      rfl
    obtain ⟨hi, same⟩ := List.getElem?_eq_some_iff.mp seat
    rw [List.map_set, subscriber, ← same, List.set_getElem_self]
    exact h.seats
  desks := by
    intro x hx
    rcases List.mem_or_eq_of_mem_set hx with old | rfl
    · exact h.desks x old
    · exact served

theorem IsOpen.set (h : a.IsOpen) {i : Nat} {d d' : Desk} (hd : a[i]? = some d)
    (isOpen : d'.isOpen = d.isOpen) : IsOpen (a.set i d') := by
  intro x hx
  rcases List.mem_or_eq_of_mem_set hx with old | rfl
  · exact h x old
  · rw [isOpen]
    exact h d (List.mem_of_getElem? hd)

end Audience

end SharedCounter
