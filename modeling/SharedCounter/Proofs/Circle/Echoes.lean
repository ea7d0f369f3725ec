import SharedCounter.Proofs.Circle.Price

/-!
# Whether the circle falls quiet

* `Circle.Turning` : a circle with one desk. Each of its deeds is spelled out (`Turning.hear`,
  `Turning.offer`, `Turning.work`, `Turning.permit`);
* `Circle.Turning.round` : if the subscriber panics over every event, an event on the bus makes one
  round, after which the report of the panic is on the bus;
* `Circle.echoes` : if no subscriber panics over reports, the desks publish only so much, and the
  circle falls quiet; if one does, it need not.
-/

namespace SharedCounter

/-- The worker of the subscriber `s` waits for an event. -/
structure Desk.Idle (s : Subscriber) (d : Desk) : Prop where
  subscriber : d.subscriber = s
  queue : d.queue = []
  inHand : d.inHand = none
  duty : d.duty = .working

theorem Desk.step_of_take {d : Desk} {e : Stamped} {rest : List Stamped}
    (working : d.duty = .working) (free : d.inHand = none) (queue : d.queue = e :: rest)
    (survives : d.subscriber.meets e.event ≠ .died) (ungated : ¬ d.subscriber.gated) :
    State.step ⟨d, []⟩ = some (State.handle ⟨{ d with queue := rest }, []⟩ e) := by
  simp [State.step, working, free, queue, survives, ungated]

theorem Desk.step_of_pass {d : Desk} {e : Stamped} (working : d.duty = .working)
    (inHand : d.inHand = some e) (permitted : 0 < d.permits) :
    State.step ⟨d, []⟩
      = some (State.handle ⟨{ d with inHand := none, permits := d.permits - 1 }, []⟩ e) := by
  simp [State.step, working, inHand, permitted]

/-- A panic while handling leaves the desk as it is. -/
theorem Desk.handle_of_panic {d : Desk} {e : Stamped}
    (panics : (d.subscriber.meets e.event).panic?.isSome) :
    ∃ report, State.handle ⟨d, []⟩ e = ⟨d, [report]⟩ := by
  obtain ⟨text, panic⟩ := Option.isSome_iff_exists.mp panics
  exact ⟨d.reportOf text, by simp [handle_eq_of_panic, panic]⟩

namespace Circle

variable {c : Circle}

/-! ## A circle that does not stop -/

/-- The only desk is `d`, the desks have published `k` reports of one event, and of all this
`unread` events are still to be heard. -/
structure Turning (k : Nat) (d : Desk) (offers : List (Nat × Stamped)) (unread : Nat)
    (c : Circle) : Prop where
  isOpen : c.traced.session.isOpen = true
  audience : c.traced.session.audience = [d]
  offers : c.offers = offers
  listened : 0 < c.traced.session.bus.listeners
  capacity : 0 < c.traced.session.bus.capacity
  unread : c.reader.next + unread = c.traced.session.bus.history.size
  reported : c.traced.reported = k
  outside : c.traced.outside = 1

variable {k : Nat} {d : Desk} {e : Stamped}

theorem Turning.hear (h : c.Turning k d [] 1) :
    ∃ e u, c.act .hear = some u ∧ u.Turning k d [(0, e)] 0 := by
  have capacity := h.capacity
  have unread := h.unread
  have kept : c.traced.session.bus.oldest ≤ c.reader.next := by
    rw [Bus.oldest]
    omega
  have inside : c.reader.next < c.traced.session.bus.history.size := by omega
  have found := Array.getElem?_eq_getElem inside
  refine ⟨c.traced.session.bus.history[c.reader.next], _,
    act_hear h.isOpen h.offers kept found, ?_⟩
  exact { h with
    offers := by simp [h.audience]
    unread := by simpa using unread }

theorem Turning.offer (h : c.Turning k d [(0, e)] 0) (working : d.duty = .working)
    (queue : d.queue = []) :
    ∃ u, c.act .offer = some u ∧ u.Turning k { d with queue := [e] } [] 0 := by
  have queued : d.offer e = ({ d with queue := [e] }, none) := by
    have room : 0 < d.subscriber.slots := Nat.lt_of_lt_of_le Nat.one_pos (Nat.le_max_right _ _)
    simp [Desk.offer, working, queue, room]
  have offered : c.traced.offerAt 0 e = { c.traced with
      session := { c.traced.session with audience := [{ d with queue := [e] }] }
      records := Function.update c.traced.records 0 ((c.traced.records 0).offer e none) } := by
    simp [TracedSession.offerAt, queued, Audience.report, Session.publish, h.audience,
      Bus.publishAll, stampFrom]
  refine ⟨_, act_offer h.offers, ?_⟩
  rw [offered]
  exact { h with audience := rfl, offers := rfl }

theorem Turning.work {t : Desk.State} {unread : Nat} (h : c.Turning k d [] unread)
    (step : Desk.State.step ⟨d, []⟩ = some t) :
    ∃ u, c.act (.beside (.work 0)) = some u ∧
      u.Turning (k + t.events.length) t.desk [] (unread + t.events.length) := by
  have seated : c.traced.session.audience[0]? = some d := by simp [h.audience]
  obtain ⟨m, act, session, told⟩ := TracedSession.act_work seated step
  have same := Desk.length_tells step
  obtain ⟨reported, outside⟩ := TracedSession.counts_of_reports (fun _ => rfl) told
  have history := (Bus.foldl_publish h.listened (stampFrom c.traced.session.seq t.events)).1
  have size : m.session.bus.history.size
      = c.traced.session.bus.history.size + t.events.length := by
    rw [session]
    simpa [Bus.publishAll, Session.publish] using congrArg List.length history
  refine ⟨_, act_beside rfl act, ?_⟩
  exact {
    isOpen := by rw [session]; exact h.isOpen
    audience := by rw [session]; simp [Session.publish, h.audience]
    offers := h.offers
    listened := by rw [session]; exact (Bus.listeners_publishAll ..).symm ▸ h.listened
    capacity := by rw [session]; exact (Bus.capacity_publishAll ..).symm ▸ h.capacity
    unread := by rw [size, ← h.unread, Nat.add_assoc]
    reported := by rw [reported, h.reported, same]
    outside := outside.trans h.outside }

theorem Turning.permit {unread : Nat} (h : c.Turning k d [] unread) (n : Nat) :
    ∃ u, c.act (.beside (.permit 0 n)) = some u ∧ u.Turning k (d.permit n) [] unread := by
  refine ⟨_, act_beside rfl rfl, ?_⟩
  exact { h with audience := by simp [Session.onDesk, h.audience] }

/-- If the subscriber panics over every event, then an event on the bus makes one round, and leaves
the report of the panic behind. -/
theorem Turning.round {s : Subscriber} (panics : ∀ e, (s.meets e).panic?.isSome)
    (h : c.Turning k d [] 1) (idle : d.Idle s) :
    ∃ u d', Leads act c u ∧ u.Turning (k + 1) d' [] 1 ∧ d'.Idle s := by
  obtain ⟨e, c₁, heard, h⟩ := h.hear
  obtain ⟨c₂, offered, h⟩ := h.offer idle.duty idle.queue
  have first : Leads act c c₂ := (Leads.refl c).move heard |>.move offered
  obtain ⟨rfl, queue, in_hand, working⟩ := idle
  have survives : d.subscriber.meets e.event ≠ .died := fun died => by
    have panic := panics e.event
    rw [died] at panic
    cases panic
  cases gated : d.subscriber.gated with
  | false =>
    obtain ⟨report, panicked⟩ := Desk.handle_of_panic (d := d) (panics e.event)
    have taken := Desk.step_of_take (d := { d with queue := [e] }) working in_hand rfl survives
      (by simp [gated])
    have same : ({ d with queue := [] } : Desk) = d := by rw [← queue]
    rw [same, panicked] at taken
    obtain ⟨c₃, worked, h⟩ := h.work taken
    exact ⟨c₃, d, first.move worked, h, rfl, queue, in_hand, working⟩
  | true =>
    have taken : Desk.State.step ⟨{ d with queue := [e] }, []⟩
        = some ⟨{ d with inHand := some e }, []⟩ := by
      simp [Desk.State.step, working, in_hand, queue, survives, gated]
    obtain ⟨c₃, worked, h⟩ := h.work taken
    obtain ⟨c₄, permitted, h⟩ := h.permit 1
    obtain ⟨report, panicked⟩ := Desk.handle_of_panic (d := d) (panics e.event)
    have passed : Desk.State.step ⟨Desk.permit { d with inHand := some e } 1, []⟩
        = some (Desk.State.handle ⟨{ d with inHand := none }, []⟩ e) :=
      Desk.step_of_pass working rfl (Nat.succ_pos _)
    have same : ({ d with inHand := none } : Desk) = d := by rw [← in_hand]
    rw [same, panicked] at passed
    obtain ⟨c₅, worked', h⟩ := h.work passed
    exact ⟨c₅, d, ((first.move worked).move permitted).move worked', h, rfl, queue, in_hand,
      working⟩

/-- The reports of one event never end. -/
theorem Turning.rounds {s : Subscriber} (panics : ∀ e, (s.meets e).panic?.isSome)
    (h : c.Turning 0 d [] 1) (idle : d.Idle s) (n : Nat) :
    ∃ u d', Leads act c u ∧ u.Turning n d' [] 1 ∧ d'.Idle s := by
  induction n with
  | zero => exact ⟨c, d, .refl c, h, idle⟩
  | succ n ih =>
    obtain ⟨u, d', there, turning, idle⟩ := ih
    obtain ⟨v, d'', round, turning, idle⟩ := turning.round panics idle
    exact ⟨v, d'', there.trans round, turning, idle⟩

/-- Others publish the first event. -/
theorem Turning.start {s : Subscriber} {bus : Bus} {seq : Nat} (opened : start [s] bus seq = some c)
    (capacity : 0 < bus.capacity) (e : Event) :
    ∃ u, c.act (.beside (.publish [e])) = some u ∧ u.Turning 0 { subscriber := s } [] 1 := by
  obtain rfl := eq_of_start opened
  refine ⟨_, act_beside rfl rfl, ?_⟩
  exact {
    isOpen := rfl
    audience := rfl
    offers := rfl
    listened := by simp [Session.publish, Bus.listeners_publishAll]
    capacity := by simpa [Session.publish, Bus.capacity_publishAll] using capacity
    unread := by simp [Session.publish, Bus.publishAll, stampFrom, Bus.publish]
    reported := rfl
    outside := rfl }

/-- How far reports of reports go.

If no subscriber panics while handling a report, then in every circle, whatever the queues, the
gates and the order of deeds, `m` events that others publish cause at most `m * n * (1 + n)` reports
at `n` desks, and only so many steps of the listener and the workers: the circle falls quiet.

Without that it need not. If the only subscriber panics over every event, then one event can cause
more reports than any given number before the circle is stopped. -/
theorem echoes :
    (∀ (subscribers : List Subscriber) (bus : Bus) (seq : Nat) (c₀ c : Circle) (deeds : List Deed),
      start subscribers bus seq = some c₀ → (∀ s ∈ subscribers, s.Calm) → (∀ d ∈ deeds, d.Calm) →
      follow act c₀ deeds = some c →
        let n := subscribers.length
        let m := c.traced.outside
        c.traced.reported ≤ m * n * (1 + n) ∧
          (deeds.map Deed.steps).sum ≤ n + m * (1 + 4 * n + 4 * n ^ 2 + 3 * n ^ 3)) ∧
    ∀ (s : Subscriber) (bus : Bus) (seq : Nat) (c₀ : Circle) (e : Event) (k : Nat),
      start [s] bus seq = some c₀ → 0 < bus.capacity → (∀ e, (s.meets e).panic?.isSome) →
        ∃ deeds c, follow act c₀ (.beside (.publish [e]) :: deeds) = some c ∧
          c.traced.session.isOpen ∧ c.traced.outside = 1 ∧ k < c.traced.reported := by
  constructor
  · intro subscribers bus seq c₀ c deeds opened atStart calm run n m
    refine ⟨reported_le opened atStart calm run, ?_⟩
    have steps := cost_le opened atStart calm run { step := 1, report := 0 }
    simp only [Rates.price, Rates.cause, Nat.zero_mul, Nat.mul_one, Nat.one_mul, Nat.zero_add,
      Nat.add_zero] at steps
    calc (deeds.map Deed.steps).sum ≤ n + (1 + n * (3 + (1 + n * (3 + (1 + n * 3))))) * m := steps
      _ = n + m * (1 + 4 * n + 4 * n ^ 2 + 3 * n ^ 3) := by ring
  · intro s bus seq c₀ e k opened capacity panics
    obtain ⟨c₁, published, turning⟩ := Turning.start opened capacity e
    obtain ⟨c, d, ⟨deeds, run⟩, turning, -⟩ := turning.rounds panics ⟨rfl, rfl, rfl, rfl⟩ (k + 1)
    refine ⟨deeds, c, ?_, turning.isOpen, turning.outside, ?_⟩
    · rw [follow_cons, published]
      exact run
    · rw [turning.reported]
      exact Nat.lt_succ_self k

/-- Two subscribers that are calm, one of which refuses and one of which panics over an event; and
one that panics over every event, with which one event causes three reports and more. -/
theorem echoes_of_pair :
    let small : Subscriber := { name := "small", queueCapacity := 1, gated := true }
    let shaky : Subscriber := { name := "shaky", panicsOn := [.drainStarted] }
    let bus : Bus := { capacity := 4 }
    let deeds : List Deed := [.beside (.publish [{ kind := .drainFinished }]), .hear, .offer,
      .offer, .beside (.publish [{ kind := .drainStarted }]), .hear, .offer, .offer,
      .beside (.work 1), .beside (.work 1), .hear, .offer, .offer, .hear, .offer, .offer]
    (∃ c₀ c, start [small, shaky] bus 0 = some c₀ ∧ follow act c₀ deeds = some c ∧
      c.traced.reported = 3 ∧ c.traced.reported ≤ 2 * 2 * (1 + 2)) ∧
    let loud : Subscriber := { name := "loud", panicsOn := EventKind.all }
    ∃ c₀ deeds c, start [loud] bus 0 = some c₀ ∧ follow act c₀ deeds = some c ∧
      c.traced.session.isOpen ∧ c.traced.outside = 1 ∧ 2 < c.traced.reported := by
  intro small shaky bus deeds
  constructor
  · have opened : (start [small, shaky] bus 0).isSome := by decide +kernel
    obtain ⟨c₀, opened⟩ := Option.isSome_iff_exists.mp opened
    have seen : ((start [small, shaky] bus 0).bind (follow act · deeds)).any (fun c =>
        c.traced.outside = 2 ∧ c.traced.reported = 3) = true := by
      decide +kernel
    rw [opened] at seen
    obtain ⟨c, run, counts⟩ := (Option.any_eq_true _ _).mp seen
    obtain ⟨outside, reported⟩ := of_decide_eq_true counts
    have calm : ∀ d ∈ deeds, d.Calm := by simp [deeds, Deed.Calm]
    have bounded := (echoes.1 _ _ _ _ _ _ opened (by decide) calm run).1
    rw [outside] at bounded
    exact ⟨c₀, c, opened, run, reported, bounded⟩
  · intro loud
    have opened : (start [loud] bus 0).isSome := by decide +kernel
    obtain ⟨c₀, opened⟩ := Option.isSome_iff_exists.mp opened
    have panics : ∀ e, (loud.meets e).panic?.isSome := by
      intro e
      simp [Subscriber.meets, loud, EventKind.mem_all, Reaction.panic?]
    obtain ⟨deeds, c, run, many⟩ := echoes.2 loud bus 0 c₀ { kind := .counterReported } 2 opened
      (by decide) panics
    exact ⟨c₀, _, c, opened, run, many⟩

end Circle

end SharedCounter
