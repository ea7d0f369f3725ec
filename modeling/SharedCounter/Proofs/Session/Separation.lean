import SharedCounter.Proofs.Session.Solo

/-!
# The desks of a session do not affect each other

* `Stamped.renumber`, and the same for all that holds events: other numbers for the events. They
  mean nothing to a desk (`Solo.follow_renumber`);
* `Event.names` : an event tells of a subscriber. Every desk tells of its own
  (`TracedSession.Signed`);
* `TracedSession.unaffected_by_others` : in two sessions, among whatever other subscribers, a
  subscriber that goes through the same is in the same state, and the same is told of it.
-/

namespace SharedCounter

/-! ## Numbers -/

variable (f : Nat → Nat)

namespace Stamped

/-- The event with the number `f` of its own. -/
def renumber (e : Stamped) : Stamped := { e with seq := f e.seq }

@[simp]
theorem event_renumber (e : Stamped) : (e.renumber f).event = e.event := rfl

end Stamped

namespace Desk

def renumber (d : Desk) : Desk :=
  { d with
    queue := d.queue.map (·.renumber f)
    inHand := d.inHand.map (·.renumber f)
    handled := d.handled.map (·.renumber f) }

theorem offer_renumber (d : Desk) (e : Stamped) :
    (d.renumber f).offer (e.renumber f) = ((d.offer e).1.renumber f, (d.offer e).2) := by
  by_cases working : d.duty = .working
  · by_cases room : d.queue.length < d.subscriber.slots <;>
      simp [offer, renumber, working, room]
  · simp [offer, renumber, working]

theorem meeting?_renumber (d : Desk) :
    (d.renumber f).meeting? = d.meeting?.map (·.renumber f) := by
  cases in_hand : d.inHand with
  | some e => simp [meeting?, renumber, in_hand]
  | none =>
    cases queue : d.queue with
    | nil => simp [meeting?, renumber, in_hand, queue]
    | cons e rest =>
      by_cases waits : d.subscriber.gated ∧ d.subscriber.meets e.event ≠ .died <;>
        simp [meeting?, renumber, in_hand, queue, waits]

theorem handle_renumber (d : Desk) (e : Stamped) :
    State.handle ⟨d.renumber f, []⟩ (e.renumber f)
      = ⟨(State.handle ⟨d, []⟩ e).desk.renumber f, (State.handle ⟨d, []⟩ e).events⟩ := by
  rw [handle_eq_of_panic, handle_eq_of_panic]
  cases reaction : d.subscriber.meets e.event <;>
    simp [renumber, reportOf, reaction, Reaction.panic?]

theorem step_renumber (d : Desk) :
    State.step ⟨d.renumber f, []⟩
      = (State.step ⟨d, []⟩).map fun t => ⟨t.desk.renumber f, t.events⟩ := by
  by_cases working : d.duty = .working
  · cases in_hand : d.inHand with
    | some e =>
      have handed := handle_renumber f { d with inHand := none, permits := d.permits - 1 } e
      simp only [renumber, Option.map_none, working] at handed
      by_cases permitted : 0 < d.permits <;>
        simp [State.step, renumber, working, in_hand, permitted, handed]
    | none =>
      cases queue : d.queue with
      | nil =>
        cases opens : d.isOpen <;> simp [State.step, renumber, working, in_hand, queue, opens]
      | cons e rest =>
        have handed := handle_renumber f { d with queue := rest } e
        simp only [renumber, in_hand, Option.map_none, working] at handed
        by_cases fatal : d.subscriber.meets e.event = .died
        · simp [State.step, renumber, working, in_hand, queue, fatal]
        · cases gated : d.subscriber.gated <;>
            simp [State.step, renumber, working, in_hand, queue, fatal, gated, handed]
  · simp [State.step, renumber, working]

theorem tells_renumber (d : Desk) :
    (d.renumber f).tells = d.tells.map fun x => (x.1.renumber f, x.2) := by
  unfold tells
  rw [meeting?_renumber, step_renumber]
  cases d.meeting? <;> cases State.step ⟨d, []⟩ <;> simp

end Desk

namespace Record

def renumber (r : Record) : Record where
  offers := r.offers.map fun x => (x.1.renumber f, x.2)
  met := r.met.map fun x => (x.1.renumber f, x.2)

theorem offer_renumber (r : Record) (e : Stamped) (refusal : Option Refusal) :
    (r.renumber f).offer (e.renumber f) refusal = (r.offer e refusal).renumber f := by
  simp [renumber, offer]

theorem work_renumber (r : Record) (d : Desk) :
    (r.renumber f).work (d.renumber f) = (r.work d).renumber f := by
  rw [work, work, Desk.meeting?_renumber]
  cases d.meeting? <;> simp [renumber, meet, Desk.renumber]

end Record

namespace Solo

def renumber (s : Solo) : Solo where
  desk := s.desk.renumber f
  record := s.record.renumber f
  reports := s.reports.map fun x => (x.1.renumber f, x.2)

/-- The deed done with other numbers. -/
def Deed.renumber : Deed → Deed
  | offer e => offer (e.renumber f)
  | d => d

theorem act_renumber (s : Solo) (d : Deed) :
    (s.renumber f).act (d.renumber f) = (s.act d).map (·.renumber f) := by
  cases d with
  | offer e =>
    have offered := s.desk.offer_renumber f e
    have recorded := s.record.offer_renumber f e (s.desk.offer e).2
    have said : Audience.report (s.desk.renumber f) e.event (s.desk.offer e).2
        = Audience.report s.desk e.event (s.desk.offer e).2 := by
      cases (s.desk.offer e).2 <;> rfl
    have opens : (s.renumber f).desk.isOpen = s.desk.isOpen := rfl
    simp only [act, Deed.renumber, opens]
    split
    · cases report : Audience.report s.desk e.event (s.desk.offer e).2 <;>
        simp [renumber, offered, recorded, said, report]
    · rfl
  | work =>
    have stepped := s.desk.step_renumber f
    have recorded := s.record.work_renumber f s.desk
    have told := s.desk.tells_renumber f
    cases step : Desk.State.step ⟨s.desk, []⟩ <;>
      simp [act, Deed.renumber, renumber, stepped, step, recorded, told]
  | permit n => rfl
  | resolve gated panicsOn mode => rfl
  | close => rfl

/-- Numbers mean nothing to a desk. -/
theorem follow_renumber (s : Solo) (ds : List Deed) :
    follow act (s.renumber f) (ds.map (·.renumber f)) = (follow act s ds).map (·.renumber f) := by
  induction ds generalizing s with
  | nil => rfl
  | cons d ds ih =>
    rw [List.map_cons, follow_cons, follow_cons, act_renumber]
    cases s.act d with
    | none => rfl
    | some t => exact ih t

end Solo

/-! ## Names -/

/-- The event tells that the subscriber lost an event or panicked over one. -/
def Event.names (name : String) (e : Event) : Bool :=
  (e.kind = .subscriberOverflow || e.kind = .subscriberPanicked) && e.producer = some name

@[simp]
theorem Event.names_overflow (name subscriber cause : String) :
    (Event.overflow subscriber cause).names name = decide (subscriber = name) := by
  simp [Event.names, Event.overflow]

@[simp]
theorem Event.names_panicked (name subscriber message : String) :
    (Event.panicked subscriber message).names name = decide (subscriber = name) := by
  simp [Event.names, Event.panicked]

/-- Of the events that others publish, one tells of the subscriber. -/
def Session.Deed.Slanders (name : String) : Session.Deed → Prop
  | publish es => ∃ e ∈ es, e.names name
  | _ => False

/-- What a desk tells is about its own subscriber, and others do not tell of `name`. -/
def Telling.Signed (seats : List String) (name : String) : Telling → Prop
  | desk i _ report => ∃ own, seats[i]? = some own ∧ ∀ name, report.names name = decide (own = name)
  | other e => e.names name = false

/-- What names a subscriber that is the only one of its name comes from its desk. -/
theorem Telling.filter_names {told : List Telling} {seats : List String} {name : String} {i : Nat}
    (signed : ∀ x ∈ told, x.Signed seats name) (seat : seats[i]? = some name)
    (unique : ∀ k, seats[k]? = some name → k = i) :
    (told.map Telling.event).filter (·.names name)
      = (told.filterMap (Telling.of? i)).map Prod.snd := by
  induction told with
  | nil => rfl
  | cons x told ih =>
    have rest := ih fun y hy => signed y (List.mem_cons_of_mem _ hy)
    have first := signed x List.mem_cons_self
    cases x with
    | other e =>
      have silent : (Telling.other e).event.names name = false := first
      rw [List.map_cons, List.filter_cons_of_neg (by simp [silent]), List.filterMap_cons_none rfl]
      exact rest
    | desk j about report =>
      obtain ⟨own, at_j, names⟩ := first
      have names : (Telling.desk j about report).event.names name = decide (own = name) :=
        names name
      by_cases same : own = name
      · have here := unique j (same ▸ at_j)
        have shown : of? i (desk j about report) = some (about, report) := if_pos here
        rw [List.map_cons, List.filter_cons_of_pos (by simp [names, same]),
          List.filterMap_cons_some shown, rest]
        rfl
      · have elsewhere : j ≠ i := by
          rintro rfl
          exact same (Option.some.inj (at_j.symm.trans seat))
        have hidden : of? i (desk j about report) = none := if_neg elsewhere
        rw [List.map_cons, List.filter_cons_of_neg (by simp [names, same]),
          List.filterMap_cons_none hidden]
        exact rest

/-- A worker reports the panics of its own subscriber. -/
theorem Desk.names_of_step {d : Desk} {t : Desk.State} (step : Desk.State.step ⟨d, []⟩ = some t)
    {report : Event} (told : report ∈ t.events) (name : String) :
    report.names name = decide (d.subscriber.name = name) := by
  cases Desk.Goes.of_step step with
  | pass | take =>
    rw [Desk.handle_eq_of_panic] at told
    obtain ⟨text, -, rfl⟩ := Option.map_eq_some_iff.mp (Option.mem_toList.mp told)
    exact Event.names_panicked _ _ _
  | die | wait | leave => cases told

/-- A refusal is reported with the name of the subscriber that lost the event. -/
theorem Audience.signed_of_mem_tellings {a : Audience} {e : Stamped} {x : Telling} {name : String}
    (told : x ∈ a.tellings e) : x.Signed (a.map (·.subscriber.name)) name := by
  obtain ⟨⟨d, i⟩, seated, found⟩ := List.mem_filterMap.mp told
  obtain ⟨report, reported, rfl⟩ := Option.map_eq_some_iff.mp found
  refine ⟨d.subscriber.name, ?_, fun name => ?_⟩
  · simp [List.mem_zipIdx_iff_getElem?.mp seated]
  · cases refusal : (d.offer e).2 with
    | none => simp [Audience.report, refusal] at reported
    | some r =>
      simp only [Audience.report, refusal, Option.ite_none_left_eq_some] at reported
      obtain ⟨-, ⟨⟩⟩ := reported
      exact Event.names_overflow _ _ _

namespace TracedSession

variable {m v : TracedSession} {seats : List String} {name : String}

/-- Every desk tells of its own subscriber, and others do not tell of `name`. -/
structure Signed (seats : List String) (name : String) (m : TracedSession) : Prop where
  names : m.session.audience.map (·.subscriber.name) = seats
  told : ∀ x ∈ m.told, x.Signed seats name

theorem Signed.tell (h : m.Signed seats name) {es : List Telling}
    (signed : ∀ x ∈ es, x.Signed seats name) : ∀ x ∈ m.told ++ es, x.Signed seats name := by
  intro x hx
  exact (List.mem_append.mp hx).elim (h.told x) (signed x)

theorem Signed.onDesk (h : m.Signed seats name) (i : Nat) {f : Desk → Desk}
    (named : ∀ d, (f d).subscriber.name = d.subscriber.name) :
    Signed seats name { m with session := m.session.onDesk i f } := by
  refine ⟨?_, h.told⟩
  rw [← h.names, Session.onDesk]
  refine List.ext_getElem? fun j => ?_
  by_cases same : i = j <;> simp [same, Function.comp_def, named]

/-- Every deed keeps the names. -/
theorem Signed.act {d : Session.Deed} (honest : ¬ d.Slanders name) (act : m.act d = some v)
    (h : m.Signed seats name) : v.Signed seats name := by
  obtain ⟨u, done, rfl⟩ := Option.map_eq_some_iff.mp act
  cases d with
  | emit e =>
    obtain ⟨-, ⟨⟩⟩ := Option.ite_none_right_eq_some.mp done
    refine ⟨?_, h.tell fun x hx => h.names ▸ Audience.signed_of_mem_tellings hx⟩
    rw [← h.names]
    simp [Session.publish, Function.comp_def, Desk.subscriber_offer]
  | work i =>
    obtain ⟨d, seated, moved⟩ := Option.bind_eq_some_iff.mp done
    obtain ⟨t, step, rfl⟩ := Option.map_eq_some_iff.mp moved
    have seat : (m.session.audience.map (·.subscriber.name))[i]? = some d.subscriber.name := by
      simp [seated]
    simp only [note, seated, Option.elim_some]
    refine ⟨?_, h.tell fun x hx => ?_⟩
    · obtain ⟨hi, same⟩ := List.getElem?_eq_some_iff.mp seat
      rw [← h.names, Session.publish, List.map_set, Desk.subscriber_of_step step, ← same,
        List.set_getElem_self]
    · obtain ⟨y, hy, rfl⟩ := List.mem_map.mp hx
      have told : y.2 ∈ t.events := Desk.map_snd_tells step ▸ List.mem_map_of_mem hy
      exact ⟨_, h.names ▸ seat, Desk.names_of_step step told⟩
  | publish es =>
    cases done
    refine ⟨h.names, h.tell fun x hx => ?_⟩
    obtain ⟨e, he, rfl⟩ := List.mem_map.mp hx
    exact Bool.eq_false_iff.mpr fun names => honest ⟨e, he, names⟩
  | permit i n =>
    cases done
    exact h.onDesk i fun _ => rfl
  | resolve i gated panicsOn mode =>
    cases done
    exact h.onDesk i fun _ => rfl
  | shutdown =>
    cases done
    refine ⟨?_, h.told⟩
    rw [← h.names]
    simp [Audience.close, Desk.close, Function.comp_def]

theorem Signed.start {subscribers : List Subscriber} {b : Bus} {n : Nat} {s₀ : Session}
    (opened : Session.start subscribers b n = some s₀) :
    Signed (subscribers.map (·.name)) name { session := s₀ } := by
  obtain ⟨a, made, rfl⟩ := Option.map_eq_some_iff.mp opened
  obtain ⟨-, ⟨⟩⟩ := Option.ite_none_right_eq_some.mp made
  exact ⟨by simp [Function.comp_def], by simp⟩

/-- Subscribers do not affect each other. Of two sessions, with whatever subscribers and however
those panic, stall or are ended, both have the subscriber `s`, whose name no other has and others do
not tell of. If it goes through the same in both, where the events may have other numbers, then it
has been offered and has met the same in the same order, the same is queued and in hand, its worker
is in the same state, and the events that tell of it are the same in the same order. The sessions
may be looked at at any time. -/
theorem unaffected_by_others {subscribers subscribers' : List Subscriber} {bus bus' : Bus}
    {seq seq' : Nat} {s₀ s₀' : Session} {deeds deeds' : List Session.Deed} {m m' : TracedSession}
    (opened : Session.start subscribers bus seq = some s₀)
    (opened' : Session.start subscribers' bus' seq' = some s₀')
    (run : follow act { session := s₀ } deeds = some m)
    (run' : follow act { session := s₀' } deeds' = some m')
    {i j : Nat} {s : Subscriber} (seat : subscribers[i]? = some s)
    (seat' : subscribers'[j]? = some s)
    (unique : ∀ k, (subscribers.map (·.name))[k]? = some s.name → k = i)
    (unique' : ∀ k, (subscribers'.map (·.name))[k]? = some s.name → k = j)
    (honest : ∀ d ∈ deeds, ¬ d.Slanders s.name) (honest' : ∀ d ∈ deeds', ¬ d.Slanders s.name)
    (f : Nat → Nat)
    (same : (deeds.filterMap (·.at? i)).map (·.renumber f)
      = (deeds'.filterMap (·.at? j)).map (·.renumber f)) :
    m.session.bus = bus.publishAll seq (m.told.map Telling.event) ∧
    m'.session.bus = bus'.publishAll seq' (m'.told.map Telling.event) ∧
    (m.told.map Telling.event).filter (·.names s.name)
      = (m'.told.map Telling.event).filter (·.names s.name) ∧
    ∃ t t', m.Seats i t ∧ m'.Seats j t' ∧ t.renumber f = t'.renumber f := by
  obtain ⟨t, alone, seats⟩ := (Seats.start opened seat).follow run
  obtain ⟨t', alone', seats'⟩ := (Seats.start opened' seat').follow run'
  have renumbered := Solo.follow_renumber f { desk := { subscriber := s } }
    (deeds.filterMap (·.at? i))
  have renumbered' := Solo.follow_renumber f { desk := { subscriber := s } }
    (deeds'.filterMap (·.at? j))
  rw [alone] at renumbered
  rw [← same, renumbered, alone'] at renumbered'
  have equal : t.renumber f = t'.renumber f := Option.some.inj renumbered'
  have signed : m.Signed (subscribers.map (·.name)) s.name :=
    follow_invariant_of (fun _ _ _ honest act h => Signed.act honest act h) run honest
      (.start opened)
  have signed' : m'.Signed (subscribers'.map (·.name)) s.name :=
    follow_invariant_of (fun _ _ _ honest act h => Signed.act honest act h) run' honest'
      (.start opened')
  refine ⟨(Published.follow opened run).bus, (Published.follow opened' run').bus, ?_,
    t, t', seats, seats', equal⟩
  rw [Telling.filter_names signed.told (by simp [seat]) unique,
    Telling.filter_names signed'.told (by simp [seat']) unique']
  show (m.reports i).map Prod.snd = (m'.reports j).map Prod.snd
  have reports := congrArg (·.reports.map Prod.snd) equal
  rw [seats.reports, seats'.reports]
  simpa [Solo.renumber, Function.comp_def] using reports

/-- A subscriber with room for one event, once beside one that is ended by a panic, and once behind
one that waits at its gate. The events have other numbers in the second session. -/
theorem unaffected_by_others_of_pair :
    let steady : Subscriber :=
      { name := "steady", queueCapacity := 1, panicsOn := [.drainFinished], panicMode := .named }
    let hasty : Subscriber :=
      { name := "hasty", panicsOn := [.drainStarted], panicMode := .eager }
    let slow : Subscriber := { name := "slow", queueCapacity := 0, gated := true }
    let bus : Bus := { capacity := 4, listeners := 1 }
    let emit (n : Nat) (k : EventKind) : Session.Deed := .emit ⟨n, { kind := k }⟩
    let deeds : List Session.Deed := [emit 0 .drainStarted, .work 1, emit 1 .drainFinished, .work 0,
      emit 2 .drainFinished, .work 0]
    let deeds' : List Session.Deed := [emit 4 .drainStarted, emit 5 .drainFinished, .work 1,
      .publish [{ kind := .counterReported }], .work 0, emit 8 .drainFinished, .work 1]
    ∃ s₀ s₀' m m' t t', Session.start [steady, hasty] bus 0 = some s₀ ∧
      Session.start [slow, steady] bus 9 = some s₀' ∧
      follow act { session := s₀ } deeds = some m ∧
      follow act { session := s₀' } deeds' = some m' ∧
      m.Seats 0 t ∧ m'.Seats 1 t' ∧ t.renumber (fun _ => 0) = t'.renumber (fun _ => 0) ∧
      (m'.told.map Telling.event).filter (·.names "steady") = [Event.overflow "steady" "full",
        Event.panicked "steady" "steady failed on DrainFinished"] ∧
      (m.told.map Telling.event).filter (·.names "steady")
        = (m'.told.map Telling.event).filter (·.names "steady") := by
  intro steady hasty slow bus emit deeds deeds'
  let s₀ : Session :=
    { audience := [{ subscriber := steady }, { subscriber := hasty }], bus, seq := 0 }
  let s₀' : Session :=
    { audience := [{ subscriber := slow }, { subscriber := steady }], bus, seq := 9 }
  have opened : Session.start [steady, hasty] bus 0 = some s₀ := by
    simp [Session.start, Audience.open?, Subscriber.slots, steady, hasty, s₀, slotMax]
  have opened' : Session.start [slow, steady] bus 9 = some s₀' := by
    simp [Session.start, Audience.open?, Subscriber.slots, slow, steady, s₀', slotMax]
  have ends : (follow act { session := s₀ } deeds).isSome := by decide +kernel
  have ends' : (follow act { session := s₀' } deeds').any (fun m' =>
      (m'.told.map Telling.event).filter (·.names "steady") = [Event.overflow "steady" "full",
        Event.panicked "steady" "steady failed on DrainFinished"]) = true := by
    decide +kernel
  obtain ⟨m, run⟩ := Option.isSome_iff_exists.mp ends
  obtain ⟨m', run', told'⟩ := (Option.any_eq_true _ _).mp ends'
  have unique : ∀ k, ([steady, hasty].map (·.name))[k]? = some steady.name → k = 0 := by
    intro k named
    have others : ([steady, hasty].map (·.name)).Nodup := by simp [steady, hasty]
    exact ((List.getElem?_inj Nat.zero_lt_two others).mp named.symm).symm
  have unique' : ∀ k, ([slow, steady].map (·.name))[k]? = some steady.name → k = 1 := by
    intro k named
    have others : ([slow, steady].map (·.name)).Nodup := by simp [steady, slow]
    exact ((List.getElem?_inj Nat.one_lt_two others).mp named.symm).symm
  have honest : ∀ d ∈ deeds, ¬ d.Slanders steady.name := by
    simp [deeds, emit, Session.Deed.Slanders]
  have honest' : ∀ d ∈ deeds', ¬ d.Slanders steady.name := by
    simp [deeds', emit, Session.Deed.Slanders, Event.names]
  obtain ⟨-, -, same, t, t', seats, seats', equal⟩ := unaffected_by_others opened opened' run run'
    (i := 0) (j := 1) rfl rfl unique unique' honest honest' (fun _ => 0) rfl
  exact ⟨s₀, s₀', m, m', t, t', opened, opened', run, run', seats, seats', equal,
    of_decide_eq_true told', same⟩

end TracedSession

end SharedCounter
