import SharedCounter.Proofs.Session.Solo

/-!
# Panics and the worker

* `Record.refusals` : the events that were refused, and why; `Record.unharmed` : those met without a
  panic while they were handled;
* `Solo.Going` : no panic has ended the worker. What was accepted is met in order, nothing was
  refused as closed, and the worker is there as long as there is anything to do;
* `Solo.Gone` : the panic at a hand-over has ended it. What was queued behind that event is lost,
  and whatever is offered later is refused as closed;
* `Solo.Standing` : a desk is one or the other, and has reported each refusal and each panic while
  handling once. The panic at a hand-over is not reported;
* `TracedSession.survives_panics` : so it is for every desk at any time in a session, however its
  subscriber panics. `TracedSession.dies_at_hand_over` is a desk whose worker has been ended.
-/

namespace SharedCounter

namespace Record

variable (r : Record) (e : Stamped)

/-- The events that were refused, and why. -/
def refusals : List (Stamped × Refusal) := r.offers.filterMap fun x => x.2.map (x.1, ·)

/-- The events that were met without a panic while they were handled. -/
def unharmed : List Stamped := (r.met.filter (·.2.panic?.isNone)).map Prod.fst

@[simp]
theorem unharmed_offer (refusal : Option Refusal) : (r.offer e refusal).unharmed = r.unharmed := rfl

@[simp]
theorem unharmed_meet (reaction : Reaction) : (r.meet e reaction).unharmed
    = r.unharmed ++ if reaction.panic?.isNone then [e] else [] := by
  by_cases calm : reaction.panic?.isNone <;> simp [meet, unharmed, calm]

@[simp]
theorem refusals_offer (refusal : Option Refusal) :
    (r.offer e refusal).refusals = r.refusals ++ (refusal.map (e, ·)).toList := by
  cases refusal <;> simp [offer, refusals]

@[simp]
theorem refusals_meet (reaction : Reaction) : (r.meet e reaction).refusals = r.refusals := rfl

@[simp]
theorem offers_offer (refusal : Option Refusal) :
    (r.offer e refusal).offers = r.offers ++ [(e, refusal)] := rfl

@[simp]
theorem offers_meet (reaction : Reaction) : (r.meet e reaction).offers = r.offers := rfl

end Record

namespace Solo

/-- The worker at the desk has not been ended by a panic. -/
structure Going (s : Solo) : Prop where
  handled : s.record.unharmed = s.desk.handled.toList
  /-- What was accepted is met in order, and what is not met yet is in hand or queued. -/
  accepted : s.record.accepted = s.record.met.map Prod.fst ++ s.desk.inHand.toList ++ s.desk.queue
  welcome : ∀ x ∈ s.record.offers, x.2 ≠ some .closed
  duty : s.desk.duty = .working ∨
    s.desk.duty = .left ∧ s.desk.isOpen = false ∧ s.desk.inHand = none ∧ s.desk.queue = []

/-- The worker at the desk has been ended by the panic over the last event that was met. -/
structure Gone (s : Solo) : Prop where
  duty : s.desk.duty = .died
  inHand : s.desk.inHand = none
  queue : s.desk.queue = []
  fatal : ∃ met e, s.record.met = met ++ [(e, .died)] ∧
    s.record.unharmed = s.desk.handled.toList ++ [e]
  /-- What was accepted and not met is lost. -/
  lost : ∃ lost, s.record.accepted = s.record.met.map Prod.fst ++ lost
  /-- Whatever was offered later was refused as closed. -/
  closed : ∃ earlier later, s.record.offers = earlier ++ later ∧
    (∀ x ∈ earlier, x.2 ≠ some .closed) ∧ ∀ x ∈ later, x.2 = some .closed

/-- What the desk of the subscriber `name` has done, and whether its worker has been ended. -/
structure Standing (name : String) (s : Solo) : Prop where
  named : s.desk.subscriber.name = name
  /-- A refusal is reported once, unless the event itself tells of one. -/
  overflows : s.reports.filter (·.2.kind = .subscriberOverflow)
    = (s.record.refusals.filter (·.1.event.kind ≠ .subscriberOverflow)).map fun x =>
      (x.1, { kind := .subscriberOverflow, producer := some name
              reason := some ("subscriber=" ++ name ++ " reason=" ++
                if x.2 = .full then "full" else "closed") })
  /-- A panic while handling is reported once, with the text that it left. -/
  panics : s.reports.filter (·.2.kind ≠ .subscriberOverflow)
    = s.record.panics.map fun x =>
      (x.1, { kind := .subscriberPanicked, producer := some name
              reason := some (x.2.getD "unknown panic") })
  fate : s.Going ∨ s.Gone

variable {name : String} {s t : Solo} {e : Stamped}

theorem Going.start (s : Subscriber) : Going { desk := { subscriber := s } } where
  handled := rfl
  accepted := rfl
  welcome := by simp
  duty := .inl rfl

theorem Standing.start (s : Subscriber) : Standing s.name { desk := { subscriber := s } } where
  named := rfl
  overflows := rfl
  panics := rfl
  fate := .inl (.start s)

theorem Going.working (h : s.Going) (isOpen : s.desk.isOpen = true) : s.desk.duty = .working := by
  refine h.duty.resolve_right fun left => ?_
  rw [left.2.1] at isOpen
  cases isOpen

/-- No worker goes on after it has been ended. -/
theorem Standing.going_iff (h : s.Standing name) : s.Going ↔ s.desk.duty ≠ .died := by
  constructor
  · intro going
    rcases going.duty with working | left
    · simp [working]
    · simp [left.1]
  · intro alive
    exact h.fate.resolve_right fun gone => alive gone.duty

theorem mem_offer {r : Record} {refusal : Option Refusal} {P : Stamped × Option Refusal → Prop}
    (before : ∀ x ∈ r.offers, P x) (now : P (e, refusal)) :
    ∀ x ∈ (r.offer e refusal).offers, P x := by
  intro x hx
  rcases List.mem_append.mp hx with old | new
  · exact before x old
  · exact List.mem_singleton.mp new ▸ now

/-- An event is refused, and the refusal reported unless the event itself tells of one. -/
theorem Standing.overflows_refuse (h : s.Standing name) (refusal : Refusal) :
    (s.reports ++ ((Audience.report s.desk e.event (some refusal)).map (e, ·)).toList).filter
        (·.2.kind = .subscriberOverflow)
      = ((s.record.offer e (some refusal)).refusals.filter
          (·.1.event.kind ≠ .subscriberOverflow)).map fun x =>
        (x.1, { kind := .subscriberOverflow, producer := some name
                reason := some ("subscriber=" ++ name ++ " reason=" ++
                  if x.2 = .full then "full" else "closed") }) := by
  by_cases silent : e.event.kind = .subscriberOverflow
  · simp [Audience.report, h.overflows, silent]
  · cases refusal <;>
      simp [Audience.report, h.overflows, silent, h.named, Event.overflow, Refusal.name]

theorem Standing.panics_refuse (h : s.Standing name) (refusal : Refusal) :
    (s.reports ++ ((Audience.report s.desk e.event (some refusal)).map (e, ·)).toList).filter
        (·.2.kind ≠ .subscriberOverflow)
      = (s.record.offer e (some refusal)).panics.map fun x =>
        (x.1, { kind := .subscriberPanicked, producer := some name
                reason := some (x.2.getD "unknown panic") }) := by
  by_cases silent : e.event.kind = .subscriberOverflow <;>
    simpa [Audience.report, silent] using h.panics

theorem Standing.offer (h : s.Standing name) (act : s.act (.offer e) = some t) :
    t.Standing name := by
  obtain ⟨isOpen, ⟨⟩⟩ := Option.ite_none_right_eq_some.mp act
  rcases h.fate with going | gone
  · have working := going.working isOpen
    by_cases room : s.desk.queue.length < s.desk.subscriber.slots
    · have queued : s.desk.offer e = ({ s.desk with queue := s.desk.queue ++ [e] }, none) := by
        simp [Desk.offer, working, room]
      rw [queued]
      exact { h with
        overflows := by simp [Audience.report, h.overflows]
        panics := by simpa [Audience.report] using h.panics
        fate := .inl { going with
          accepted := by simp [going.accepted]
          welcome := mem_offer going.welcome (by simp)
          duty := .inl working } }
    · have refused : s.desk.offer e = (s.desk, some .full) := by simp [Desk.offer, working, room]
      rw [refused]
      exact { h with
        overflows := h.overflows_refuse .full
        panics := h.panics_refuse .full
        fate := .inl { going with
          accepted := by simp [going.accepted]
          welcome := mem_offer going.welcome (by simp) } }
  · have refused : s.desk.offer e = (s.desk, some .closed) := by simp [Desk.offer, gone.duty]
    rw [refused]
    obtain ⟨earlier, later, all, welcome, closed⟩ := gone.closed
    exact { h with
      overflows := h.overflows_refuse .closed
      panics := h.panics_refuse .closed
      fate := .inr { gone with
        lost := by simpa using gone.lost
        closed := ⟨earlier, later ++ [(e, some .closed)], by simp [all], welcome, by
          simpa [or_imp, forall_and] using closed⟩ } }

theorem Standing.meet (h : s.Standing name) (going : s.Going) (working : s.desk.duty = .working)
    {queue : List Stamped} {inHand : Option Stamped} (permits : Nat)
    (next : s.desk.inHand.toList ++ s.desk.queue = e :: (inHand.toList ++ queue)) :
    let t := Desk.State.handle ⟨{ s.desk with queue, inHand, permits }, []⟩ e
    Standing name ⟨t.desk, s.record.meet e (s.desk.subscriber.meets e.event),
      s.reports ++ t.events.map (e, ·)⟩ := by
  dsimp only
  rw [Desk.handle_eq_of_panic { s.desk with queue, inHand, permits } e]
  exact { h with
    overflows := by
      cases s.desk.subscriber.meets e.event <;>
        simp [Reaction.panic?, Desk.reportOf, h.overflows]
    panics := by
      cases s.desk.subscriber.meets e.event <;>
        simpa [Reaction.panic?, Desk.reportOf, panicMessage, h.named, Event.panicked] using h.panics
    fate := .inl { going with
      handled := by
        cases s.desk.subscriber.meets e.event <;> simp [Reaction.panic?, going.handled]
      accepted := by
        rw [Record.accepted_meet, going.accepted, List.append_assoc, next]
        simp
      duty := .inl working } }

theorem Standing.work (h : s.Standing name) (act : s.act .work = some t) : t.Standing name := by
  obtain ⟨u, step, rfl⟩ := Option.map_eq_some_iff.mp act
  have working := Desk.working_of_step step
  have going : s.Going := h.going_iff.mpr (by simp [working])
  unfold Desk.tells
  rw [step]
  cases Desk.Goes.of_step step with
  | @pass e in_hand =>
    have meeting : s.desk.meeting? = some e := by simp [Desk.meeting?, in_hand]
    rw [Record.work, meeting]
    exact h.meet going working (s.desk.permits - 1) (by simp [in_hand])
  | @die e rest free queue fatal =>
    have meeting : s.desk.meeting? = some e := by simp [Desk.meeting?, free, queue, fatal]
    rw [Record.work, meeting]
    have accepted := going.accepted
    rw [free, queue] at accepted
    exact { h with
      overflows := by simp [h.overflows]
      panics := by simpa [fatal, Reaction.panic?] using h.panics
      fate := .inr {
        duty := rfl
        inHand := free
        queue := rfl
        fatal := ⟨s.record.met, e, by simp [fatal], by simp [fatal, Reaction.panic?, going.handled]⟩
        lost := ⟨rest, by simp [accepted]⟩
        closed := ⟨s.record.offers, [], by simp, going.welcome, by simp⟩ } }
  | wait free queue survives gated =>
    have meeting : s.desk.meeting? = none := by simp [Desk.meeting?, free, queue, survives, gated]
    rw [Record.work, meeting]
    have accepted := going.accepted
    rw [free, queue] at accepted
    exact { h with
      overflows := by simp [h.overflows]
      panics := by simpa using h.panics
      fate := .inl { going with
        accepted := by simpa using accepted
        duty := .inl working } }
  | @take e rest free queue survives ungated =>
    have meeting : s.desk.meeting? = some e := by simp [Desk.meeting?, free, queue, ungated]
    rw [Record.work, meeting]
    exact h.meet going working s.desk.permits (by simp [free, queue])
  | leave free queue closed =>
    have meeting : s.desk.meeting? = none := by simp [Desk.meeting?, free, queue]
    rw [Record.work, meeting]
    exact { h with
      overflows := by simp [h.overflows]
      panics := by simpa using h.panics
      fate := .inl { going with duty := .inr ⟨rfl, closed, free, queue⟩ } }

theorem Standing.act {d : Deed} (h : s.Standing name) (act : s.act d = some t) :
    t.Standing name := by
  cases d with
  | offer e => exact h.offer act
  | work => exact h.work act
  | permit n | resolve gated panicsOn mode =>
    cases act
    exact { h with
      fate := h.fate.imp (fun going => { going with }) fun gone => { gone with } }
  | close =>
    cases act
    exact { h with
      fate := h.fate.imp
        (fun going => { going with
          duty := going.duty.imp_right fun left => ⟨left.1, rfl, left.2.2⟩ })
        fun gone => { gone with } }

/-- A subscriber that panics only while handling does not come to panic at the hand-over. -/
def Deed.Late : Deed → Prop
  | resolve _ _ mode => mode ≠ .eager
  | _ => True

/-- No worker is ended if its subscriber panics only while handling. -/
theorem lasts {d : Deed} (late : d.Late) (act : s.act d = some t)
    (h : s.desk.subscriber.panicMode ≠ .eager ∧ s.desk.duty ≠ .died) :
    t.desk.subscriber.panicMode ≠ .eager ∧ t.desk.duty ≠ .died := by
  cases d with
  | offer e =>
    obtain ⟨-, ⟨⟩⟩ := Option.ite_none_right_eq_some.mp act
    unfold Desk.offer
    repeat' split
    all_goals exact h
  | work =>
    obtain ⟨u, step, rfl⟩ := Option.map_eq_some_iff.mp act
    cases Desk.Goes.of_step step with
    | die free queue fatal => exact absurd fatal (Subscriber.meets_ne_died h.1 _)
    | pass => exact Desk.handle_eq_of_panic _ _ ▸ h
    | take => exact Desk.handle_eq_of_panic _ _ ▸ h
    | wait => exact h
    | leave => exact ⟨h.1, by simp⟩
  | resolve gated panicsOn mode =>
    cases act
    exact ⟨late, h.2⟩
  | permit n | close =>
    cases act
    exact h

end Solo

namespace TracedSession

variable {m : TracedSession}

/-- Only a panic at the hand-over ends a worker. Whatever the subscribers are, however they panic,
and in whatever order events are emitted, workers go on, gates open, subscribers change their ways
and the session is shut down: every desk has reported each refusal and each panic while handling
once, with the name of its subscriber, and all of this has entered the bus. As long as no panic has
ended its worker, what was accepted is met in order, nothing was refused as closed, and the worker
goes on as long as there is an event for it; and no panic while handling ever ends it. But the panic
at a hand-over does, unreported: what was queued is lost, and what is offered later is refused. -/
theorem survives_panics {subscribers : List Subscriber} {bus : Bus} {seq : Nat} {s₀ : Session}
    {deeds : List Session.Deed} (opened : Session.start subscribers bus seq = some s₀)
    (run : follow act { session := s₀ } deeds = some m) :
    m.session.bus = bus.publishAll seq (m.told.map Telling.event) ∧
    ∀ i s, subscribers[i]? = some s → ∃ t, m.Seats i t ∧ t.Standing s.name ∧
      (t.Going ↔ t.desk.duty ≠ .died) ∧
      (t.Going → t.desk.inHand = none → t.desk.queue ≠ [] → t.desk.awake) ∧
      (t.Going → ∀ e, t.desk.inHand = some e → 0 < t.desk.permits → t.desk.awake) ∧
      (s.panicMode ≠ .eager → (∀ d ∈ deeds.filterMap (·.at? i), d.Late) → t.Going) := by
  refine ⟨(Published.follow opened run).bus, fun i s seat => ?_⟩
  obtain ⟨t, alone, seats⟩ := (Seats.start opened seat).follow run
  have standing : t.Standing s.name :=
    follow_invariant (fun _ _ _ act h => Solo.Standing.act h act) alone (.start s)
  have working : t.Going → t.desk.queue ≠ [] ∨ t.desk.inHand ≠ none → t.desk.duty = .working := by
    intro going busy
    refine going.duty.resolve_right fun left => ?_
    exact busy.elim (· left.2.2.2) (· left.2.2.1)
  refine ⟨t, seats, standing, standing.going_iff, ?_, ?_, ?_⟩
  · intro going free queued
    exact Desk.awake_of_queue (working going (.inl queued)) free queued
  · intro going e in_hand permitted
    exact Desk.awake_of_inHand (working going (.inr (by simp [in_hand]))) in_hand permitted
  · intro atStart late
    refine standing.going_iff.mpr ?_
    exact (follow_invariant_of (P := fun t : Solo =>
      t.desk.subscriber.panicMode ≠ .eager ∧ t.desk.duty ≠ .died)
      (fun _ _ _ late act h => Solo.lasts late act h) alone late ⟨atStart, by simp⟩).2

/-- Of two subscribers that panic over the same event, one panics at the hand-over and loses the
event behind it; the other goes on. -/
theorem survives_panics_of_pair :
    let hasty : Subscriber :=
      { name := "hasty", panicsOn := [.drainStarted], panicMode := .eager }
    let other : Subscriber :=
      { name := "other", panicsOn := [.drainStarted], panicMode := .other }
    let emit (k : EventKind) : Session.Deed := .emit ⟨0, { kind := k }⟩
    let deeds : List Session.Deed := [emit .drainStarted, emit .drainFinished, .work 0, .work 1,
      .work 1, emit .counterReported, .shutdown]
    ∃ s₀ m t u, Session.start [hasty, other] { capacity := 4, listeners := 1 } 3 = some s₀ ∧
      follow act { session := s₀ } deeds = some m ∧
      m.Seats 0 t ∧ t.Standing "hasty" ∧ t.desk.duty = .died ∧
      m.Seats 1 u ∧ u.Standing "other" ∧ u.Going ∧
      m.told.map Telling.event =
        [{ kind := .subscriberPanicked, producer := some "other", reason := some "unknown panic" },
          { kind := .subscriberOverflow, producer := some "hasty"
            reason := some "subscriber=hasty reason=closed" }] := by
  intro hasty other emit deeds
  let s₀ : Session :=
    { audience := [{ subscriber := hasty }, { subscriber := other }]
      bus := { capacity := 4, listeners := 1 }
      seq := 3 }
  have opened : Session.start [hasty, other] { capacity := 4, listeners := 1 } 3 = some s₀ := by
    simp [Session.start, Audience.open?, Subscriber.slots, hasty, other, s₀, slotMax]
  have seen : (follow act { session := s₀ } deeds).any (fun m =>
      m.session.audience.map Desk.duty = [.died, .working] ∧ m.told.map Telling.event =
        [{ kind := .subscriberPanicked, producer := some "other", reason := some "unknown panic" },
          { kind := .subscriberOverflow, producer := some "hasty"
            reason := some "subscriber=hasty reason=closed" }]) = true := by
    decide +kernel
  obtain ⟨m, run, done⟩ := (Option.any_eq_true _ _).mp seen
  obtain ⟨duties, told⟩ := of_decide_eq_true done
  obtain ⟨-, desks⟩ := survives_panics opened run
  obtain ⟨t, first, hasty', -⟩ := desks 0 hasty rfl
  obtain ⟨u, second, other', -, -, -, lasts⟩ := desks 1 other rfl
  have dead := congrArg (·[0]?) duties
  have late : ∀ d ∈ deeds.filterMap (·.at? 1), d.Late := by
    simp [deeds, emit, Session.Deed.at?, Solo.Deed.Late]
  refine ⟨s₀, m, t, u, opened, run, first, hasty', ?_, second, other', lasts (by decide) late, told⟩
  simpa [first.desk] using dead

/-- A subscriber panics when its first event is handed over. The panic is not reported, the event
queued behind is never met, and the next one is refused as closed. -/
theorem dies_at_hand_over :
    let hasty : Subscriber :=
      { name := "hasty", panicsOn := [.drainStarted], panicMode := .eager }
    let started : Stamped := ⟨0, { kind := .drainStarted }⟩
    let finished : Stamped := ⟨1, { kind := .drainFinished }⟩
    let reported : Stamped := ⟨2, { kind := .counterReported }⟩
    ∃ s₀ m, Session.start [hasty] { capacity := 4, listeners := 1 } 3 = some s₀ ∧
      follow act { session := s₀ } [.emit started, .emit finished, .work 0, .emit reported]
        = some m ∧
      (m.records 0).met = [(started, .died)] ∧
      (m.records 0).offers = [(started, none), (finished, none), (reported, some .closed)] ∧
      (m.reports 0) = [(reported, { kind := .subscriberOverflow, producer := some "hasty"
                                    reason := some "subscriber=hasty reason=closed" })] ∧
      m.session.audience.all (!·.awake) := by
  intro hasty started finished reported
  let s₀ : Session :=
    { audience := [{ subscriber := hasty }], bus := { capacity := 4, listeners := 1 }, seq := 3 }
  have opened : Session.start [hasty] { capacity := 4, listeners := 1 } 3 = some s₀ := by
    simp [Session.start, Audience.open?, Subscriber.slots, hasty, s₀, slotMax]
  have seen : (follow act { session := s₀ }
      [.emit started, .emit finished, .work 0, .emit reported]).any (fun m =>
        (m.records 0).met = [(started, .died)] ∧
        (m.records 0).offers = [(started, none), (finished, none), (reported, some .closed)] ∧
        (m.reports 0) = [(reported, { kind := .subscriberOverflow, producer := some "hasty"
                                      reason := some "subscriber=hasty reason=closed" })] ∧
        m.session.audience.all (!·.awake)) = true := by
    decide +kernel
  obtain ⟨m, run, done⟩ := (Option.any_eq_true _ _).mp seen
  exact ⟨s₀, m, opened, run, of_decide_eq_true done⟩

end TracedSession

end SharedCounter
