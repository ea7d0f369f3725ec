import Mathlib.Data.List.Induction
import Mathlib.Logic.Function.Basic
import SharedCounter.Audience
import SharedCounter.Proofs.Bus
import SharedCounter.Proofs.Desk
import SharedCounter.Proofs.Schedule

/-!
# Sessions: what becomes of every event that is offered

* `Session`, `Session.act` : an audience and the bus on which it reports. Events are emitted,
  workers go on, permits are given, subscribers change their ways and others publish, in any order,
  and at some time the session is shut down;
* `TracedSession`, `TracedSession.act` : a session with what was emitted, with a `Record` for each
  desk of what became of every offer and of every event that the subscriber met, and with what was
  published and why;
* `Accounted` : every event offered at a desk has one fate, in order. It was refused, or met, or is
  in hand or queued; every refusal and every panic was reported once. Each deed keeps it
  (`Accounted.offer`, `Accounted.step`);
* `TracedSession.accounts_for_offers` : so it is for every desk at any time in a session, and once a
  session is over every event that was accepted has been met.
-/

namespace SharedCounter

namespace Event

@[simp]
theorem isOverflow_iff {e : Event} : e.isOverflow = true ↔ e.kind = .subscriberOverflow :=
  decide_eq_true_iff

@[simp]
theorem kind_overflow (subscriber cause : String) :
    (overflow subscriber cause).kind = .subscriberOverflow := rfl

@[simp]
theorem kind_panicked (subscriber message : String) :
    (panicked subscriber message).kind = .subscriberPanicked := rfl

theorem overflow_full (subscriber : String) :
    overflow subscriber "full"
      = { kind := .subscriberOverflow, producer := some subscriber
          reason := some ("subscriber=" ++ subscriber ++ " reason=full") } := by
  rw [overflow, String.append_assoc]
  rfl

end Event

/-! ## Records -/

/-- What happened at a desk. -/
structure Record where
  /-- Every event that was offered, with the refusal if there was one. -/
  offers : List (Stamped × Option Refusal) := []
  /-- Every event that the subscriber met, with what it made of it. -/
  met : List (Stamped × Reaction) := []

namespace Record

variable (r : Record) (e : Stamped) (refusal : Option Refusal) (reaction : Reaction)

def offer : Record := { r with offers := r.offers ++ [(e, refusal)] }

def meet : Record := { r with met := r.met ++ [(e, reaction)] }

def accepted : List Stamped := (r.offers.filter (·.2.isNone)).map Prod.fst

def refused : List Stamped := (r.offers.filter (·.2.isSome)).map Prod.fst

def handled : List Stamped := (r.met.filter (·.2 = .handled)).map Prod.fst

/-- The events over which the subscriber panicked, with the text that it left. -/
def panics : List (Stamped × Option String) :=
  r.met.filterMap fun x => x.2.panic?.map (x.1, ·)

@[simp]
theorem accepted_offer : (r.offer e refusal).accepted
    = r.accepted ++ if refusal = none then [e] else [] := by
  cases refusal <;> simp [offer, accepted]

@[simp]
theorem refused_offer : (r.offer e refusal).refused
    = r.refused ++ if refusal = none then [] else [e] := by
  cases refusal <;> simp [offer, refused]

@[simp]
theorem met_offer : (r.offer e refusal).met = r.met := rfl

@[simp]
theorem handled_offer : (r.offer e refusal).handled = r.handled := rfl

@[simp]
theorem panics_offer : (r.offer e refusal).panics = r.panics := rfl

@[simp]
theorem accepted_meet : (r.meet e reaction).accepted = r.accepted := rfl

@[simp]
theorem refused_meet : (r.meet e reaction).refused = r.refused := rfl

@[simp]
theorem met_meet : (r.meet e reaction).met = r.met ++ [(e, reaction)] := rfl

@[simp]
theorem handled_meet : (r.meet e reaction).handled
    = r.handled ++ if reaction = .handled then [e] else [] := by
  by_cases handled : reaction = .handled <;> simp [meet, Record.handled, handled]

@[simp]
theorem panics_meet : (r.meet e reaction).panics
    = r.panics ++ (reaction.panic?.map (e, ·)).toList := by
  cases reaction <;> simp [meet, panics, Reaction.panic?]

/-- The worker at the desk `d` goes on. -/
def work (d : Desk) : Record :=
  d.meeting?.elim r fun e => r.meet e (d.subscriber.meets e.event)

end Record

/-! ## Fates -/

/-- Of the events `es`, offered at the desk of `s` in this order, each has one fate. What the desk
has published, with the events that it was about, is `reports`. -/
structure Accounted (s : Subscriber) (es : List Stamped) (reports : List (Stamped × Event))
    (d : Desk) (r : Record) : Prop where
  name : d.subscriber.name = s.name
  capacity : d.subscriber.queueCapacity = s.queueCapacity
  offered : r.offers.map Prod.fst = es
  /-- What was accepted is met in order, and what is not met yet is in hand or queued. -/
  accepted : r.accepted = r.met.map Prod.fst ++ d.inHand.toList ++ d.queue
  handled : r.handled = d.handled.toList
  within : d.queue.length ≤ max s.queueCapacity 1
  /-- A refusal is reported once, unless the event itself tells of one. -/
  overflows : reports.filter (·.2.kind = .subscriberOverflow)
    = (r.refused.filter (·.event.kind ≠ .subscriberOverflow)).map fun e =>
      (e, { kind := .subscriberOverflow, producer := some s.name
            reason := some ("subscriber=" ++ s.name ++ " reason=full") })
  /-- A panic is reported once, with the text that it left. -/
  panics : reports.filter (·.2.kind ≠ .subscriberOverflow)
    = r.panics.map fun x =>
      (x.1, { kind := .subscriberPanicked, producer := some s.name
              reason := some (x.2.getD "unknown panic") })
  survived : ∀ x ∈ r.met, x.2 ≠ .died
  late : d.subscriber.panicMode ≠ .eager
  duty : d.duty = .working ∨
    d.duty = .left ∧ d.isOpen = false ∧ d.inHand = none ∧ d.queue = []

/-- A subscriber changes its ways: whether it waits at a gate, on what it panics, and how. -/
def Desk.resolve (d : Desk) (gated : Bool) (panicsOn : List EventKind) (panicMode : PanicMode) :
    Desk :=
  { d with subscriber := { d.subscriber with gated, panicsOn, panicMode } }

namespace Accounted

variable {s : Subscriber} {es : List Stamped} {reports : List (Stamped × Event)} {d : Desk}
  {r : Record} {e : Stamped} {t : Desk.State}

theorem start (late : s.panicMode ≠ .eager) : Accounted s [] [] { subscriber := s } {} where
  name := rfl
  capacity := rfl
  offered := rfl
  accepted := rfl
  handled := rfl
  within := Nat.zero_le _
  overflows := rfl
  panics := rfl
  survived := by simp
  late := late
  duty := .inl rfl

theorem working (h : Accounted s es reports d r) (isOpen : d.isOpen = true) :
    d.duty = .working := by
  refine h.duty.resolve_right fun left => ?_
  rw [left.2.1] at isOpen
  cases isOpen

theorem permit (h : Accounted s es reports d r) (n : Nat) :
    Accounted s es reports (d.permit n) r := { h with }

theorem resolve (h : Accounted s es reports d r) (gated : Bool) (panicsOn : List EventKind)
    {mode : PanicMode} (late : mode ≠ .eager) :
    Accounted s es reports (d.resolve gated panicsOn mode) r := { h with late := late }

theorem close (h : Accounted s es reports d r) : Accounted s es reports d.close r :=
  { h with duty := h.duty.imp_right fun left => ⟨left.1, rfl, left.2.2⟩ }

/-- An event is queued, or refused and the refusal reported. -/
theorem offer (h : Accounted s es reports d r) (isOpen : d.isOpen = true) (e : Stamped) :
    Accounted s (es ++ [e])
      (reports ++ ((Audience.report d e.event (d.offer e).2).map (e, ·)).toList)
      (d.offer e).1 (r.offer e (d.offer e).2) := by
  have working := h.working isOpen
  have offered : ∀ refusal, (r.offer e refusal).offers.map Prod.fst = es ++ [e] := by
    intro refusal
    simp [Record.offer, h.offered]
  by_cases room : d.queue.length < d.subscriber.slots
  · have queued : d.offer e = ({ d with queue := d.queue ++ [e] }, none) := by
      simp [Desk.offer, working, room]
    rw [queued]
    exact { h with
      offered := offered none
      accepted := by simp [h.accepted]
      within := by simpa [Subscriber.slots, Nat.succ_le_iff, h.capacity] using room
      overflows := by simp [Audience.report, h.overflows]
      panics := by simpa [Audience.report] using h.panics
      duty := .inl working }
  · have refused : d.offer e = (d, some .full) := by simp [Desk.offer, working, room]
    rw [refused]
    exact { h with
      offered := offered (some .full)
      accepted := by simp [h.accepted]
      overflows := by
        by_cases silent : e.event.kind = .subscriberOverflow <;>
          simp [Audience.report, h.overflows, silent, Refusal.name, h.name, Event.overflow_full]
      panics := by
        by_cases silent : e.event.kind = .subscriberOverflow <;>
          simpa [Audience.report, silent] using h.panics }

/-- The subscriber meets the next event, and handles it or has its panic reported. -/
theorem meet (h : Accounted s es reports d r) (working : d.duty = .working) {queue : List Stamped}
    {inHand : Option Stamped} (permits : Nat)
    (next : d.inHand.toList ++ d.queue = e :: (inHand.toList ++ queue))
    (shorter : queue.length ≤ d.queue.length) :
    let t := Desk.State.handle ⟨{ d with queue, inHand, permits }, []⟩ e
    Accounted s es (reports ++ t.events.map (e, ·)) t.desk
      (r.meet e (d.subscriber.meets e.event)) := by
  have survives := Subscriber.meets_ne_died h.late e.event
  dsimp only
  rw [Desk.handle_eq { d with queue, inHand, permits } e survives]
  exact { h with
    accepted := by
      rw [Record.accepted_meet, h.accepted, List.append_assoc, next]
      simp
    handled := by cases d.subscriber.meets e.event <;> simp [h.handled]
    within := shorter.trans h.within
    overflows := by
      cases d.subscriber.meets e.event <;>
        simp [Reaction.panic?, Desk.reportOf, h.overflows]
    panics := by
      cases d.subscriber.meets e.event <;>
        simpa [Reaction.panic?, Desk.reportOf, panicMessage, h.name, Event.panicked] using h.panics
    survived := by
      intro x hx
      rcases List.mem_append.mp hx with old | new
      · exact h.survived x old
      · rw [List.mem_singleton.mp new]
        exact survives
    duty := .inl working }

theorem step (h : Accounted s es reports d r) (step : Desk.State.step ⟨d, []⟩ = some t) :
    Accounted s es (reports ++ d.tells) t.desk (r.work d) := by
  have working := Desk.working_of_step step
  unfold Desk.tells
  rw [step]
  cases Desk.Goes.of_step step with
  | @pass e in_hand =>
    have meeting : d.meeting? = some e := by simp [Desk.meeting?, in_hand]
    rw [Record.work, meeting]
    exact h.meet working (d.permits - 1) (by simp [in_hand]) (Nat.le_refl _)
  | die free queue fatal => exact absurd fatal (Subscriber.meets_ne_died h.late _)
  | wait free queue survives gated =>
    have meeting : d.meeting? = none := by simp [Desk.meeting?, free, queue, survives, gated]
    rw [Record.work, meeting]
    have within := h.within
    rw [queue, List.length_cons] at within
    have accepted := h.accepted
    rw [free, queue] at accepted
    exact { h with
      accepted := by simpa using accepted
      within := (Nat.le_succ _).trans within
      overflows := by simp [h.overflows]
      panics := by simpa using h.panics
      duty := .inl working }
  | @take e rest free queue survives ungated =>
    have meeting : d.meeting? = some e := by simp [Desk.meeting?, free, queue, ungated]
    rw [Record.work, meeting]
    refine h.meet working d.permits (by simp [free, queue]) ?_
    rw [queue]
    exact Nat.le_succ _
  | leave free queue closed =>
    have meeting : d.meeting? = none := by simp [Desk.meeting?, free, queue]
    rw [Record.work, meeting]
    exact { h with
      overflows := by simp [h.overflows]
      panics := by simpa using h.panics
      duty := .inr ⟨rfl, closed, free, queue⟩ }

/-- Nothing is in hand or queued at a desk whose worker has left. -/
theorem accepted_of_left (h : Accounted s es reports d r) (ended : d.duty ≠ .working) :
    r.accepted = r.met.map Prod.fst := by
  obtain ⟨-, -, in_hand, queue⟩ := h.duty.resolve_left ended
  simp [h.accepted, in_hand, queue]

end Accounted

/-! ## Sessions -/

/-- An audience and the bus on which it reports. -/
structure Session where
  audience : Audience
  bus : Bus
  /-- The number of the next event. -/
  seq : Nat
  /-- Whether events can still be emitted. -/
  isOpen : Bool := true

namespace Session

/-- What can happen in a session. -/
inductive Deed where
  /-- An event is offered at every desk. -/
  | emit (e : Stamped)
  /-- The worker at a desk goes on. -/
  | work (i : Nat)
  /-- The gate at a desk is given permits. -/
  | permit (i n : Nat)
  /-- A subscriber changes its ways. -/
  | resolve (i : Nat) (gated : Bool) (panicsOn : List EventKind) (mode : PanicMode)
  /-- Others publish. -/
  | publish (es : List Event)
  /-- No more events will be emitted. -/
  | shutdown

/-- No subscriber comes to panic at the hand-over. -/
def Deed.Late : Deed → Prop
  | resolve _ _ _ mode => mode ≠ .eager
  | _ => True

def start (subscribers : List Subscriber) (bus : Bus) (seq : Nat) : Option Session :=
  (Audience.open? subscribers).map fun a => { audience := a, bus, seq }

def publish (s : Session) (es : List Event) : Session :=
  { s with bus := s.bus.publishAll s.seq es, seq := s.seq + es.length }

def onDesk (s : Session) (i : Nat) (f : Desk → Desk) : Session :=
  { s with audience := s.audience.modify i f }

/-- The session after a deed, undefined if a worker cannot go on, or if an event is to be emitted
after the session was shut down. -/
def act (s : Session) : Deed → Option Session
  | .emit e =>
    let (audience, reports) := s.audience.emit e
    if s.isOpen then some ({ s with audience }.publish reports) else none
  | .work i =>
    s.audience[i]?.bind fun d => (Desk.State.step ⟨d, []⟩).map fun t =>
      { s with audience := s.audience.set i t.desk }.publish t.events
  | .permit i n => some (s.onDesk i (·.permit n))
  | .resolve i gated panicsOn mode => some (s.onDesk i (·.resolve gated panicsOn mode))
  | .publish es => some (s.publish es)
  | .shutdown => some { s with audience := s.audience.close, isOpen := false }

/-- The session was shut down, and every worker has ended. -/
def IsOver (s : Session) : Prop := s.isOpen = false ∧ s.audience.allLeft

instance (s : Session) : Decidable s.IsOver := inferInstanceAs (Decidable (_ ∧ _))

end Session

/-! ## Sessions and what happened in them -/

/-- An event that was published in a session. -/
inductive Telling where
  /-- Desk `i` tells of the event `about`. -/
  | desk (i : Nat) (about : Stamped) (report : Event)
  /-- Others publish. -/
  | other (e : Event)

namespace Telling

def event : Telling → Event
  | desk _ _ report => report
  | other e => e

/-- What desk `i` tells, with the event that it tells of. -/
def of? (i : Nat) : Telling → Option (Stamped × Event)
  | desk j about report => if j = i then some (about, report) else none
  | other _ => none

end Telling

/-- What is published when an event is emitted. -/
def Audience.tellings (a : Audience) (e : Stamped) : List Telling :=
  a.zipIdx.filterMap fun x => (report x.1 e.event (x.1.offer e).2).map (.desk x.2 e)

/-- Of a list that is gone through with its positions, only the one at `i` is looked at. -/
theorem filterMap_zipIdx {α β : Type} (g : α → Option β) (l : List α) (i : Nat) :
    l.zipIdx.filterMap (fun x => if x.2 = i then g x.1 else none) = (l[i]?.bind g).toList := by
  induction l using List.reverseRecOn with
  | nil => rfl
  | append_singleton l a ih =>
    rw [List.zipIdx_append, List.filterMap_append, ih]
    rcases Nat.lt_trichotomy i l.length with before | rfl | behind
    · simp [List.getElem?_append_left before, show l.length ≠ i by omega]
    · cases last : g a <;> simp [last]
    · have longer : (l ++ [a]).length ≤ i := by
        rw [List.length_append, List.length_singleton]
        exact behind
      rw [List.getElem?_eq_none longer, List.getElem?_eq_none (Nat.le_of_lt behind)]
      simp [show l.length ≠ i by omega]

theorem Audience.map_event_tellings (a : Audience) (e : Stamped) :
    (a.tellings e).map Telling.event = (a.emit e).2 := by
  have event : ∀ x : Desk × Nat,
      ((report x.1 e.event (x.1.offer e).2).map (Telling.desk x.2 e)).map Telling.event
        = ((fun d => report d e.event (d.offer e).2) ∘ Prod.fst) x := by
    intro x
    simp [Option.map_map, Function.comp_def, Telling.event]
  rw [tellings, List.map_filterMap, funext event, ← List.filterMap_map, List.zipIdx_map_fst]
  rfl

/-- Each desk tells of its own refusal. -/
theorem Audience.tellings_of (a : Audience) (e : Stamped) (i : Nat) :
    (a.tellings e).filterMap (Telling.of? i)
      = (a[i]?.bind fun d => (report d e.event (d.offer e).2).map (e, ·)).toList := by
  rw [← filterMap_zipIdx, tellings, List.filterMap_filterMap]
  congr 1
  funext x
  cases report x.1 e.event (x.1.offer e).2 <;> simp [Telling.of?]

/-- A session, and what happened in it. -/
structure TracedSession where
  session : Session
  emitted : List Stamped := []
  records : Nat → Record := fun _ => {}
  told : List Telling := []

namespace TracedSession

/-- What desk `i` has published. -/
def reports (m : TracedSession) (i : Nat) : List (Stamped × Event) :=
  m.told.filterMap (Telling.of? i)

/-- What is noted of a deed. -/
def note (m : TracedSession) : Session.Deed → TracedSession
  | .emit e =>
    { m with
      emitted := m.emitted ++ [e]
      records := fun i => m.session.audience[i]?.elim (m.records i) fun d =>
        (m.records i).offer e (d.offer e).2
      told := m.told ++ m.session.audience.tellings e }
  | .work i =>
    m.session.audience[i]?.elim m fun d =>
      { m with
        records := Function.update m.records i ((m.records i).work d)
        told := m.told ++ d.tells.map fun x => .desk i x.1 x.2 }
  | .publish es => { m with told := m.told ++ es.map .other }
  | _ => m

/-- One deed, undefined where the session does not allow it. -/
def act (m : TracedSession) (d : Session.Deed) : Option TracedSession :=
  (m.session.act d).map fun s => { m.note d with session := s }

variable {m v : TracedSession} {seats : List Subscriber} {b : Bus} {n : Nat} {d : Session.Deed}

/-- Every desk has accounted for all that it was offered, and whatever entered the bus was told. The
bus was `b` and the next number `n` when the session began. -/
structure Sound (seats : List Subscriber) (b : Bus) (n : Nat) (m : TracedSession) : Prop where
  desks : ∀ i s, seats[i]? = some s → ∃ d, m.session.audience[i]? = some d ∧
    d.isOpen = m.session.isOpen ∧ Accounted s m.emitted (m.reports i) d (m.records i)
  bus : m.session.bus = b.publishAll n (m.told.map Telling.event)
  seq : m.session.seq = n + m.told.length

theorem Sound.start {s : Session} (opened : Session.start seats b n = some s)
    (late : ∀ s ∈ seats, s.panicMode ≠ .eager) : Sound seats b n { session := s } := by
  obtain ⟨a, made, rfl⟩ := Option.map_eq_some_iff.mp opened
  obtain ⟨-, ⟨⟩⟩ := Option.ite_none_right_eq_some.mp made
  refine ⟨fun i s seat => ⟨{ subscriber := s }, ?_, rfl, .start ?_⟩, rfl, rfl⟩
  · simp [seat]
  · exact late s (List.mem_of_getElem? seat)

theorem Sound.tell (h : m.Sound seats b n) (es : List Telling) :
    (m.session.publish (es.map Telling.event)).bus
        = b.publishAll n ((m.told ++ es).map Telling.event) ∧
      (m.session.publish (es.map Telling.event)).seq = n + (m.told ++ es).length := by
  have told := b.publishAll_publishAll n (m.told.map Telling.event) (es.map Telling.event)
  rw [List.length_map] at told
  constructor
  · simp [Session.publish, h.bus, h.seq, told]
  · simp [Session.publish, h.seq, Nat.add_assoc]

/-- One desk changes, and its record with it. -/
theorem Sound.onDesk (h : m.Sound seats b n) (i : Nat) {f : Desk → Desk}
    (isOpen : ∀ d, (f d).isOpen = d.isOpen)
    (kept : ∀ s d, Accounted s m.emitted (m.reports i) d (m.records i) →
      Accounted s m.emitted (m.reports i) (f d) (m.records i)) :
    Sound seats b n { m with session := m.session.onDesk i f } := by
  refine ⟨fun j s seat => ?_, h.bus, h.seq⟩
  obtain ⟨d, seated, opens, accounted⟩ := h.desks j s seat
  by_cases same : i = j
  · subst same
    exact ⟨f d, by simp [Session.onDesk, seated], by rw [isOpen]; exact opens, kept s d accounted⟩
  · exact ⟨d, by simp [Session.onDesk, seated, same], opens, accounted⟩

theorem Sound.emit (h : m.Sound seats b n) {e : Stamped} (act : m.act (.emit e) = some v) :
    v.Sound seats b n := by
  obtain ⟨s, done, rfl⟩ := Option.map_eq_some_iff.mp act
  obtain ⟨isOpen, ⟨⟩⟩ := Option.ite_none_right_eq_some.mp done
  have told := h.tell (m.session.audience.tellings e)
  rw [Audience.map_event_tellings] at told
  refine ⟨fun i s seat => ?_, told.1, told.2⟩
  obtain ⟨d, seated, opens, accounted⟩ := h.desks i s seat
  have reported : (m.note (.emit e)).reports i = m.reports i
      ++ ((Audience.report d e.event (d.offer e).2).map (e, ·)).toList := by
    simp [reports, note, Audience.tellings_of, seated]
  have recorded : (m.note (.emit e)).records i = (m.records i).offer e (d.offer e).2 := by
    simp [note, seated]
  have offered := accounted.offer (opens.trans isOpen) e
  rw [← reported, ← recorded] at offered
  refine ⟨(d.offer e).1, ?_, (d.isOpen_offer e).trans opens, offered⟩
  simp [Session.publish, seated]

theorem Sound.work (h : m.Sound seats b n) {i : Nat} (act : m.act (.work i) = some v) :
    v.Sound seats b n := by
  obtain ⟨s, done, rfl⟩ := Option.map_eq_some_iff.mp act
  obtain ⟨d, seated, moved⟩ := Option.bind_eq_some_iff.mp done
  obtain ⟨t, step, rfl⟩ := Option.map_eq_some_iff.mp moved
  have note : m.note (.work i) = { m with
      records := Function.update m.records i ((m.records i).work d)
      told := m.told ++ d.tells.map fun x => .desk i x.1 x.2 } := by
    simp [TracedSession.note, seated]
  have told := h.tell (d.tells.map fun x => .desk i x.1 x.2)
  have events : (d.tells.map fun x => Telling.desk i x.1 x.2).map Telling.event = t.events := by
    rw [← Desk.map_snd_tells step, List.map_map]
    rfl
  rw [events] at told
  rw [note]
  refine ⟨fun j s seat => ?_, told.1, told.2⟩
  obtain ⟨k, seated', opens, accounted⟩ := h.desks j s seat
  have said : ∀ x : Stamped × Event, Telling.of? j (.desk i x.1 x.2)
      = if i = j then some x else none := fun x => rfl
  by_cases same : i = j
  · subst same
    obtain rfl : k = d := Option.some.inj (seated'.symm.trans seated)
    refine ⟨t.desk, ?_, (Desk.isOpen_of_step step).trans opens, ?_⟩
    · have inside := (List.getElem?_eq_some_iff.mp seated).1
      simp [Session.publish, inside]
    · have stepped := accounted.step step
      simpa [reports, List.filterMap_map, Function.comp_def, said] using stepped
  · refine ⟨k, ?_, opens, ?_⟩
    · simp [Session.publish, List.getElem?_set_ne same, seated']
    · simpa [reports, List.filterMap_map, Function.comp_def, said, same, Ne.symm same]
        using accounted

theorem Sound.act (h : m.Sound seats b n) (late : d.Late) (act : m.act d = some v) :
    v.Sound seats b n := by
  cases d with
  | emit e => exact h.emit act
  | work i => exact h.work act
  | permit i k =>
    cases act
    exact h.onDesk i (fun _ => rfl) fun s d accounted => accounted.permit k
  | resolve i gated panicsOn mode =>
    cases act
    exact h.onDesk i (fun _ => rfl) fun s d accounted => accounted.resolve gated panicsOn late
  | publish es =>
    cases act
    have told := h.tell (es.map .other)
    have events : (es.map Telling.other).map Telling.event = es := by
      rw [List.map_map]
      exact List.map_id es
    rw [events] at told
    refine ⟨fun i s seat => ?_, told.1, told.2⟩
    obtain ⟨d, seated, opens, accounted⟩ := h.desks i s seat
    refine ⟨d, seated, opens, ?_⟩
    simpa [reports, note, Telling.of?, List.filterMap_map, Function.comp_def] using accounted
  | shutdown =>
    cases act
    refine ⟨fun i s seat => ?_, h.bus, h.seq⟩
    obtain ⟨d, seated, -, accounted⟩ := h.desks i s seat
    exact ⟨d.close, by simp [Audience.close, seated], rfl, accounted.close⟩

/-- Every event that is offered to a subscriber has one fate, in order. Whatever the subscribers
are, as long as they panic only over events that they have taken up, and in whatever order events
are emitted, workers go on, gates open and the session is shut down: what a desk accepted is what
its subscriber met, what is in hand, and what is queued, and the queue is never too long. Each
refusal and each panic was reported once on the bus, and a worker goes on as long as there is an
event for it. Once the session is over, all that was accepted has been met. -/
theorem accounts_for_offers {subscribers : List Subscriber} {bus : Bus} {seq : Nat} {s₀ : Session}
    {deeds : List Session.Deed} (opened : Session.start subscribers bus seq = some s₀)
    (atStart : ∀ s ∈ subscribers, s.panicMode ≠ .eager) (late : ∀ d ∈ deeds, d.Late)
    (run : follow act { session := s₀ } deeds = some m) :
    m.session.bus = bus.publishAll seq (m.told.map Telling.event) ∧
    ∀ i s, subscribers[i]? = some s → ∃ d, m.session.audience[i]? = some d ∧
      Accounted s m.emitted (m.reports i) d (m.records i) ∧
      (d.inHand = none → d.queue ≠ [] → d.awake) ∧
      (∀ e, d.inHand = some e → 0 < d.permits → d.awake) ∧
      (m.session.IsOver → (m.records i).accepted = (m.records i).met.map Prod.fst) := by
  have sound : m.Sound subscribers bus seq :=
    follow_invariant_of (fun m d v late act h => h.act late act) run late (.start opened atStart)
  refine ⟨sound.bus, fun i s seat => ?_⟩
  obtain ⟨d, seated, -, accounted⟩ := sound.desks i s seat
  have working : d.queue ≠ [] ∨ d.inHand ≠ none → d.duty = .working := by
    intro busy
    refine accounted.duty.resolve_right fun left => ?_
    exact busy.elim (· left.2.2.2) (· left.2.2.1)
  refine ⟨d, seated, accounted, ?_, ?_, ?_⟩
  · intro free queued
    exact Desk.awake_of_queue (working (.inl queued)) free queued
  · intro e in_hand permitted
    exact Desk.awake_of_inHand (working (.inr (by simp [in_hand]))) in_hand permitted
  · intro ended
    have left := List.all_eq_true.mp ended.2 d (List.mem_of_getElem? seated)
    exact accounted.accepted_of_left (by simpa using left)

/-- A gated subscriber with room for one event is offered three before its gate opens. It panics
over the first, with a text of its own. -/
theorem accounts_for_offers_of_flooded :
    let slow : Subscriber := { name := "slow", queueCapacity := 0, gated := true }
    let quick : Subscriber := { name := "quick" }
    let bus : Bus := { capacity := 4, listeners := 1 }
    let emit (k : EventKind) : Session.Deed := .emit ⟨0, { kind := k }⟩
    let deeds : List Session.Deed := [emit .drainStarted, .work 0, emit .drainFinished, .work 1,
      emit .counterReported, .resolve 0 true [.drainStarted] (.saying "no"), .permit 0 2, .shutdown,
      .work 0, .work 0, .work 1, .work 0, .work 1, .work 0, .work 1]
    ∃ s₀ m d, Session.start [slow, quick] bus 3 = some s₀ ∧
      follow act { session := s₀ } deeds = some m ∧ m.session.audience[0]? = some d ∧
      Accounted slow m.emitted (m.reports 0) d (m.records 0) ∧
      (m.records 0).accepted = (m.records 0).met.map Prod.fst ∧
      (m.reports 0).map Prod.snd =
        [{ kind := .subscriberOverflow, producer := some "slow"
           reason := some "subscriber=slow reason=full" },
          { kind := .subscriberPanicked, producer := some "slow", reason := some "no" }] := by
  intro slow quick bus emit deeds
  let s₀ : Session :=
    { audience := [{ subscriber := slow }, { subscriber := quick }], bus, seq := 3 }
  have opened : Session.start [slow, quick] bus 3 = some s₀ := by
    simp [Session.start, Audience.open?, Subscriber.slots, slow, quick, s₀, slotMax]
  have seen : (follow act { session := s₀ } deeds).any (fun m => m.session.IsOver ∧
      (m.reports 0).map Prod.snd =
        [{ kind := .subscriberOverflow, producer := some "slow"
           reason := some "subscriber=slow reason=full" },
          { kind := .subscriberPanicked, producer := some "slow", reason := some "no" }]) = true := by
    decide +kernel
  obtain ⟨m, run, done⟩ := (Option.any_eq_true _ _).mp seen
  obtain ⟨ended, reports⟩ := of_decide_eq_true done
  have late : ∀ d ∈ deeds, d.Late := by simp [deeds, emit, Session.Deed.Late]
  obtain ⟨-, desks⟩ := accounts_for_offers opened (by decide) late run
  obtain ⟨d, seated, accounted, -, -, flushed⟩ := desks 0 slow rfl
  exact ⟨s₀, m, d, opened, run, seated, accounted, flushed ended, reports⟩

end TracedSession

end SharedCounter
