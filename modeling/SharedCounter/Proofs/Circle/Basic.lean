import SharedCounter.Proofs.Session.Solo

/-!
# The circle: what desks publish comes back to them

* `Circle` : a session and a listener that offers every event of the bus at every desk. So the
  desks are offered their own reports too;
* `Circle.act` : the listener finds an event, or finds that it has missed some, and makes one offer
  after the other; beside it workers go on, gates open, subscribers change their ways and others
  publish, also between two offers. At some time the listener leaves;
* `Circle.Step` : the ways in which a deed is done (`Step.of_act`);
* `TracedSession.reported`, `TracedSession.outside` : how many events the desks have published, and
  how many others have.
-/

namespace SharedCounter

/-- An event is offered at one desk. -/
def TracedSession.offerAt (m : TracedSession) (i : Nat) (e : Stamped) : TracedSession :=
  m.session.audience[i]?.elim m fun d =>
    let reports := (Audience.report d e.event (d.offer e).2).toList
    { m with
      session := { m.session with
        audience := m.session.audience.set i (d.offer e).1 }.publish reports
      records := Function.update m.records i ((m.records i).offer e (d.offer e).2)
      told := m.told ++ reports.map (.desk i e) }

namespace TracedSession

variable {m v : TracedSession}

theorem tells_offerAt (m : TracedSession) (i : Nat) (e : Stamped) :
    ∃ ts, Tells ts m (m.offerAt i e) := by
  cases seated : m.session.audience[i]? with
  | none =>
    refine ⟨[], ?_⟩
    rw [offerAt, seated]
    exact ⟨(List.append_nil _).symm, rfl, rfl, rfl⟩
  | some d =>
    let reports := (Audience.report d e.event (d.offer e).2).toList
    have events : (reports.map (Telling.desk i e)).map Telling.event = reports := by
      rw [List.map_map]
      exact List.map_id reports
    refine ⟨reports.map (.desk i e), ?_⟩
    rw [offerAt, seated]
    exact .of_publish events rfl rfl rfl List.length_set

theorem emitted_offerAt (m : TracedSession) (i : Nat) (e : Stamped) :
    (m.offerAt i e).emitted = m.emitted := by
  unfold offerAt
  cases m.session.audience[i]? <;> rfl

theorem emitted_of_act {d : Session.Deed} (beside : ∀ e, d ≠ .emit e) (act : m.act d = some v) :
    v.emitted = m.emitted := by
  obtain ⟨u, -, rfl⟩ := Option.map_eq_some_iff.mp act
  cases d with
  | emit e => exact absurd rfl (beside e)
  | work i =>
    show (m.note (.work i)).emitted = m.emitted
    cases seated : m.session.audience[i]? <;> simp [note, seated]
  | publish | permit | resolve | shutdown => rfl

theorem of_publish {es : List Event} (act : m.act (.publish es) = some v) :
    v.session = m.session.publish es ∧ v.told = m.told ++ es.map .other := by
  cases act
  exact ⟨rfl, rfl⟩

end TracedSession

/-- A session whose events come from its own bus. -/
structure Circle where
  traced : TracedSession
  /-- Where the listener is on the bus. -/
  reader : Reader
  /-- The offers of the event last found that are still to be made. -/
  offers : List (Nat × Stamped) := []
  /-- How many events were overwritten before the listener found them. -/
  missed : Nat := 0

namespace Circle

/-- What can happen in a circle. -/
inductive Deed where
  /-- The listener looks at the bus. -/
  | hear
  /-- It makes the next offer. -/
  | offer
  /-- Something happens beside it. -/
  | beside (d : Session.Deed)

/-- The listener hears what is published from now on. -/
def start (subscribers : List Subscriber) (bus : Bus) (seq : Nat) : Option Circle :=
  let (bus, reader) := bus.subscribe
  (Session.start subscribers bus seq).map fun s => { traced := { session := s }, reader }

/-- The listener finds an event, which is to be offered at every desk, or finds that it has missed
some. -/
def hear (c : Circle) : Option Circle :=
  match c.traced.session.bus.read c.reader with
  | (.event e, reader) =>
    some { c with
      traced := { c.traced with emitted := c.traced.emitted ++ [e] }
      reader
      offers := (List.range c.traced.session.audience.length).map (·, e) }
  | (.lagged n, reader) => some { c with reader, missed := c.missed + n }
  | _ => none

/-- What can happen beside the listener. It emits all events, and does not leave between offers. -/
def allows (c : Circle) : Session.Deed → Bool
  | .emit _ => false
  | .shutdown => c.offers.isEmpty
  | _ => true

theorem ne_emit_of_allows {c : Circle} {d : Session.Deed} (allowed : c.allows d = true)
    (e : Stamped) : d ≠ .emit e := by
  rintro rfl
  cases allowed

/-- The circle after a deed, undefined if there is nothing to hear or to offer, or if a worker
cannot go on. -/
def act (c : Circle) : Deed → Option Circle
  | .hear => if c.traced.session.isOpen ∧ c.offers.isEmpty then c.hear else none
  | .offer =>
    match c.offers with
    | [] => none
    | (i, e) :: rest => some { c with traced := c.traced.offerAt i e, offers := rest }
  | .beside d =>
    if c.allows d then (c.traced.act d).map fun traced => { c with traced } else none

/-- The ways in which a deed is done. -/
inductive Step (c : Circle) : Deed → Circle → Prop
  | hear {e : Stamped} (isOpen : c.traced.session.isOpen = true) (idle : c.offers = [])
      (kept : c.traced.session.bus.oldest ≤ c.reader.next)
      (found : c.traced.session.bus.history[c.reader.next]? = some e) :
      Step c .hear { c with
        traced := { c.traced with emitted := c.traced.emitted ++ [e] }
        reader := ⟨c.reader.next + 1⟩
        offers := (List.range c.traced.session.audience.length).map (·, e) }
  | lag (isOpen : c.traced.session.isOpen = true) (idle : c.offers = [])
      (behind : c.reader.next < c.traced.session.bus.oldest) :
      Step c .hear { c with
        reader := ⟨c.traced.session.bus.oldest⟩
        missed := c.missed + (c.traced.session.bus.oldest - c.reader.next) }
  | offer {i : Nat} {e : Stamped} {rest : List (Nat × Stamped)} (due : c.offers = (i, e) :: rest) :
      Step c .offer { c with traced := c.traced.offerAt i e, offers := rest }
  | beside {d : Session.Deed} {m : TracedSession} (allowed : c.allows d = true)
      (act : c.traced.act d = some m) : Step c (.beside d) { c with traced := m }

variable {c t : Circle} {d : Deed}

theorem Step.of_hear (isOpen : c.traced.session.isOpen = true) (idle : c.offers = [])
    (h : c.hear = some t) : Step c .hear t := by
  unfold Circle.hear Bus.read at h
  by_cases behind : c.reader.next < c.traced.session.bus.oldest
  · rw [if_pos behind] at h
    cases h
    exact .lag isOpen idle behind
  · rw [if_neg behind] at h
    cases found : c.traced.session.bus.history[c.reader.next]? with
    | none =>
      rw [found] at h
      by_cases held : c.traced.session.bus.handles = 0 <;> simp [held] at h
    | some e =>
      simp only [found] at h
      cases h
      exact .hear isOpen idle (Nat.not_lt.mp behind) found

theorem Step.of_act (h : c.act d = some t) : Step c d t := by
  cases d with
  | hear =>
    obtain ⟨⟨isOpen, idle⟩, heard⟩ := Option.ite_none_right_eq_some.mp h
    exact .of_hear isOpen (List.isEmpty_iff.mp idle) heard
  | offer =>
    cases due : c.offers with
    | nil => simp [act, due] at h
    | cons first rest =>
      simp only [act, due, Option.some.injEq] at h
      subst h
      exact .offer due
  | beside d =>
    obtain ⟨allowed, done⟩ := Option.ite_none_right_eq_some.mp h
    obtain ⟨m, act, rfl⟩ := Option.map_eq_some_iff.mp done
    exact .beside allowed act

theorem act_hear {e : Stamped} (isOpen : c.traced.session.isOpen = true) (idle : c.offers = [])
    (kept : c.traced.session.bus.oldest ≤ c.reader.next)
    (found : c.traced.session.bus.history[c.reader.next]? = some e) :
    c.act .hear = some { c with
      traced := { c.traced with emitted := c.traced.emitted ++ [e] }
      reader := ⟨c.reader.next + 1⟩
      offers := (List.range c.traced.session.audience.length).map (·, e) } := by
  obtain ⟨unread, rfl⟩ := Array.getElem?_eq_some_iff.mp found
  rw [act, if_pos ⟨isOpen, by rw [idle]; rfl⟩, Circle.hear, Bus.read_of_kept kept unread]

/-- A listener that was too slow goes on behind what was overwritten. -/
theorem act_lag (isOpen : c.traced.session.isOpen = true) (idle : c.offers = [])
    (behind : c.reader.next < c.traced.session.bus.oldest) :
    c.act .hear = some { c with
      reader := ⟨c.traced.session.bus.oldest⟩
      missed := c.missed + (c.traced.session.bus.oldest - c.reader.next) } := by
  rw [act, if_pos ⟨isOpen, by rw [idle]; rfl⟩, Circle.hear, Bus.read, if_pos behind]

theorem act_offer {i : Nat} {e : Stamped} {rest : List (Nat × Stamped)}
    (due : c.offers = (i, e) :: rest) :
    c.act .offer = some { c with traced := c.traced.offerAt i e, offers := rest } := by
  rw [act, due]

theorem act_beside {d : Session.Deed} {m : TracedSession} (allowed : c.allows d = true)
    (act : c.traced.act d = some m) : c.act (.beside d) = some { c with traced := m } := by
  rw [Circle.act, if_pos allowed, act]
  rfl

theorem size_of_act (act : c.act d = some t) :
    t.traced.session.audience.length = c.traced.session.audience.length := by
  cases Step.of_act act with
  | hear | lag => rfl
  | @offer i e =>
    obtain ⟨ts, tells⟩ := c.traced.tells_offerAt i e
    exact tells.size
  | beside _ done =>
    obtain ⟨ts, tells⟩ := TracedSession.tells_of_act done
    exact tells.size

/-- A circle begins with nothing offered at any desk, and with nothing to hear. -/
theorem eq_of_start {subscribers : List Subscriber} {bus : Bus} {seq : Nat}
    (opened : start subscribers bus seq = some c) :
    c = {
      traced := { session := {
        audience := subscribers.map fun s => { subscriber := s }
        bus := { bus with listeners := bus.listeners + 1 }
        seq } }
      reader := ⟨bus.history.size⟩ } := by
  obtain ⟨s, begun, rfl⟩ := Option.map_eq_some_iff.mp opened
  obtain ⟨a, made, rfl⟩ := Option.map_eq_some_iff.mp begun
  obtain ⟨-, ⟨⟩⟩ := Option.ite_none_right_eq_some.mp made
  rfl

end Circle

/-- Whether an event comes from a desk. -/
def Telling.isReport : Telling → Bool
  | desk .. => true
  | other _ => false

/-- How many events the desks have published. -/
def TracedSession.reported (m : TracedSession) : Nat := m.told.countP Telling.isReport

/-- How many events others have published. -/
def TracedSession.outside (m : TracedSession) : Nat := m.told.countP (!·.isReport)

theorem drop_of_getElem? {α : Type} {l : List α} {k : Nat} {a : α} (h : l[k]? = some a) :
    l.drop k = a :: l.drop (k + 1) := by
  obtain ⟨inside, rfl⟩ := List.getElem?_eq_some_iff.mp h
  exact List.drop_eq_getElem_cons inside

/-- The events on the bus that the listener has not come to. -/
def Circle.unread (c : Circle) : List Stamped :=
  c.traced.session.bus.history.toList.drop c.reader.next

end SharedCounter
