import SharedCounter.Proofs.Circle.Price
import SharedCounter.Proofs.Run.Change

/-!
# The reports of a run

* `Circle.offers_emit` : to offer an event at one desk after the other is to emit it;
* `Tally`, `Tally.act` : a run with the number of events that its listener and its workers have
  published, and the number of those that others have;
* `Tally.Holds c w` : the circle `c` is that of the run. What happens in the run is a schedule of
  its circle (`Holds.act`, `Tally.Turns`);
* `Tally.echoes_le` : if no subscriber panics over reports, then the number of reports in a run is
  bounded by the number of events that others publish.
-/

namespace SharedCounter

/-- To offer an event at one desk after the other is to emit it. The desks `before` have been
offered it already. -/
theorem Circle.offers_emit (before after : Audience) {c : Circle} {e : Stamped}
    (seats : c.traced.session.audience = before ++ after)
    (due : c.offers = (List.range' before.length after.length).map (·, e)) :
    ∃ u, follow act c (List.replicate after.length .offer) = some u ∧
      u.traced.session = { c.traced.session with
        audience := before ++ (after.emit e).1 }.publish (after.emit e).2 ∧
      u.reader = c.reader ∧ u.offers = [] ∧
      u.traced.reported = c.traced.reported + (after.emit e).2.length ∧
      u.traced.outside = c.traced.outside := by
  induction after generalizing before c with
  | nil =>
    refine ⟨c, rfl, ?_, rfl, due, rfl, rfl⟩
    show c.traced.session = { c.traced.session with audience := before ++ [] }
    rw [← seats]
  | cons d rest ih =>
    let reports := (Audience.report d e.event (d.offer e).2).toList
    have seated : c.traced.session.audience[before.length]? = some d := by simp [seats]
    have emitted : Audience.emit (d :: rest) e
        = ((d.offer e).1 :: (Audience.emit rest e).1, reports ++ (Audience.emit rest e).2) := by
      simp only [Audience.emit, List.map_cons, List.filterMap_cons, reports]
      cases Audience.report d e.event (d.offer e).2 <;> rfl
    have session : (c.traced.offerAt before.length e).session
        = { c.traced.session with
            audience := before ++ (d.offer e).1 :: rest }.publish reports := by
      simp [TracedSession.offerAt, seats, reports]
    have told : (c.traced.offerAt before.length e).told
        = c.traced.told ++ reports.map (.desk before.length e) := by
      simp [TracedSession.offerAt, seated, reports]
    obtain ⟨reported, outside⟩ := TracedSession.counts_of_reports (fun _ => rfl) told
    have first := act_offer due
    obtain ⟨u, offered, later, reader, idle, reported', outside'⟩ := ih
      (before ++ [(d.offer e).1])
      (c := { c with
        traced := c.traced.offerAt before.length e
        offers := (List.range' (before.length + 1) rest.length).map (·, e) })
      (by simp [session, Session.publish]) (by simp)
    refine ⟨u, ?_, ?_, reader, idle, ?_, outside'.trans outside⟩
    · rw [List.length_cons, List.replicate_succ, follow_cons, first]
      exact offered
    · rw [later, emitted]
      simp [session, Session.publish, Bus.publishAll_publishAll, Nat.add_assoc]
    · rw [reported', reported, emitted, List.length_append, Nat.add_assoc]

namespace Run

/-- Whether the listener still emits. -/
def emits (r : Run) : Bool := r.listener ≠ .closing && r.listener ≠ .gone

/-- Whether a deed is one of the listener or of a worker. -/
def Deed.isOfAudience : Deed → Bool
  | .move (.task .listener) | .move (.task (.worker _)) => true
  | _ => false

end Run

/-- A run, and how many events have been published in it by whom. -/
structure Tally where
  run : Run
  /-- By the listener and the workers. -/
  reported : Nat := 0
  /-- By the producers and the main task. -/
  outside : Nat := 0

namespace Tally

/-- One deed, undefined where its task waits or has ended. Every event that is published takes a
number. -/
def act (w : Tally) (d : Run.Deed) : Option Tally :=
  (w.run.act d).map fun run =>
    if d.isOfAudience then { w with run, reported := w.reported + (run.seq - w.run.seq) }
    else { w with run, outside := w.outside + (run.seq - w.run.seq) }

/-- The circle is that of the run. -/
structure Holds (c : Circle) (w : Tally) : Prop where
  session : c.traced.session = ⟨w.run.audience, w.run.bus, w.run.seq, w.run.emits⟩
  reader : c.reader = w.run.reader
  offers : c.offers = []
  reported : c.traced.reported = w.reported
  outside : c.traced.outside = w.outside

variable {c c₀ : Circle} {w v : Tally} {t : Run}

theorem Holds.publish (h : Holds c w) (es : List Event) (audience : t.audience = w.run.audience)
    (bus : t.bus = w.run.bus.publishAll w.run.seq es) (seq : t.seq = w.run.seq + es.length)
    (reader : t.reader = w.run.reader) (emits : t.emits = w.run.emits) :
    ∃ u, c.act (.beside (.publish es)) = some u ∧
      Holds u { w with run := t, outside := w.outside + es.length } := by
  refine ⟨_, Circle.act_beside rfl rfl, ?_⟩
  obtain ⟨reported, outside⟩ := TracedSession.counts_of_others (m := c.traced)
    (v := { c.traced.note (.publish es) with session := c.traced.session.publish es }) rfl
  exact {
    session := by simp [h.session, Session.publish, audience, bus, seq, emits]
    reader := h.reader.trans reader.symm
    offers := h.offers
    reported := reported.trans h.reported
    outside := outside.trans (congrArg (· + es.length) h.outside) }

/-- A calm schedule of a circle comes to that of the run. -/
def Turns (c₀ : Circle) (w : Tally) : Prop :=
  ∃ ds c, (∀ d ∈ ds, d.Calm) ∧ follow Circle.act c₀ ds = some c ∧ Holds c w

theorem Turns.one {d : Circle.Deed} {u : Circle} (act : c.act d = some u) (calm : d.Calm)
    (holds : Holds u w) : Turns c w := by
  refine ⟨[d], u, by simpa using calm, ?_, holds⟩
  rw [follow_cons, act]
  rfl

theorem Holds.work (h : Holds c w) {i : Nat} (step : w.run.stepWorker i = some t) :
    Turns c { w with run := t, reported := w.reported + (t.seq - w.run.seq) } := by
  obtain ⟨d, u, seated, moved, rfl⟩ := Run.stepWorker_eq_some_iff.mp step
  have seated' : c.traced.session.audience[i]? = some d := by rw [h.session]; exact seated
  obtain ⟨m, act, session, told⟩ := TracedSession.act_work seated' moved
  have same := Desk.length_tells moved
  obtain ⟨reported, outside⟩ := TracedSession.counts_of_reports (fun _ => rfl) told
  refine .one (Circle.act_beside rfl act) trivial ?_
  exact {
    session := by rw [session, h.session]; rfl
    reader := h.reader
    offers := h.offers
    reported := by rw [reported, h.reported, same]; simp [Run.publish]
    outside := outside.trans h.outside }

/-- What the listener does is done in the circle. It makes all offers of an event at once. -/
theorem Holds.listen (h : Holds c w) (step : Run.ListenerStep w.run t) :
    Turns c { w with run := t, reported := w.reported + (t.seq - w.run.seq) } := by
  have still : ∀ {t : Run}, t.audience = w.run.audience → t.bus = w.run.bus →
      t.seq = w.run.seq → t.reader = w.run.reader → t.emits = w.run.emits →
      Turns c { w with run := t, reported := w.reported + (t.seq - w.run.seq) } := by
    intro t audience bus seq reader emits
    obtain ⟨u, act, holds⟩ := h.publish [] audience bus seq reader emits
    rw [seq, Nat.sub_self]
    exact .one act trivial holds
  have isOpen : w.run.emits = true → c.traced.session.isOpen = true := by
    intro emits
    rw [h.session]
    exact emits
  have emits : w.run.listener = .listening → w.run.emits = true := by
    intro listening
    rw [Run.emits, listening]
    rfl
  cases step with
  | @hear e listening kept found =>
    rw [← h.reader] at kept found
    have bus : c.traced.session.bus = w.run.bus := by rw [h.session]
    rw [← bus] at kept found
    have heard := Circle.act_hear (isOpen (emits listening)) h.offers kept found
    obtain ⟨u, offered, session, reader, offers, reported, outside⟩ := Circle.offers_emit
      [] w.run.audience (e := e)
      (c := { c with
        traced := { c.traced with emitted := c.traced.emitted ++ [e] }
        reader := ⟨c.reader.next + 1⟩
        offers := (List.range c.traced.session.audience.length).map (·, e) })
      (by simp [h.session]) (by simp [h.session, List.range_eq_range'])
    refine ⟨.hear :: List.replicate w.run.audience.length .offer, u, ?_, ?_, ?_⟩
    · intro d mem
      rcases List.mem_cons.mp mem with rfl | mem
      · trivial
      · rw [List.eq_of_mem_replicate mem]
        trivial
    · rw [follow_cons, heard]
      exact offered
    · exact {
        session := by rw [session, h.session]; rfl
        reader := by rw [reader, h.reader]; rfl
        offers := offers
        reported := by
          rw [show u.traced.reported = c.traced.reported + _ from reported, h.reported]
          simp [Run.publish]
        outside := outside.trans h.outside }
  | lag listening behind =>
    have bus : c.traced.session.bus = w.run.bus := by rw [h.session]
    rw [← h.reader, ← bus] at behind
    refine .one (Circle.act_lag (isOpen (emits listening)) h.offers behind) trivial ?_
    exact {
      session := h.session
      reader := by rw [bus]
      offers := h.offers
      reported := by simpa using h.reported
      outside := h.outside }
  | leave checking stop =>
    have allowed : c.allows .shutdown = true := by simp [Circle.allows, h.offers]
    refine .one (Circle.act_beside allowed rfl) trivial ?_
    exact {
      session := by rw [h.session]; rfl
      reader := h.reader
      offers := h.offers
      reported := h.reported.trans (by simp)
      outside := h.outside }
  | look here | sleep here | wake here | finish here =>
    exact still rfl rfl rfl rfl (by rw [Run.emits, Run.emits, here]; rfl)

theorem Holds.other (h : Holds c w) (es : List Event) (audience : t.audience = w.run.audience)
    (bus : t.bus = w.run.bus.publishAll w.run.seq es) (seq : t.seq = w.run.seq + es.length)
    (reader : t.reader = w.run.reader) (listener : t.listener = w.run.listener) :
    Turns c { w with run := t, outside := w.outside + (t.seq - w.run.seq) } := by
  have emits : t.emits = w.run.emits := by rw [Run.emits, Run.emits, listener]
  obtain ⟨u, act, holds⟩ := h.publish es audience bus seq reader emits
  rw [seq, Nat.add_sub_cancel_left]
  exact .one act trivial holds

theorem Holds.act {d : Run.Deed} (h : Holds c w) (act : w.act d = some v) : Turns c v := by
  obtain ⟨t, done, rfl⟩ := Option.map_eq_some_iff.mp act
  rcases d with ((i | _ | e) | b) | e
  · exact h.work done
  · exact h.listen (.of_step done)
  · obtain ⟨⟨team, es⟩, -, made⟩ := Option.map_eq_some_iff.mp done
    dsimp only at made
    split at made <;> subst made <;> exact h.other es rfl rfl rfl rfl rfl
  · cases Run.MainStep.of_step done with
    | @serve team es => exact h.other es rfl rfl rfl rfl rfl
    | @report o => exact h.other (Run.counterReport o) rfl rfl rfl rfl rfl
    | _ => exact h.other [] rfl rfl rfl rfl rfl
  · obtain ⟨-, ⟨⟩⟩ := Option.ite_none_right_eq_some.mp done
    exact h.other [] rfl rfl rfl rfl rfl

theorem Turns.act {d : Run.Deed} (act : w.act d = some v) (h : Turns c₀ w) : Turns c₀ v := by
  obtain ⟨ds, c, calm, run, holds⟩ := h
  obtain ⟨es, u, calm', run', holds'⟩ := holds.act act
  refine ⟨ds ++ es, u, fun d mem => ?_, ?_, holds'⟩
  · exact (List.mem_append.mp mem).elim (calm d) (calm' d)
  · rw [follow_append, run]
    exact run'

theorem Turns.start {c : Config} {acts : Effect → List Act} {subscribers : List Subscriber}
    {size : SlotSize} {r₀ : Run} (start : Run.start c acts subscribers size = .ok r₀) :
    ∃ bus c₀, Circle.start (subscribers ++ [{ name := Roster.subscriberName }]) bus 0 = some c₀ ∧
      Turns c₀ { run := r₀ } := by
  unfold Run.start at start
  split at start
  · cases start
  next bus made =>
    split at start
    · cases start
    next audience opened =>
      cases start
      let c₀ : Circle :=
        { traced := { session := { audience, bus := bus.subscribe.1, seq := 0 } }
          reader := bus.subscribe.2 }
      have begun : Circle.start (subscribers ++ [{ name := Roster.subscriberName }]) bus 0
          = some c₀ := by
        simp [Circle.start, Session.start, opened, c₀]
      exact ⟨bus, c₀, begun, [], c₀, by simp, rfl, ⟨rfl, rfl, rfl, rfl, rfl⟩⟩

/-- If no subscriber panics while handling a report, then in every run, whatever the queues, the
gates and the order of steps, `m` events that the producers and the main task publish cause at most
`m * n * (1 + n)` reports, where `n` subscribers listen, the roster among them. -/
theorem echoes_le {c : Config} {acts : Effect → List Act} {subscribers : List Subscriber}
    {size : SlotSize} {r₀ : Run} {deeds : List Run.Deed}
    (start : Run.start c acts subscribers size = .ok r₀)
    (calm : ∀ s ∈ subscribers, s.Calm) (run : follow act { run := r₀ } deeds = some w) :
    let n := subscribers.length + 1
    w.reported ≤ w.outside * n * (1 + n) := by
  obtain ⟨bus, c₀, opened, begun⟩ := Turns.start start
  obtain ⟨ds, u, calmly, turned, holds⟩ : Turns c₀ w :=
    follow_invariant (fun _ _ _ act h => Turns.act act h) run begun
  have all : ∀ s ∈ subscribers ++ [({ name := Roster.subscriberName } : Subscriber)], s.Calm := by
    intro s mem
    rcases List.mem_append.mp mem with given | roster
    · exact calm s given
    · rw [List.mem_singleton.mp roster]
      decide
  have bounded := Circle.reported_le opened all calmly turned
  rw [holds.reported, holds.outside, List.length_append] at bounded
  exact bounded

end Tally

end SharedCounter
