import SharedCounter.Proofs.Session
import SharedCounter.Proofs.Simulation

/-!
# One desk of a session

* `Solo`, `Solo.act` : a desk on its own, with its record and what it has published. It is offered
  events, its worker goes on, its gate is given permits, its subscriber changes its ways, and at
  some time nothing more will be offered;
* `Session.Deed.at?` : what a deed of a session is to one of its desks, if it is anything to it;
* `TracedSession.Seats m i s` : the desk `i` of the session is `s`. Whatever happens in the session,
  the desk goes through what is done at it and through nothing else (`TracedSession.Seats.follow`);
* `TracedSession.Tells ts m v` : from `m` to `v` just `ts` was told, and has entered the bus. Every
  deed is of this kind (`TracedSession.tells_of_act`), so that all that was told has
  (`TracedSession.Published`).
-/

namespace SharedCounter

/-- A desk with its record and what it has published. -/
structure Solo where
  desk : Desk
  record : Record := {}
  reports : List (Stamped × Event) := []

namespace Solo

/-- What can happen at a desk. -/
inductive Deed where
  | offer (e : Stamped)
  | work
  | permit (n : Nat)
  | resolve (gated : Bool) (panicsOn : List EventKind) (mode : PanicMode)
  /-- No more events will be offered. -/
  | close

/-- The desk after a deed, undefined if its worker cannot go on, or if an event is offered after the
last one. -/
def act (s : Solo) : Deed → Option Solo
  | .offer e =>
    if s.desk.isOpen then
      some
        { desk := (s.desk.offer e).1
          record := s.record.offer e (s.desk.offer e).2
          reports := s.reports
            ++ ((Audience.report s.desk e.event (s.desk.offer e).2).map (e, ·)).toList }
    else none
  | .work =>
    (Desk.State.step ⟨s.desk, []⟩).map fun t =>
      { desk := t.desk, record := s.record.work s.desk, reports := s.reports ++ s.desk.tells }
  | .permit n => some { s with desk := s.desk.permit n }
  | .resolve gated panicsOn mode => some { s with desk := s.desk.resolve gated panicsOn mode }
  | .close => some { s with desk := s.desk.close }

end Solo

/-- What a deed is to the desk `i`. -/
def Session.Deed.at? (i : Nat) : Session.Deed → Option Solo.Deed
  | .emit e => some (.offer e)
  | .work j => if j = i then some .work else none
  | .permit j n => if j = i then some (.permit n) else none
  | .resolve j gated panicsOn mode => if j = i then some (.resolve gated panicsOn mode) else none
  | .publish _ => none
  | .shutdown => some .close

namespace TracedSession

variable {m v : TracedSession} {i : Nat} {s t : Solo} {d : Session.Deed}

/-- The desk `i` of the session is `s`. -/
structure Seats (m : TracedSession) (i : Nat) (s : Solo) : Prop where
  desk : m.session.audience[i]? = some s.desk
  record : m.records i = s.record
  reports : m.reports i = s.reports
  isOpen : s.desk.isOpen = m.session.isOpen

theorem Seats.emit (h : m.Seats i s) {e : Stamped} (act : m.act (.emit e) = some v) :
    ∃ t, s.act (.offer e) = some t ∧ v.Seats i t := by
  obtain ⟨u, done, rfl⟩ := Option.map_eq_some_iff.mp act
  obtain ⟨isOpen, ⟨⟩⟩ := Option.ite_none_right_eq_some.mp done
  refine ⟨_, if_pos (h.isOpen.trans isOpen), ?_, ?_, ?_, ?_⟩
  · simp [Session.publish, h.desk]
  · simp [note, h.desk, h.record]
  · have told := Audience.tellings_of m.session.audience e i
    rw [h.desk] at told
    have before := h.reports
    unfold TracedSession.reports at before
    simp [TracedSession.reports, note, told, before]
  · exact (Desk.isOpen_offer _ _).trans h.isOpen

theorem Seats.work (h : m.Seats i s) {j : Nat} (act : m.act (.work j) = some v) :
    (j = i → ∃ t, s.act .work = some t ∧ v.Seats i t) ∧ (j ≠ i → v.Seats i s) := by
  obtain ⟨u, done, rfl⟩ := Option.map_eq_some_iff.mp act
  obtain ⟨d, seated, moved⟩ := Option.bind_eq_some_iff.mp done
  obtain ⟨t, step, rfl⟩ := Option.map_eq_some_iff.mp moved
  have note : m.note (.work j) = { m with
      records := Function.update m.records j ((m.records j).work d)
      told := m.told ++ d.tells.map fun x => .desk j x.1 x.2 } := by
    simp [TracedSession.note, seated]
  have said : ∀ x : Stamped × Event, Telling.of? i (.desk j x.1 x.2)
      = if j = i then some x else none := fun x => rfl
  have before := h.reports
  unfold TracedSession.reports at before
  rw [note]
  refine ⟨fun same => ?_, fun other => ⟨?_, ?_, ?_, h.isOpen⟩⟩
  · subst same
    obtain rfl : s.desk = d := Option.some.inj (h.desk.symm.trans seated)
    refine ⟨_, by rw [Solo.act, step]; rfl, ?_, ?_, ?_, (Desk.isOpen_of_step step).trans h.isOpen⟩
    · exact List.getElem?_set_self (List.getElem?_eq_some_iff.mp seated).1
    · simp [h.record]
    · simp [TracedSession.reports, before, List.filterMap_map, said]
  · exact (List.getElem?_set_ne other).trans h.desk
  · simp [Function.update_of_ne other.symm, h.record]
  · simp [TracedSession.reports, before, List.filterMap_map, said, other]

theorem Seats.onDesk (h : m.Seats i s) (j : Nat) {f : Desk → Desk}
    (isOpen : ∀ d, (f d).isOpen = d.isOpen) :
    (j = i → Seats { m with session := m.session.onDesk j f } i { s with desk := f s.desk }) ∧
      (j ≠ i → Seats { m with session := m.session.onDesk j f } i s) := by
  refine ⟨fun same => ⟨?_, h.record, h.reports, (isOpen _).trans h.isOpen⟩,
    fun other => ⟨?_, h.record, h.reports, h.isOpen⟩⟩
  · simp [Session.onDesk, same, h.desk]
  · simp [Session.onDesk, other, h.desk]

theorem Seats.act (h : m.Seats i s) (act : m.act d = some v) :
    ∃ t, follow Solo.act s (d.at? i).toList = some t ∧ v.Seats i t := by
  have one : ∀ {x : Solo.Deed} {t : Solo}, s.act x = some t → follow Solo.act s [x] = some t := by
    intro x t done
    rw [follow_cons, done]
    rfl
  cases d with
  | emit e =>
    obtain ⟨t, done, seats⟩ := h.emit act
    exact ⟨t, one done, seats⟩
  | work j =>
    obtain ⟨here, elsewhere⟩ := h.work act
    by_cases same : j = i
    · obtain ⟨t, done, seats⟩ := here same
      exact ⟨t, by simpa [Session.Deed.at?, same] using one done, seats⟩
    · exact ⟨s, by simp [Session.Deed.at?, same, SharedCounter.follow], elsewhere same⟩
  | permit j n =>
    cases act
    obtain ⟨here, elsewhere⟩ := h.onDesk j (f := (·.permit n)) fun _ => rfl
    by_cases same : j = i
    · exact ⟨_, by simpa [Session.Deed.at?, same] using one rfl, here same⟩
    · exact ⟨s, by simp [Session.Deed.at?, same, SharedCounter.follow], elsewhere same⟩
  | resolve j gated panicsOn mode =>
    cases act
    obtain ⟨here, elsewhere⟩ := h.onDesk j (f := (·.resolve gated panicsOn mode)) fun _ => rfl
    by_cases same : j = i
    · exact ⟨_, by simpa [Session.Deed.at?, same] using one rfl, here same⟩
    · exact ⟨s, by simp [Session.Deed.at?, same, SharedCounter.follow], elsewhere same⟩
  | publish es =>
    cases act
    refine ⟨s, rfl, h.desk, h.record, ?_, h.isOpen⟩
    have before := h.reports
    unfold TracedSession.reports at before
    simp [TracedSession.reports, note, before, Telling.of?, List.filterMap_map, Function.comp_def]
  | shutdown =>
    cases act
    exact ⟨_, one rfl, by simp [Audience.close, h.desk], h.record, h.reports, rfl⟩

/-- Whatever happens in the session, the desk goes through what is done at it. -/
theorem Seats.follow (h : m.Seats i s) {deeds : List Session.Deed}
    (run : SharedCounter.follow TracedSession.act m deeds = some v) :
    ∃ t, SharedCounter.follow Solo.act s (deeds.filterMap (·.at? i)) = some t ∧ v.Seats i t := by
  induction deeds generalizing m s with
  | nil =>
    cases run
    exact ⟨s, rfl, h⟩
  | cons d deeds ih =>
    rw [follow_cons] at run
    obtain ⟨u, act, rest⟩ := Option.bind_eq_some_iff.mp run
    obtain ⟨t, first, seats⟩ := h.act act
    obtain ⟨w, later, seats⟩ := ih seats rest
    refine ⟨w, ?_, seats⟩
    have split : (d :: deeds).filterMap (·.at? i)
        = (d.at? i).toList ++ deeds.filterMap (·.at? i) := by
      cases seen : d.at? i <;> simp [seen]
    rw [split, follow_append, first]
    exact later

/-- A session begins with nothing offered at any desk. -/
theorem Seats.start {subscribers : List Subscriber} {b : Bus} {n : Nat} {s₀ : Session}
    (opened : Session.start subscribers b n = some s₀) {s : Subscriber}
    (seat : subscribers[i]? = some s) :
    Seats { session := s₀ } i { desk := { subscriber := s } } := by
  obtain ⟨a, made, rfl⟩ := Option.map_eq_some_iff.mp opened
  obtain ⟨-, ⟨⟩⟩ := Option.ite_none_right_eq_some.mp made
  exact ⟨by simp [seat], rfl, rfl, rfl⟩

/-! ## The bus -/

theorem of_work (act : m.act (.work i) = some v) :
    ∃ d t, m.session.audience[i]? = some d ∧ Desk.State.step ⟨d, []⟩ = some t ∧
      v.session
        = { m.session with audience := m.session.audience.set i t.desk }.publish t.events ∧
      v.told = m.told ++ d.tells.map fun x => .desk i x.1 x.2 := by
  obtain ⟨u, done, rfl⟩ := Option.map_eq_some_iff.mp act
  obtain ⟨d, seated, moved⟩ := Option.bind_eq_some_iff.mp done
  obtain ⟨t, step, rfl⟩ := Option.map_eq_some_iff.mp moved
  exact ⟨d, t, seated, step, rfl, by simp [note, seated]⟩

theorem act_work {k : Desk} {u : Desk.State} (seated : m.session.audience[i]? = some k)
    (step : Desk.State.step ⟨k, []⟩ = some u) :
    ∃ v, m.act (.work i) = some v ∧
      v.session
        = { m.session with audience := m.session.audience.set i u.desk }.publish u.events ∧
      v.told = m.told ++ k.tells.map fun x => .desk i x.1 x.2 := by
  have goes : (m.act (.work i)).isSome := by simp [TracedSession.act, Session.act, seated, step]
  obtain ⟨v, act⟩ := Option.isSome_iff_exists.mp goes
  obtain ⟨k', u', seated', step', session, told⟩ := of_work act
  obtain rfl : k = k' := Option.some.inj (seated.symm.trans seated')
  obtain rfl : u = u' := Option.some.inj (step.symm.trans step')
  exact ⟨v, act, session, told⟩

/-- From `m` to `v` just `ts` was told, which has entered the bus. -/
structure Tells (ts : List Telling) (m v : TracedSession) : Prop where
  told : v.told = m.told ++ ts
  bus : v.session.bus = m.session.bus.publishAll m.session.seq (ts.map Telling.event)
  seq : v.session.seq = m.session.seq + ts.length
  size : v.session.audience.length = m.session.audience.length

theorem Tells.of_publish {ts : List Telling} {es : List Event} (events : ts.map Telling.event = es)
    (told : v.told = m.told ++ ts)
    (bus : v.session.bus = m.session.bus.publishAll m.session.seq es)
    (seq : v.session.seq = m.session.seq + es.length)
    (size : v.session.audience.length = m.session.audience.length) : Tells ts m v := by
  subst events
  exact ⟨told, bus, by rw [seq, List.length_map], size⟩

theorem tells_of_act (act : m.act d = some v) : ∃ ts, Tells ts m v := by
  cases d with
  | emit e =>
    obtain ⟨u, done, rfl⟩ := Option.map_eq_some_iff.mp act
    obtain ⟨-, ⟨⟩⟩ := Option.ite_none_right_eq_some.mp done
    exact ⟨_, .of_publish (Audience.map_event_tellings m.session.audience e) rfl rfl rfl
      (Audience.length_emit _ _)⟩
  | work i =>
    obtain ⟨d, t, -, step, session, told⟩ := of_work act
    have events : (d.tells.map fun x => Telling.desk i x.1 x.2).map Telling.event = t.events := by
      rw [← Desk.map_snd_tells step, List.map_map]
      rfl
    refine ⟨_, .of_publish events told ?_ ?_ ?_⟩
    · exact congrArg Session.bus session
    · exact congrArg Session.seq session
    · rw [session]
      exact List.length_set
  | publish es =>
    cases act
    have events : (es.map Telling.other).map Telling.event = es := by
      rw [List.map_map]
      exact List.map_id es
    exact ⟨_, .of_publish events rfl rfl rfl rfl⟩
  | permit i k | resolve i gated panicsOn mode | shutdown =>
    cases act
    exact ⟨[], by simp [note], rfl, rfl, by simp [Session.onDesk, Audience.close]⟩

/-- All that was told has entered the bus, which was `b` when the session began, and has taken a
number, the first of them `n`. -/
structure Published (b : Bus) (n : Nat) (m : TracedSession) : Prop where
  bus : m.session.bus = b.publishAll n (m.told.map Telling.event)
  seq : m.session.seq = n + m.told.length

variable {b : Bus} {n : Nat}

theorem Published.act (h : m.Published b n) (act : m.act d = some v) : v.Published b n := by
  obtain ⟨ts, tells⟩ := tells_of_act act
  have published := b.publishAll_publishAll n (m.told.map Telling.event) (ts.map Telling.event)
  rw [List.length_map] at published
  constructor
  · rw [tells.bus, tells.told, h.bus, h.seq, published, List.map_append]
  · rw [tells.seq, tells.told, h.seq, List.length_append, Nat.add_assoc]

theorem Published.follow {s₀ : Session} {deeds : List Session.Deed}
    {subscribers : List Subscriber} (opened : Session.start subscribers b n = some s₀)
    (run : SharedCounter.follow TracedSession.act { session := s₀ } deeds = some v) :
    v.Published b n := by
  refine follow_invariant (P := Published b n) (fun _ _ _ act h => Published.act h act) run ?_
  obtain ⟨a, -, rfl⟩ := Option.map_eq_some_iff.mp opened
  exact ⟨rfl, rfl⟩

end TracedSession

end SharedCounter
