import SharedCounter.Proofs.Circle.Basic

/-!
# A ring that is large enough

* `TracedSession.offers_of_act`, `TracedSession.offers_offerAt` : what a desk has been offered
  changes only when it is offered something;
* `Circle.Complete` : the listener has found all that was published, in order, up to where it is.
  Every deed keeps it as long as the ring has not overwritten anything unread (`Complete.act`);
* `Circle.Offered` : each desk has been offered all that was found, but for the offers to come;
* `Circle.isolates` : so a subscriber with room in its queue misses nothing, whatever the others do,
  as long as never more events are unread than the ring holds. The reports count here:
  `Circle.overwrites` is a circle in which they overwrite an event of others.
-/

namespace SharedCounter

namespace TracedSession

variable {m v : TracedSession}

/-- Nothing is offered beside the listener. -/
theorem offers_of_act {d : Session.Deed} (beside : ∀ e, d ≠ .emit e) (act : m.act d = some v)
    (i : Nat) : (v.records i).offers = (m.records i).offers := by
  cases d with
  | emit e => exact absurd rfl (beside e)
  | work j =>
    obtain ⟨u, done, rfl⟩ := Option.map_eq_some_iff.mp act
    obtain ⟨d, seated, -⟩ := Option.bind_eq_some_iff.mp done
    simp only [note, seated, Option.elim_some]
    by_cases same : i = j
    · subst same
      rw [Function.update_self, Record.work]
      cases d.meeting? <;> rfl
    · rw [Function.update_of_ne same]
  | publish es | permit j n | resolve j gated panicsOn mode | shutdown =>
    cases act
    rfl

theorem offers_offerAt {i : Nat} {d : Desk} (seated : m.session.audience[i]? = some d)
    (e : Stamped) :
    ((m.offerAt i e).records i).offers = (m.records i).offers ++ [(e, (d.offer e).2)] := by
  simp [offerAt, seated, Record.offer]

theorem offers_offerAt_of_ne {i j : Nat} (other : j ≠ i) (m : TracedSession) (e : Stamped) :
    (m.offerAt i e).records j = m.records j := by
  cases seated : m.session.audience[i]? <;> simp [offerAt, seated, Function.update_of_ne other]

end TracedSession

namespace Circle

variable {first : Nat} {c t : Circle} {m : TracedSession} {ts : List Telling}

/-- The listener has found all that was published, in order, up to where it is. The numbers of the
events begin with `first`. -/
structure Complete (first : Nat) (c : Circle) : Prop where
  listened : 0 < c.traced.session.bus.listeners
  seq : c.traced.session.seq = first + c.traced.told.length
  inside : c.reader.next ≤ c.traced.session.bus.history.size
  all : c.traced.emitted ++ c.unread = stampFrom first (c.traced.told.map Telling.event)
  missed : c.missed = 0

/-- The ring holds all that is unread. -/
def Fits (c : Circle) : Prop := c.unread.length ≤ c.traced.session.bus.capacity

theorem Complete.tells (h : c.Complete first) (tells : TracedSession.Tells ts c.traced m)
    (emitted : m.emitted = c.traced.emitted) (offers : List (Nat × Stamped)) :
    Complete first { c with traced := m, offers } := by
  have history : m.session.bus.history.toList = c.traced.session.bus.history.toList
      ++ stampFrom c.traced.session.seq (ts.map Telling.event) := by
    rw [tells.bus]
    exact (Bus.foldl_publish h.listened _).1
  have size := congrArg List.length history
  rw [List.length_append, Array.length_toList, Array.length_toList] at size
  have longer : c.traced.session.bus.history.size ≤ m.session.bus.history.size := by omega
  refine ⟨?_, ?_, Nat.le_trans h.inside longer, ?_, h.missed⟩
  · rw [tells.bus, Bus.listeners_publishAll]
    exact h.listened
  · rw [tells.seq, tells.told, List.length_append, h.seq, Nat.add_assoc]
  · have all := h.all
    have inside : c.reader.next ≤ c.traced.session.bus.history.toList.length := h.inside
    unfold unread at all ⊢
    simp only [emitted, tells.told, history, List.map_append, stampFrom_append,
      List.drop_append_of_le_length inside, List.length_map, ← h.seq, ← all, List.append_assoc]

theorem Complete.act {d : Deed} (fits : c.Fits) (act : c.act d = some t) (h : c.Complete first) :
    t.Complete first := by
  cases Step.of_act act with
  | @hear e isOpen idle kept found =>
    have rest := drop_of_getElem? (Array.getElem?_toList.trans found)
    obtain ⟨inside, -⟩ := Array.getElem?_eq_some_iff.mp found
    refine { h with inside := inside, all := ?_ }
    have all := h.all
    rw [unread, rest] at all
    rw [unread, List.append_assoc]
    exact all
  | lag isOpen idle behind =>
    rw [Fits, unread, List.length_drop, Array.length_toList] at fits
    rw [Bus.oldest] at behind
    omega
  | @offer i e rest due =>
    obtain ⟨ts, tells⟩ := c.traced.tells_offerAt i e
    exact h.tells tells (c.traced.emitted_offerAt i e) rest
  | beside allowed done =>
    obtain ⟨ts, tells⟩ := TracedSession.tells_of_act done
    exact h.tells tells (TracedSession.emitted_of_act (ne_emit_of_allows allowed) done) c.offers

/-- Each desk is to be offered the event once. -/
theorem filter_offers {n i : Nat} (hi : i < n) (e : Stamped) :
    ((List.range n).map (·, e)).filter (·.1 = i) = [(i, e)] := by
  induction n with
  | zero => cases hi
  | succ n ih =>
    rw [List.range_succ, List.map_append, List.filter_append]
    rcases Nat.lt_succ_iff_lt_or_eq.mp hi with before | rfl
    · rw [ih before]
      simp [Nat.ne_of_gt before]
    · have others : ((List.range i).map (·, e)).filter (·.1 = i) = [] := by
        refine List.filter_eq_nil_iff.mpr fun x hx => ?_
        obtain ⟨j, hj, rfl⟩ := List.mem_map.mp hx
        simpa using Nat.ne_of_lt (List.mem_range.mp hj)
      simp [others]

/-- The offers still to be made at the desk `i`. -/
def due (c : Circle) (i : Nat) : List Stamped := (c.offers.filter (·.1 = i)).map Prod.snd

/-- Of the `n` desks, each has been offered all that was found, but for the offers still to be
made. -/
structure Offered (n : Nat) (c : Circle) : Prop where
  size : c.traced.session.audience.length = n
  all : ∀ i < n, (c.traced.records i).offers.map Prod.fst ++ c.due i = c.traced.emitted

theorem Offered.act {n : Nat} {d : Deed} (act : c.act d = some t) (h : c.Offered n) :
    t.Offered n := by
  refine ⟨(size_of_act act).trans h.size, fun i hi => ?_⟩
  have all := h.all i hi
  cases Step.of_act act with
  | @hear e isOpen idle kept found =>
    simp only [due, idle, List.filter_nil, List.map_nil, List.append_nil, h.size,
      filter_offers hi] at all ⊢
    rw [all]
    rfl
  | lag isOpen idle behind => exact all
  | @offer j e rest offers =>
    rw [c.traced.emitted_offerAt j e, ← all]
    by_cases same : i = j
    · subst same
      have seated := List.getElem?_eq_getElem (h.size.symm ▸ hi)
      rw [TracedSession.offers_offerAt seated]
      simp [due, offers]
    · rw [TracedSession.offers_offerAt_of_ne same]
      simp [due, offers, Ne.symm same]
  | beside allowed done =>
    have other := ne_emit_of_allows allowed
    rw [TracedSession.offers_of_act other done, TracedSession.emitted_of_act other done]
    exact all

/-- The desk `i` takes the event that it is to be offered next, if it is. -/
def Roomy (i : Nat) (c : Circle) : Prop :=
  ∀ e rest d, c.offers = (i, e) :: rest → c.traced.session.audience[i]? = some d →
    d.duty = .working ∧ d.queue.length < d.subscriber.slots

theorem refused_eq_nil_of_act {i : Nat} {d : Deed} (roomy : c.Roomy i) (act : c.act d = some t)
    (h : ∀ x ∈ (c.traced.records i).offers, x.2 = none) :
    ∀ x ∈ (t.traced.records i).offers, x.2 = none := by
  cases Step.of_act act with
  | hear | lag => exact h
  | @offer j e rest offers =>
    by_cases same : i = j
    · subst same
      cases seated : c.traced.session.audience[i]? with
      | none => simpa [TracedSession.offerAt, seated] using h
      | some d =>
        obtain ⟨working, room⟩ := roomy e rest d offers seated
        have queued : (d.offer e).2 = none := by simp [Desk.offer, working, room]
        rw [TracedSession.offers_offerAt seated, queued]
        simpa [or_imp, forall_and] using h
    · rw [TracedSession.offers_offerAt_of_ne same]
      exact h
  | beside allowed done =>
    rw [TracedSession.offers_of_act (ne_emit_of_allows allowed) done]
    exact h

theorem Complete.start {subscribers : List Subscriber} {bus : Bus} {seq : Nat}
    (opened : start subscribers bus seq = some c) : c.Complete seq := by
  obtain rfl := eq_of_start opened
  exact ⟨Nat.succ_pos _, rfl, Nat.le_refl _, by simp [unread, stampFrom], rfl⟩

theorem Offered.start {subscribers : List Subscriber} {bus : Bus} {seq : Nat}
    (opened : start subscribers bus seq = some c) : c.Offered subscribers.length := by
  obtain rfl := eq_of_start opened
  exact ⟨List.length_map _, fun i _ => rfl⟩

/-- A subscriber costs only itself, where all events count. If at no time more events are unread
than the ring holds, the reports of refusals and of panics among them, then nothing is missed,
whatever the subscribers do: all that is published is found in its order, and all that is found is
offered at every desk. A desk that has room for each event that it is offered refuses none. -/
theorem isolates {subscribers : List Subscriber} {bus : Bus} {seq : Nat} {c₀ c : Circle}
    {deeds : List Deed} (opened : start subscribers bus seq = some c₀)
    (run : follow act c₀ deeds = some c)
    (fits : ∀ ds u, ds <+: deeds → follow act c₀ ds = some u → u.Fits) :
    c.missed = 0 ∧
    c.traced.emitted ++ c.unread = stampFrom seq (c.traced.told.map Telling.event) ∧
    ∀ i < subscribers.length,
      (c.traced.records i).offers.map Prod.fst ++ c.due i = c.traced.emitted ∧
      ((∀ ds u, ds <+: deeds → follow act c₀ ds = some u → u.Roomy i) →
        (c.traced.records i).accepted ++ c.due i = c.traced.emitted) := by
  have complete : c.Complete seq :=
    follow_invariant_along (fun _ _ _ fits act h => Complete.act fits act h) run fits
      (.start opened)
  have offered : c.Offered subscribers.length :=
    follow_invariant (fun _ _ _ act h => Offered.act act h) run (.start opened)
  refine ⟨complete.missed, complete.all, fun i hi => ⟨offered.all i hi, fun roomy => ?_⟩⟩
  have welcome : ∀ x ∈ (c.traced.records i).offers, x.2 = none :=
    follow_invariant_along
      (P := fun c : Circle => ∀ x ∈ (c.traced.records i).offers, x.2 = none)
      (fun _ _ _ roomy act h => refused_eq_nil_of_act roomy act h) run roomy (by
        obtain rfl := eq_of_start opened
        simp)
  have all : (c.traced.records i).offers.filter (·.2.isNone) = (c.traced.records i).offers :=
    List.filter_eq_self.mpr fun x hx => by rw [welcome x hx]; rfl
  rw [Record.accepted, all]
  exact offered.all i hi

/-- A subscriber panics over an event while the next one is unread, in a ring for two events. -/
theorem isolates_of_touchy :
    let touchy : Subscriber := { name := "touchy", panicsOn := [.drainStarted] }
    let steady : Subscriber := { name := "steady" }
    let deeds : List Deed := [.beside (.publish [{ kind := .drainStarted }]), .hear, .offer, .offer,
      .beside (.publish [{ kind := .drainFinished }]), .beside (.work 0), .hear, .offer, .offer,
      .hear, .offer, .offer]
    ∃ c₀ c, start [touchy, steady] { capacity := 2 } 0 = some c₀ ∧
      follow act c₀ deeds = some c ∧ c.missed = 0 ∧ c.unread = [] ∧
      c.traced.reported = 1 ∧ (c.traced.records 1).accepted ++ c.due 1
        = stampFrom 0 (c.traced.told.map Telling.event) := by
  intro touchy steady deeds
  have opened : (start [touchy, steady] { capacity := 2 } 0).isSome := by decide +kernel
  obtain ⟨c₀, opened⟩ := Option.isSome_iff_exists.mp opened
  have seen : (start [touchy, steady] { capacity := 2 } 0).all (fun c₀ =>
      (follow act c₀ deeds).any (fun c => c.unread = [] ∧ c.traced.reported = 1) ∧
      ∀ k ≤ deeds.length, (follow act c₀ (deeds.take k)).all fun u =>
        u.unread.length ≤ u.traced.session.bus.capacity ∧
        u.traced.session.audience.all fun d =>
          d.duty = .working ∧ d.queue.length < d.subscriber.slots) = true := by
    decide +kernel
  rw [opened] at seen
  obtain ⟨ends, moments⟩ := of_decide_eq_true seen
  obtain ⟨c, run, read⟩ := (Option.any_eq_true _ _).mp ends
  obtain ⟨read, reported⟩ := of_decide_eq_true read
  have allAlong : ∀ ds u, ds <+: deeds → follow act c₀ ds = some u →
      u.Fits ∧ ∀ d ∈ u.traced.session.audience,
        d.duty = .working ∧ d.queue.length < d.subscriber.slots := by
    intro ds u before run
    have moment := moments ds.length before.length_le
    rw [← List.prefix_iff_eq_take.mp before, run] at moment
    obtain ⟨fits, roomy⟩ := of_decide_eq_true moment
    exact ⟨fits, fun d hd => of_decide_eq_true (List.all_eq_true.mp roomy d hd)⟩
  obtain ⟨missed, all, desks⟩ :=
    isolates opened run fun ds u before run => (allAlong ds u before run).1
  have accepted := (desks 1 (by decide)).2 fun ds u before run e rest d _ seated =>
    (allAlong ds u before run).2 d (List.mem_of_getElem? seated)
  rw [read, List.append_nil] at all
  exact ⟨c₀, c, opened, run, missed, read, reported, accepted.trans all⟩

/-- The reports count too. In a ring for one event, others publish an event, which the listener
finds and offers at both desks; they publish another, and then a subscriber panics over the first.
Of what others publish, never more than one event is unread. But the report of the panic overwrites
the second one, and it is never offered to the other subscriber, whose queue has room all along. -/
theorem overwrites :
    let touchy : Subscriber := { name := "touchy", panicsOn := [.drainStarted] }
    let steady : Subscriber := { name := "steady" }
    let started : Event := { kind := .drainStarted }
    let finished : Event := { kind := .drainFinished }
    let deeds : List Deed := [.beside (.publish [started]), .hear, .offer, .offer,
      .beside (.publish [finished]), .beside (.work 0), .hear, .hear, .offer, .offer]
    let heard (c : Circle) : Nat :=
      c.traced.emitted.countP fun x => x.event = started ∨ x.event = finished
    ∃ c₀ c, start [touchy, steady] { capacity := 1 } 0 = some c₀ ∧
      follow act c₀ deeds = some c ∧
      (∀ ds u, ds <+: deeds → follow act c₀ ds = some u → u.traced.outside ≤ heard u + 1 ∧
        ∀ d ∈ u.traced.session.audience, d.duty = .working ∧ d.queue.length < d.subscriber.slots) ∧
      c.unread = [] ∧ c.offers = [] ∧ finished ∈ c.traced.told.map Telling.event ∧
      finished ∉ c.traced.emitted.map Stamped.event := by
  intro touchy steady started finished deeds heard
  have opened : (start [touchy, steady] { capacity := 1 } 0).isSome := by decide +kernel
  obtain ⟨c₀, opened⟩ := Option.isSome_iff_exists.mp opened
  have seen : (start [touchy, steady] { capacity := 1 } 0).all (fun c₀ =>
      (follow act c₀ deeds).any (fun c => c.unread = [] ∧ c.offers = [] ∧
        finished ∈ c.traced.told.map Telling.event ∧
        finished ∉ c.traced.emitted.map Stamped.event) ∧
      ∀ k ≤ deeds.length, (follow act c₀ (deeds.take k)).all fun u =>
        u.traced.outside ≤ heard u + 1 ∧ u.traced.session.audience.all fun d =>
          d.duty = .working ∧ d.queue.length < d.subscriber.slots) = true := by
    decide +kernel
  rw [opened] at seen
  obtain ⟨ends, moments⟩ := of_decide_eq_true seen
  obtain ⟨c, run, missed⟩ := (Option.any_eq_true _ _).mp ends
  refine ⟨c₀, c, opened, run, fun ds u before run => ?_, of_decide_eq_true missed⟩
  have moment := moments ds.length before.length_le
  rw [← List.prefix_iff_eq_take.mp before, run] at moment
  obtain ⟨own, roomy⟩ := of_decide_eq_true moment
  exact ⟨own, fun d hd => of_decide_eq_true (List.all_eq_true.mp roomy d hd)⟩

end Circle

end SharedCounter
