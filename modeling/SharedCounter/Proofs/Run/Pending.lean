import SharedCounter.Proofs.Audience
import SharedCounter.Proofs.Roster
import SharedCounter.Proofs.Run.Chronicle
import SharedCounter.Proofs.Run.Poll
import SharedCounter.Proofs.Run.Verdicts

/-!
# Lost completions name exactly the silent producers

* `TracedListener.Doing`, `TracedListener.proceed` : a deed of a run, or a producer that has not
  ended publishes an event of its own making;
* `TracedListener.Stopping k w` : nothing that counts for a roster is published after the listener
  was told to stop, because every producer has ended by then. Every doing keeps it (`Stopping.act`,
  `Stopping.tell`);
* `TracedListener.Kept k w` : as long as neither the ring nor the queue of the roster, which has the
  seat `k`, is too small, the roster has lost nothing of what was handed to the audience. Every
  doing keeps it (`Kept.proceed`), whatever the other subscribers do;
* `TracedListener.names_silent` : a run that returns lost completions names those whose last word is
  that they start.
-/

namespace SharedCounter

variable {e : Effect} {x : Event}

/-! ## What is published of subscribers -/

/-- Whatever a worker publishes tells of a panic of its subscriber. -/
theorem Desk.kind_of_step {d : Desk} {t : Desk.State} (step : State.step ⟨d, []⟩ = some t)
    (mem : x ∈ t.events) : x.kind = .subscriberPanicked := by
  have handle : ∀ (d : Desk) (s : Stamped), x ∈ (State.handle ⟨d, []⟩ s).events →
      x.kind = .subscriberPanicked := by
    intro d s mem
    unfold State.handle at mem
    dsimp only at mem
    split at mem
    · rw [List.nil_append, List.mem_singleton] at mem
      rw [mem]
      rfl
    · cases mem
  cases Goes.of_step step with
  | pass | take => exact handle _ _ mem
  | die | wait | leave => cases mem

/-- Whatever is published when an event is emitted tells of an overflow. -/
theorem Audience.kind_of_emit {a : Audience} {s : Stamped} (mem : x ∈ (a.emit s).2) :
    x.kind = .subscriberOverflow := by
  obtain ⟨d, -, reported⟩ := List.mem_filterMap.mp mem
  unfold Audience.report at reported
  split at reported
  · obtain ⟨-, ⟨⟩⟩ := Option.ite_none_left_eq_some.mp reported
    rfl
  · cases reported

theorem Event.not_speaksOf {name : String} (starting : x.kind ≠ .producerStarting)
    (finished : x.kind ≠ .producerFinished) : ¬ x.SpeaksOf name := by
  rintro ⟨-, kind | kind⟩
  · exact starting kind
  · exact finished kind

/-- Completions are lost as many as were missing. -/
theorem Coordinator.State.Change.lost {s t : State} (change : Change s t)
    (h : ∀ n, s.coordinator.outcome? = some (.lost n) → s.coordinator.remaining = n) (n : Nat)
    (lost : t.coordinator.outcome? = some (.lost n)) : t.coordinator.remaining = n := by
  cases change with
  | signal running | completion running => simp [outcome?, running] at lost
  | close running => simp [outcome?, running] at lost
  | lose =>
    cases lost
    rfl
  | @drain before side => cases side <;> cases lost
  | depart leaving =>
    refine h n ?_
    rw [outcome?_of_leaving leaving]
    exact lost
  | overflow _ _ left =>
    rw [outcome?_of_leaving left] at lost
    cases lost
  | _ => cases lost

namespace Run

variable {r t : Run} {d : Deed}

/-- The main task joins every producer before it tells the listener to stop. -/
theorem Joins.all_of_act (joins : r.Joins) (act : r.act d = some t)
    (all : r.stop = true → ∀ e, e ∈ r.joined) (stop : t.stop = true) (e : Effect) :
    e ∈ t.joined := by
  rcases d with ((i | _ | f) | b) | f
  · obtain ⟨k, u, -, -, rfl⟩ := stepWorker_eq_some_iff.mp act
    exact all stop e
  · cases ListenerStep.of_step act <;> exact all stop e
  · obtain ⟨⟨team, es⟩, -, rfl⟩ := Option.map_eq_some_iff.mp act
    dsimp only at stop ⊢
    split at stop
    next ended =>
      rw [if_pos ended]
      exact List.mem_append_left _ (all stop e)
    next going =>
      rw [if_neg going]
      exact all stop e
  · cases MainStep.of_step act with
    | stop stopping =>
      have heard := joins.heard
      rw [stopping] at heard
      exact joins.mem heard e
    | _ => exact all stop e
  · obtain ⟨-, ⟨⟩⟩ := Option.ite_none_right_eq_some.mp act
    exact all stop e

theorem Joins.act (h : r.Joins) (act : r.act d = some t) : t.Joins := by
  rcases d with ((i | _ | f) | b) | f
  · exact h.congr (stepWorker_same act)
  · exact h.congr (stepListener_same act)
  · exact h.stepProducer act
  · exact h.stepMain act
  · obtain ⟨ready, ⟨⟩⟩ := Option.ite_none_right_eq_some.mp act
    exact h.takePlace (Bool.and_eq_true_iff.mp ready).1

/-- A main task that returns has waited for the listener, unless a sum has left its range. -/
theorem gone_of_returned {o : Outcome} (listened : 0 < r.bus.listeners) (act : r.act d = some t)
    (h : ∀ o, r.main = .returned o → o ≠ .overflowed → r.listener = .gone)
    (returned : t.main = .returned o) (fine : o ≠ .overflowed) : t.listener = .gone := by
  by_cases own : d = .move (.task .listener)
  · subst own
    have listens := ListenerStep.of_step act
    rw [(stepListener_same act).main] at returned
    have gone := h o returned fine
    cases listens <;> simp_all
  · rw [(beside_of_act listened act own).listener]
    rcases d with ((_ | _ | f) | b) | f
    · exact h o ((stepWorker_same act).main.symm.trans returned) fine
    · exact absurd rfl own
    · obtain ⟨u, -, -, main, -⟩ := stepProducer_cases act
      exact h o (main.symm.trans returned) fine
    · cases MainStep.of_step act with
      | serve coordinating => exact h o returned fine
      | finish awaiting gone => exact gone
      | overflow =>
        cases returned
        exact absurd rfl fine
      | _ => cases returned
    · obtain ⟨-, ⟨⟩⟩ := Option.ite_none_right_eq_some.mp act
      exact h o returned fine

/-- Completions are lost as many as the coordinator missed. -/
def Missing (r : Run) : Prop :=
  ∀ n, r.team.coordinator.outcome? = some (.lost n) → r.team.coordinator.remaining = n

theorem Missing.act (h : r.Missing) (act : r.act d = some t) : t.Missing := by
  have same : t.team.coordinator = r.team.coordinator → t.Missing := by
    intro same
    unfold Missing
    rw [same]
    exact h
  rcases d with ((i | _ | f) | b) | f
  · exact same (congrArg Team.coordinator (stepWorker_same act).team)
  · exact same (congrArg Team.coordinator (stepListener_same act).team)
  · obtain ⟨u, -, team, -⟩ := stepProducer_cases act
    exact same (by rw [team, Team.coordinator_putProducer])
  · rcases stepMain_cases act with ⟨s, es, -, step, rfl⟩ | ⟨o, on⟩
    · obtain ⟨v, hv, ⟨⟩⟩ := Option.map_eq_some_iff.mp step
      exact (Coordinator.State.Change.of_step hv).lost h
    · exact same (congrArg Team.coordinator on.team)
  · obtain ⟨-, ⟨⟩⟩ := Option.ite_none_right_eq_some.mp act
    exact same (Team.coordinator_putProducer ..)

end Run

/-! ## Doings -/

namespace TracedListener

/-- What can happen next, when producers publish more than their acts do. -/
inductive Doing where
  | deed (d : Deed)
  /-- The producer of `e` publishes an event of its own making, under whatever name. -/
  | tell (e : Effect) (x : Event)
  deriving DecidableEq, Repr

/-- A producer publishes an event of its own making, undefined once it has ended. This does not come
between the two looks of the listener either. -/
def tell (w : TracedListener) (e : Effect) (x : Event) : Option TracedListener :=
  if w.run.listener = .checkingStop ∨ (w.run.team.producer e).ended = true then none
  else some { w with
    run := w.run.publish [x]
    cut := if w.run.stop then w.cut else (w.run.publish [x]).bus.history.size }

/-- One doing, undefined where its task waits or has ended. -/
def proceed (w : TracedListener) : Doing → Option TracedListener
  | .deed d => w.perform d
  | .tell e x => w.tell e x

variable {k : Nat} {w v : TracedListener} {t : Run} {es : List Event}

/-! ## After the stop -/

/-- Every producer has ended when the listener is told to stop, and whatever is published later tells
of subscribers. -/
structure Stopping (w : TracedListener) : Prop where
  told : w.Told
  joins : w.run.Joins
  all : w.run.stop = true → ∀ e, e ∈ w.run.joined
  late : ∀ s ∈ w.run.bus.history.toList.drop w.cut, ∀ name, ¬ s.event.SpeaksOf name

theorem Stopping.publish (h : w.Stopping) (told : v.Told) (joins : v.run.Joins)
    (all : v.run.stop = true → ∀ e, e ∈ v.run.joined)
    (bus : v.run.bus = w.run.bus.publishAll w.run.seq es)
    (cut : v.cut = if w.run.stop then w.cut else v.run.bus.history.size)
    (silent : w.run.stop = true → ∀ x ∈ es, ∀ name, ¬ x.SpeaksOf name) : v.Stopping := by
  refine ⟨told, joins, all, fun s mem => ?_⟩
  cases stop : w.run.stop with
  | false =>
    rw [cut, stop, if_neg Bool.false_ne_true] at mem
    have nothing : v.run.bus.history.toList.drop v.run.bus.history.size = [] :=
      List.drop_of_length_le (Nat.le_refl _)
    rw [nothing] at mem
    cases mem
  | true =>
    have grown : v.run.bus.history.toList
        = w.run.bus.history.toList ++ stampFrom w.run.seq es := by
      rw [bus]
      exact (Bus.foldl_publish h.told.listened _).1
    rw [cut, if_pos stop, grown, List.drop_append_of_le_length h.told.cut_le] at mem
    rcases List.mem_append.mp mem with old | made
    · exact h.late s old
    · refine silent stop s.event ?_
      rw [← map_event_stampFrom w.run.seq es]
      exact List.mem_map_of_mem made

/-- What a deed publishes after the stop tells of subscribers. -/
theorem Stopping.publishes (h : w.Stopping) {d : Run.Deed} (act : w.run.act d = some t) :
    ∃ es, t.bus = w.run.bus.publishAll w.run.seq es ∧
      (w.run.stop = true → ∀ x ∈ es, ∀ name, ¬ x.SpeaksOf name) := by
  have nothing : t.bus = w.run.bus → ∃ es, t.bus = w.run.bus.publishAll w.run.seq es ∧
      (w.run.stop = true → ∀ x ∈ es, ∀ name, ¬ x.SpeaksOf name) :=
    fun same => ⟨[], same, fun _ x mem => by cases mem⟩
  have early : w.run.main.reported? = none → w.run.stop ≠ true := by
    intro unreported stop
    have reported := h.told.told stop
    rw [unreported] at reported
    cases reported
  rcases d with ((i | _ | f) | b) | f
  · obtain ⟨k, u, -, step, rfl⟩ := Run.stepWorker_eq_some_iff.mp act
    refine ⟨u.events, rfl, fun _ x mem name => ?_⟩
    have kind := Desk.kind_of_step step mem
    exact Event.not_speaksOf (by rw [kind]; rintro ⟨⟩) (by rw [kind]; rintro ⟨⟩)
  · cases Run.ListenerStep.of_step act with
    | hear =>
      refine ⟨_, rfl, fun _ x mem name => ?_⟩
      have kind := Audience.kind_of_emit mem
      exact Event.not_speaksOf (by rw [kind]; rintro ⟨⟩) (by rw [kind]; rintro ⟨⟩)
    | _ => exact nothing rfl
  · obtain ⟨u, hu, -, -, tells⟩ := Run.tells_of_stepProducer act
    exact ⟨_, tells.bus, fun stop => absurd (h.all stop f) (h.joins.not_mem hu)⟩
  · cases Run.MainStep.of_step act with
    | serve coordinating =>
      exact ⟨_, rfl, fun stop => absurd stop (early (by rw [coordinating]; rfl))⟩
    | report joining =>
      exact ⟨_, rfl, fun stop => absurd stop (early (by rw [joining]; rfl))⟩
    | _ => exact nothing rfl
  · obtain ⟨-, ⟨⟩⟩ := Option.ite_none_right_eq_some.mp act
    exact nothing rfl

theorem Stopping.act (h : w.Stopping) {d : Run.Deed} (act : w.act d = some v) (told : v.Told) :
    v.Stopping := by
  obtain ⟨t, step, rfl⟩ := Option.map_eq_some_iff.mp act
  obtain ⟨es, bus, silent⟩ := h.publishes step
  exact h.publish told (h.joins.act step) (h.joins.all_of_act step h.all) bus rfl silent

/-- What a producer tells enters the bus as long as it has not ended. -/
theorem goes_tell (listened : 0 < w.run.bus.listeners) (x : Event) :
    Run.Beside w.run (w.run.publish [x]) := by
  obtain ⟨listeners, history⟩ := Run.bus_publish (r := w.run) listened [x]
  exact ⟨⟨listeners, history, .same rfl (.inl rfl)⟩, rfl, rfl⟩

theorem Stopping.tell (h : w.Stopping) (told : w.tell e x = some v) (still : v.Told) :
    v.Stopping := by
  obtain ⟨may, ⟨⟩⟩ := Option.ite_none_left_eq_some.mp told
  have bus : (w.run.publish [x]).bus = w.run.bus.publishAll w.run.seq [x] := rfl
  refine h.publish still (h.joins.congr ⟨rfl, rfl, rfl⟩) h.all bus rfl fun stop => ?_
  exact absurd (h.joins.ended e (h.all stop e)) fun ended => may (.inr ended)

/-! ## The seat of the roster -/

/-- The ring has not overwritten anything, and the roster has room for all that was published. -/
structure Fits (w : TracedListener) : Prop where
  ring : w.run.bus.history.size ≤ w.run.bus.capacity
  queue : w.run.bus.history.size ≤ 1024

theorem Fits.of_publish (fits : v.Fits) (listened : 0 < w.run.bus.listeners)
    (bus : v.run.bus = w.run.bus.publishAll w.run.seq es) : w.Fits := by
  have capacity : v.run.bus.capacity = w.run.bus.capacity := by
    rw [bus, Bus.capacity_publishAll]
  have longer : w.run.bus.history.size ≤ v.run.bus.history.size := by
    rw [bus]
    exact (Run.bus_publish (r := w.run) listened es).2.length_le
  exact ⟨Nat.le_trans longer (capacity ▸ fits.ring), Nat.le_trans longer fits.queue⟩

/-- The roster has been given a desk, and has lost nothing there. -/
structure Chair (w : TracedListener) (d : Desk) : Prop where
  subscriber : d.subscriber = { name := Roster.subscriberName }
  isOpen : w.run.listener ≠ .closing → w.run.listener ≠ .gone → d.isOpen = true
  served : d.Served w.emitted

theorem Chair.able (h : w.Chair d) : d.subscriber.Able 1024 := by
  rw [h.subscriber]
  exact Subscriber.able_of_calm rfl (Nat.le_refl _)

/-- Nothing is handed to the desk. -/
theorem Chair.congr (h : w.Chair d) (emitted : v.emitted = w.emitted)
    (listener : v.run.listener ≠ .closing → v.run.listener ≠ .gone →
      w.run.listener ≠ .closing ∧ w.run.listener ≠ .gone) : v.Chair d := by
  refine ⟨h.subscriber, fun not_closing here => ?_, ?_⟩
  · obtain ⟨not_closing, here⟩ := listener not_closing here
    exact h.isOpen not_closing here
  · rw [emitted]
    exact h.served

/-- The roster minds what it hears, as long as neither the ring nor its queue is too small. -/
def Minds (k : Nat) (w : TracedListener) : Prop :=
  w.Fits → w.missed = 0 ∧ ∃ d, w.run.audience[k]? = some d ∧ w.Chair d

/-- Nothing happens at the seat of the roster. -/
theorem Minds.congr (h : w.Minds k) (fits : v.Fits → w.Fits) (emitted : v.emitted = w.emitted)
    (missed : v.missed = w.missed) (seat : v.run.audience[k]? = w.run.audience[k]?)
    (listener : v.run.listener ≠ .closing → v.run.listener ≠ .gone →
      w.run.listener ≠ .closing ∧ w.run.listener ≠ .gone) : v.Minds k := by
  intro fit
  obtain ⟨kept, d, seated, chair⟩ := h (fits fit)
  exact ⟨missed.trans kept, d, seat.trans seated, chair.congr emitted listener⟩

/-- The roster takes the next event. -/
theorem Minds.hear (h : w.Minds k) (heard : w.Heard) {e : Stamped} {cut : Nat}
    (listening : w.run.listener = .listening)
    (found : w.run.bus.history[w.run.reader.next]? = some e) (listened : 0 < w.run.bus.listeners)
    (run : t.audience = (w.run.audience.emit e).1)
    (bus : t.bus = w.run.bus.publishAll w.run.seq es) :
    Minds k { w with run := t, emitted := w.emitted ++ [e], cut } := by
  intro fit
  have fits : w.Fits := Fits.of_publish fit listened bus
  obtain ⟨kept, d, seated, chair⟩ := h fits
  have isOpen : d.isOpen = true :=
    chair.isOpen (by rw [listening]; rintro ⟨⟩) (by rw [listening]; rintro ⟨⟩)
  have few : w.emitted.length < 1024 := by
    have all := heard.all
    have next := (Array.getElem?_eq_some_iff.mp found).1
    have queue := fits.queue
    omega
  obtain ⟨offered, served⟩ := chair.served.offer chair.able isOpen few e
  refine ⟨kept, { d with queue := d.queue ++ [e] }, ?_, chair.subscriber, fun _ _ => isOpen, served⟩
  show t.audience[k]? = _
  rw [run, Audience.emit, List.getElem?_map, seated, Option.map_some, offered]

/-- The listener moves. A ring that is large enough never leaves it behind. -/
theorem Minds.listen (h : w.Minds k) (heard : w.Heard) (listened : 0 < w.run.bus.listeners)
    (step : w.run.stepListener = some t) (cut : Nat) :
    Minds k { w.note w.run.finds? with run := t, cut } := by
  cases Run.ListenerStep.of_step step with
  | hear listening kept found =>
    rw [Run.finds?_of_kept listening kept found]
    exact h.hear heard listening found listened rfl rfl
  | lag listening behind =>
    intro fit
    have ring : w.run.bus.history.size ≤ w.run.bus.capacity := fit.ring
    unfold Bus.oldest at behind
    omega
  | look listening read =>
    rw [Run.finds?_of_read listening read]
    refine h.congr (fun fit => ⟨fit.ring, fit.queue⟩) rfl rfl rfl fun _ _ => ?_
    rw [listening]
    exact ⟨by rintro ⟨⟩, by rintro ⟨⟩⟩
  | leave checking =>
    rw [Run.finds?_of_ne (by rw [checking]; rintro ⟨⟩)]
    intro fit
    obtain ⟨kept, d, seated, chair⟩ := h ⟨fit.ring, fit.queue⟩
    refine ⟨kept, d.close, ?_, chair.subscriber, fun closing => absurd rfl closing,
      chair.served.close⟩
    show (w.run.audience.map Desk.close)[k]? = _
    rw [List.getElem?_map, seated]
    rfl
  | sleep here | wake here =>
    rw [Run.finds?_of_ne (by rw [here]; rintro ⟨⟩)]
    refine h.congr (fun fit => ⟨fit.ring, fit.queue⟩) rfl rfl rfl fun _ _ => ?_
    rw [here]
    exact ⟨by rintro ⟨⟩, by rintro ⟨⟩⟩
  | finish closing =>
    rw [Run.finds?_of_ne (by rw [closing]; rintro ⟨⟩)]
    exact h.congr (fun fit => ⟨fit.ring, fit.queue⟩) rfl rfl rfl fun _ here => absurd rfl here

/-- A worker moves. Only that of the roster touches its desk. -/
theorem Minds.work (h : w.Minds k) (listened : 0 < w.run.bus.listeners) {i : Nat}
    (step : w.run.stepWorker i = some t) (cut : Nat) : Minds k { w with run := t, cut } := by
  obtain ⟨d, u, seat, moved, rfl⟩ := Run.stepWorker_eq_some_iff.mp step
  have fits : ∀ {v : TracedListener}, v.run.bus = w.run.bus.publishAll w.run.seq u.events →
      v.Fits → w.Fits := fun bus fit => fit.of_publish listened bus
  by_cases own : i = k
  · subst own
    intro fit
    obtain ⟨kept, d', seated, chair⟩ := h (fits rfl fit)
    obtain rfl : d = d' := Option.some.inj (seat.symm.trans seated)
    obtain ⟨steady, served⟩ := chair.served.step chair.able moved
    refine ⟨kept, u.desk, List.getElem?_set_self (List.getElem?_eq_some_iff.mp seat).1,
      steady.subscriber.trans chair.subscriber, fun not_closing here => ?_, served⟩
    exact steady.isOpen.trans (chair.isOpen not_closing here)
  · exact h.congr (fits rfl) rfl rfl (List.getElem?_set_ne own) fun not_closing here =>
      ⟨not_closing, here⟩

theorem Minds.permit (h : w.Minds k) {i n : Nat} (given : w.permit i n = some v) : v.Minds k := by
  obtain ⟨d, seat, rfl⟩ := Option.map_eq_some_iff.mp given
  intro fit
  obtain ⟨kept, d', seated, chair⟩ := h ⟨fit.ring, fit.queue⟩
  by_cases own : i = k
  · subst own
    obtain rfl : d = d' := Option.some.inj (seat.symm.trans seated)
    exact ⟨kept, d.permit n, List.getElem?_set_self (List.getElem?_eq_some_iff.mp seat).1,
      chair.subscriber, chair.isOpen, chair.served.permit n⟩
  · exact ⟨kept, d', (List.getElem?_set_ne own).trans seated, chair.subscriber, chair.isOpen,
      chair.served⟩

end TracedListener

/-! ## Those who have left -/

namespace Run

variable {r t : Run} {d : Deed}

/-- The audience keeps its seats, and the listener goes when every worker has left. -/
structure Seated (k : Nat) (r : Run) : Prop where
  length : r.audience.length = k + 1
  left : r.listener = .gone → r.audience.allLeft = true

/-- Nobody moves at a desk whose worker has left. -/
theorem stepWorker_of_allLeft {i : Nat} (left : r.audience.allLeft = true) :
    r.stepWorker i = none := by
  refine Option.eq_none_iff_forall_ne_some.mpr fun t step => ?_
  obtain ⟨d, u, seat, moved, -⟩ := stepWorker_eq_some_iff.mp step
  have duty := List.all_eq_true.mp left d (List.mem_of_getElem? seat)
  exact of_decide_eq_true duty (Desk.working_of_step moved)

theorem Seated.act {k : Nat} (h : r.Seated k) (listened : 0 < r.bus.listeners)
    (act : r.act d = some t) : t.Seated k := by
  by_cases listener : d = .move (.task .listener)
  · subst listener
    have step : r.stepListener = some t := act
    have here : t.listener ≠ .gone → t.audience.length = k + 1 → t.Seated k :=
      fun stays length => ⟨length, fun gone => absurd gone stays⟩
    cases ListenerStep.of_step step with
    | hear listening =>
      refine here (fun gone => ?_) ((Audience.length_emit ..).trans h.length)
      rw [show r.listener = .gone from gone] at listening
      cases listening
    | lag listening =>
      refine here (fun gone => ?_) h.length
      rw [show r.listener = .gone from gone] at listening
      cases listening
    | leave => exact here (by rintro ⟨⟩) ((List.length_map _).trans h.length)
    | look | sleep | wake => exact here (by rintro ⟨⟩) h.length
    | finish closing =>
      refine ⟨h.length, fun _ => ?_⟩
      simp only [stepListener, closing] at step
      exact (Option.ite_none_right_eq_some.mp step).1
  · have beside := beside_of_act listened act listener
    by_cases worker : ∃ i, d = .move (.task (.worker i))
    · obtain ⟨i, rfl⟩ := worker
      have step : r.stepWorker i = some t := act
      have stays : r.listener ≠ .gone := fun gone => by
        rw [stepWorker_of_allLeft (h.left gone)] at step
        cases step
      refine ⟨?_, fun gone => absurd (beside.listener.symm.trans gone) stays⟩
      obtain ⟨k, u, -, -, rfl⟩ := stepWorker_eq_some_iff.mp step
      exact List.length_set.trans h.length
    · have same := audience_of_act act listener fun i hi => worker ⟨i, hi⟩
      refine ⟨?_, ?_⟩
      · rw [same]
        exact h.length
      · rw [same, beside.listener]
        exact h.left

end Run

/-! ## Schedules -/

namespace TracedListener

variable {k : Nat} {w v : TracedListener} {t : Run}

/-- All that a schedule keeps. -/
structure Kept (k : Nat) (w : TracedListener) : Prop where
  stopping : w.Stopping
  heard : w.Heard
  whole : w.Whole
  gone : ∀ o, w.run.main = .returned o → o ≠ .overflowed → w.run.listener = .gone
  seated : w.run.Seated k
  missing : w.run.Missing
  minds : w.Minds k

theorem Kept.start {c : Config} {acts : Effect → List Act} {subscribers : List Subscriber}
    {size : SlotSize} {r : Run} (start : Run.start c acts subscribers size = .ok r) :
    Kept subscribers.length { run := r } := by
  obtain ⟨told, heard, whole, coordinating⟩ := TracedListener.start start
  obtain ⟨joins, team⟩ := Run.Joins.start start
  obtain ⟨empty, -, audience⟩ := Run.fresh_of_start start
  have listening := Run.listener_of_start start
  have stop : r.stop ≠ true := fun stop => by
    have reported := told.told stop
    dsimp only at reported
    rw [coordinating] at reported
    cases reported
  refine ⟨⟨told, joins, fun stopped => absurd stopped stop, ?_⟩, heard, whole, ?_, ⟨?_, ?_⟩, ?_, ?_⟩
  · show ∀ s ∈ r.bus.history.toList.drop 0, ∀ name, ¬ s.event.SpeaksOf name
    rw [empty]
    rintro s ⟨⟩
  · intro o returned
    rw [show r.main = .returned o from returned] at coordinating
    cases coordinating
  · show r.audience.length = subscribers.length + 1
    rw [audience, List.length_map, Run.seats, List.length_append, List.length_singleton]
  · intro gone
    rw [show r.listener = .gone from gone] at listening
    cases listening
  · show Run.Missing r
    rw [Run.Missing, team]
    rintro n ⟨⟩
  · intro _
    refine ⟨rfl, { subscriber := { name := Roster.subscriberName } }, ?_, rfl, fun _ _ => rfl,
      .start _⟩
    show r.audience[subscribers.length]? = _
    rw [audience, List.getElem?_map, Run.seats, List.getElem?_append_right (Nat.le_refl _),
      Nat.sub_self]
    rfl

theorem Kept.act (h : w.Kept k) {d : Run.Deed} (act : w.actWhole d = some v) : v.Kept k := by
  have whole := whole_of_act h.stopping.told h.whole act
  obtain ⟨-, act⟩ := Option.ite_none_left_eq_some.mp act
  obtain ⟨told, heard⟩ := sound_of_act h.stopping.told h.heard act
  have stopping := h.stopping.act act told
  obtain ⟨t, step, rfl⟩ := Option.map_eq_some_iff.mp act
  have listened := h.stopping.told.listened
  refine ⟨stopping, heard, whole, ?_, h.seated.act listened step, h.missing.act step, ?_⟩
  · intro o
    exact Run.gone_of_returned listened step h.gone
  · by_cases listener : d = .move (.task .listener)
    · subst listener
      rw [if_pos rfl]
      exact h.minds.listen h.heard listened step _
    · rw [if_neg listener]
      have beside := Run.beside_of_act listened step listener
      by_cases worker : ∃ i, d = .move (.task (.worker i))
      · obtain ⟨i, rfl⟩ := worker
        exact h.minds.work listened step _
      · obtain ⟨es, bus, -⟩ := h.stopping.publishes step
        have same := Run.audience_of_act step listener fun i hi => worker ⟨i, hi⟩
        refine h.minds.congr (fun fit => fit.of_publish listened bus) rfl rfl ?_ ?_
        · exact congrArg (·[k]?) same
        · show t.listener ≠ .closing → t.listener ≠ .gone → _
          rw [beside.listener]
          exact fun not_closing here => ⟨not_closing, here⟩

theorem Kept.permit (h : w.Kept k) {i n : Nat} (given : w.permit i n = some v) : v.Kept k := by
  have minds := h.minds.permit given
  obtain ⟨d, seat, rfl⟩ := Option.map_eq_some_iff.mp given
  refine ⟨⟨{ h.stopping.told with }, h.stopping.joins.congr ⟨rfl, rfl, rfl⟩, h.stopping.all,
    h.stopping.late⟩, { h.heard with }, { h.whole with }, h.gone, ⟨?_, fun gone => ?_⟩, h.missing,
    minds⟩
  · exact List.length_set.trans h.seated.length
  · have left := List.all_eq_true.mp (h.seated.left gone)
    refine List.all_eq_true.mpr fun x hx => ?_
    rcases List.mem_or_eq_of_mem_set hx with old | rfl
    · exact left x old
    · exact left d (List.mem_of_getElem? seat)

theorem Kept.queue (h : w.Kept k) (queue deferred : List Task) :
    Kept k { w with run := { w.run with queue, deferred } } :=
  ⟨⟨{ h.stopping.told with }, h.stopping.joins.congr ⟨rfl, rfl, rfl⟩, h.stopping.all,
    h.stopping.late⟩, { h.heard with }, { h.whole with }, h.gone, { h.seated with }, h.missing,
    h.minds.congr (fun fit => ⟨fit.ring, fit.queue⟩) rfl rfl rfl fun not_closing here =>
      ⟨not_closing, here⟩⟩

theorem Kept.tell (h : w.Kept k) (telling : w.tell e x = some v) : v.Kept k := by
  have listened := h.stopping.told.listened
  have beside := goes_tell listened x
  have stopping := h.stopping.tell telling
  obtain ⟨may, ⟨⟩⟩ := Option.ite_none_left_eq_some.mp telling
  refine ⟨stopping (h.stopping.told.of_goes beside.toGoes rfl), h.heard.of_beside beside rfl rfl,
    h.whole.of_beside beside (fun checking => may (.inl checking)) rfl, h.gone,
    { h.seated with }, h.missing, ?_⟩
  have bus : (w.run.publish [x]).bus = w.run.bus.publishAll w.run.seq [x] := rfl
  exact h.minds.congr (fun fit => fit.of_publish listened bus) rfl rfl rfl
    fun not_closing here => ⟨not_closing, here⟩

theorem Kept.proceed (h : w.Kept k) {d : Doing} (step : w.proceed d = some v) : v.Kept k := by
  rcases d with (d | ⟨i, n⟩ | ⟨queue, deferred⟩) | ⟨e, x⟩
  · exact h.act step
  · exact h.permit step
  · cases step
    exact h.queue queue deferred
  · exact h.tell step

/-! ## The names -/

/-- When the listener is gone, the roster has heard all that counts for it. -/
theorem Kept.pending_eq (h : w.Kept k) (fits : w.Fits) (gone : w.run.listener = .gone) :
    w.run.pending = (Roster.ofEvents (w.emitted.map Stamped.event)).names ∧
      ∀ name, lastWord name (w.emitted.map Stamped.event) = lastWord name w.run.published := by
  obtain ⟨kept, d, seat, chair⟩ := h.minds fits
  have duty := List.all_eq_true.mp (h.seated.left gone) d (List.mem_of_getElem? seat)
  have handled := chair.served.handled_eq (of_decide_eq_true duty)
  constructor
  · have last : w.run.audience.getLast? = some d := by
      rw [List.getLast?_eq_getElem?, h.seated.length]
      exact seat
    rw [Run.pending, last]
    show d.roster.names = _
    rw [Desk.roster, handled]
  · intro name
    have read := (h.whole.left (.inr gone)).2
    have all : w.run.published = w.emitted.map Stamped.event
        ++ (w.run.bus.history.toList.drop w.run.reader.next).map Stamped.event := by
      rw [Run.published, h.heard.eq_take kept, ← List.map_append, List.take_append_drop]
    rw [all, lastWord_append_of_silent]
    intro x mem
    obtain ⟨s, unread, rfl⟩ := List.mem_map.mp mem
    exact h.stopping.late s (List.drop_subset_drop_left _ read unread) name

variable {c : Config} {acts : Effect → List Act} {subscribers : List Subscriber}
  {size : SlotSize} {wording : CrashWording} {r₀ : Run}
  {n : Nat} {names : List String}

/-- A run that has kept all that counts names those of whom the last word is that they start. -/
theorem Kept.naming {k : Nat} (kept : w.Kept k)
    (ring : w.run.published.length ≤ w.run.bus.capacity) (few : w.run.published.length ≤ 1024)
    (result : w.run.result? wording = some (.returned (.error (.completionLost n names)))) :
    w.run.team.coordinator.stage = .ended (.lost n) ∧ w.run.team.coordinator.remaining = n ∧
    names.Pairwise (nameBytes · < nameBytes ·) ∧
    ∀ name, name ∈ names ↔ lastWord name w.run.published = some .producerStarting := by
  obtain ⟨returned, rfl⟩ := (Run.Returns.of_result? result).main_of_lost
  have stands := kept.stopping.joins.outcome (.lost n) (by rw [returned]; rfl)
  have missing := kept.missing n (Coordinator.outcome?_of_ended stands)
  have gone := kept.gone _ returned (by rintro ⟨⟩)
  rw [Run.published, List.length_map] at ring few
  obtain ⟨pending, last⟩ := kept.pending_eq ⟨ring, few⟩ gone
  refine ⟨stands, missing, ?_, fun name => ?_⟩
  · rw [pending]
    exact (Roster.pairwise_ofEvents _).imp nameBytes_lt
  · rw [pending, Roster.mem_ofEvents, last]

/-- A run names those who are silent. Whatever the producers do and tell, whoever listens, and however
the tasks take turns, as long as none of them moves between the two looks of the listener and neither
the ring nor the queue of the roster is too small for all that is published: a run that returns lost
completions has as many of them as the coordinator missed, and its names are increasing in their
bytes and are those of whom the last word is that they start. Polls in any order are such turns
(`Leads.polls`). -/
theorem names_silent {doings : List Doing} (start : Run.start c acts subscribers size = .ok r₀)
    (h : follow proceed { run := r₀ } doings = some w)
    (ring : w.run.published.length ≤ w.run.bus.capacity) (few : w.run.published.length ≤ 1024)
    (result : w.run.result? wording = some (.returned (.error (.completionLost n names)))) :
    w.run.team.coordinator.stage = .ended (.lost n) ∧ w.run.team.coordinator.remaining = n ∧
    names.Pairwise (nameBytes · < nameBytes ·) ∧
    ∀ name, name ∈ names ↔ lastWord name w.run.published = some .producerStarting := by
  have kept : w.Kept subscribers.length :=
    follow_invariant (fun _ _ _ step kept => kept.proceed step) h (.start start)
  exact kept.naming ring few result

/-- One producer finishes without a completion and without a word of it, and speaks of another that
never was. A subscriber hears little of it. -/
theorem names_silent_of_ghost :
    let c : Config := { busCapacity := 9 }
    let acts : Effect → List Act
      | .increment => [.announce .producerStarting none, .dropCompletion]
      | .decrement => Act.plan 0
    let ghost (kind : EventKind) : Doing := .tell .increment { kind, producer := some "ghöst" }
    let up : Doing := .deed (.run (.move (.task (.producer .increment))))
    let down : Doing := .deed (.run (.move (.task (.producer .decrement))))
    let main : Doing := .deed (.run (.move (.main .completions)))
    let listen : Doing := .deed (.run (.move (.task .listener)))
    let work (i : Nat) : Doing := .deed (.run (.move (.task (.worker i))))
    let doings := [ghost .producerFinished, up, ghost .producerStarting] ++ List.replicate 3 up
      ++ List.replicate 7 down ++ List.replicate 8 main ++ List.replicate 12 listen
      ++ List.replicate 3 (work 0) ++ List.replicate 11 (work 1) ++ [listen, main]
    ∃ r₀ w, Run.start c acts [{ name := "hasty", queueCapacity := 2 }] = .ok r₀ ∧
      follow proceed { run := r₀ } doings = some w ∧
      w.run.result?
        = some (.returned (.error (.completionLost 1 ["ghöst", "incrementer"]))) ∧
      w.run.team.coordinator.remaining = 1 ∧ nameBytes "ghöst" < nameBytes "incrementer" ∧
      lastWord "decrementer" w.run.published ≠ some .producerStarting := by
  intro c acts ghost up down main listen work doings
  have seen : ((Run.start c acts [{ name := "hasty", queueCapacity := 2 }]).toOption.bind fun r =>
      (follow proceed { run := r } doings).map fun w =>
        (w.run.main, w.run.team.crash? .unnumbered w.run.joined, w.run.pending,
          w.run.published.length, w.run.bus.capacity))
      = some (.returned (.lost 1), none, ["ghöst", "incrementer"], 10, 16) := by decide +kernel
  obtain ⟨r₀, started, followed⟩ := Option.bind_eq_some_iff.mp seen
  obtain ⟨w, h, same⟩ := Option.map_eq_some_iff.mp followed
  simp only [Prod.mk.injEq] at same
  obtain ⟨returned, crash, pending, published, capacity⟩ := same
  have start := Run.start_of_toOption started
  have result : w.run.result?
      = some (.returned (.error (.completionLost 1 ["ghöst", "incrementer"]))) := by
    rw [Run.result?, returned, crash, pending]
    rfl
  obtain ⟨-, missing, increasing, silent⟩ :=
    names_silent start h (by omega) (by omega) result
  exact ⟨r₀, w, start, h, result, missing, (List.pairwise_cons.mp increasing).1 _ (by simp),
    (silent "decrementer").not.mp (by simp)⟩

/-- So it is when the tasks are polled one after the other, in any order. -/
theorem names_silent_when_polled {polls : List Run.Poll} {r : Run}
    (start : Run.start c acts subscribers size = .ok r₀) (h : follow Run.poll r₀ polls = some r)
    (ring : r.published.length ≤ r.bus.capacity) (few : r.published.length ≤ 1024)
    (result : r.result? wording = some (.returned (.error (.completionLost n names)))) :
    r.team.coordinator.remaining = n ∧ names.Pairwise (nameBytes · < nameBytes ·) ∧
    ∀ name, name ∈ names ↔ lastWord name r.published = some .producerStarting := by
  have listening := Run.listener_of_start start
  obtain ⟨deeds, w, schedule, rfl⟩ := Leads.polls (by rw [listening]; rintro ⟨⟩) h
  have kept : w.Kept subscribers.length :=
    follow_invariant (fun _ d _ step kept => kept.proceed (d := .deed d) step) schedule
      (.start start)
  exact (kept.naming ring few result).2

end TracedListener

end SharedCounter
