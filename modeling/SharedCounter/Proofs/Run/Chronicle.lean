import SharedCounter.Proofs.Bus
import SharedCounter.Proofs.Run.Accounts
import SharedCounter.Proofs.Run.Listener
import SharedCounter.Proofs.Run.Orderly
import SharedCounter.Proofs.Team.Chronicle

/-!
# The chronicle of an orderly run

* `Run.published` : the events that have entered the bus, in order;
* `Run.seats` : who has a seat in the audience;
* `Run.Tells r t es` : the count goes from `r` to `t` and publishes `es`. Every step of a producer and
  of the main task is of this kind, and so is a send that takes its place;
* `Run.Recorded n initial r` : what was published in the run `r` is the chronicle of its team. Every
  step keeps it, and nothing is published after the report of the counter
  (`Recorded.stepProducer`, `Recorded.stepMain`);
* `Recorded.lifecycle` : what was published when a count is returned.
-/

namespace SharedCounter

/-- Who has reported the counter has the outcome of the coordinator. -/
theorem MainStage.outcome?_of_reported? {m : MainStage} {o : Outcome}
    (h : m.reported? = some o) : m.outcome? = some o := by
  cases m with
  | coordinating | joining => cases h
  | _ => exact h

namespace Run

variable {n : Nat} {initial : Int} {r t : Run} {e : Effect} {b : Branch} {es : List Event}

/-- The events that have entered the bus, in order. -/
def published (r : Run) : List Event := r.bus.history.toList.map Stamped.event

/-- The report of the counter, once it is published. -/
def report (r : Run) : List Event := r.main.reported?.elim [] counterReport

theorem length_counterReport_le (o : Outcome) : (counterReport o).length ≤ 1 := by
  cases o <;> simp [counterReport]

theorem quiet_counterReport {o : Outcome} {x : Event} (h : x ∈ counterReport o) :
    x.producer = none ∧ x.remaining = none := by
  cases o with
  | counted l =>
    rw [List.mem_singleton.mp h]
    exact ⟨rfl, rfl⟩
  | _ => cases h

theorem length_report_le (r : Run) : r.report.length ≤ 1 := by
  unfold report
  cases r.main.reported? with
  | none => exact Nat.zero_le 1
  | some o => exact length_counterReport_le o

theorem report_of_none (h : r.main.reported? = none) : r.report = [] := by
  rw [report, h]
  rfl

/-! ## What the count publishes -/

/-- The count goes on and publishes `es`, and those who listen do not move. -/
structure Tells (r t : Run) (es : List Event) : Prop where
  bus : t.bus = r.bus.publishAll r.seq es
  audience : t.audience = r.audience

theorem Tells.published (h : Tells r t es) (listened : 0 < r.bus.listeners) :
    t.published = r.published ++ es := by
  unfold Run.published
  rw [h.bus, Bus.publishAll, (Bus.foldl_publish listened _).1, List.map_append,
    map_event_stampFrom]

theorem Tells.listened (h : Tells r t es) (listened : 0 < r.bus.listeners) :
    0 < t.bus.listeners := by
  rw [h.bus, Bus.listeners_publishAll]
  exact listened

theorem Tells.capacity (h : Tells r t es) : t.bus.capacity = r.bus.capacity := by
  rw [h.bus, Bus.capacity_publishAll]

/-- A producer publishes what it tells. -/
theorem tells_of_stepProducer (h : r.stepProducer e = some t) :
    ∃ u, (r.team.producerState e).step = some u ∧ t.team = r.team.putProducer e u ∧
      t.main = r.main ∧ Tells r t u.events := by
  obtain ⟨⟨team, es⟩, hs, rfl⟩ := Option.map_eq_some_iff.mp h
  obtain ⟨u, hu, ⟨⟩⟩ := Option.map_eq_some_iff.mp hs
  refine ⟨u, hu, ?_⟩
  dsimp only
  split <;> exact ⟨rfl, rfl, rfl, rfl⟩

/-- Only the listener and the workers move at the desks. -/
theorem audience_of_act {d : Deed} (act : r.act d = some t) (listener : d ≠ .move (.task .listener))
    (worker : ∀ i, d ≠ .move (.task (.worker i))) : t.audience = r.audience := by
  rcases d with ((i | _ | e) | b) | e
  · exact absurd rfl (worker i)
  · exact absurd rfl listener
  · obtain ⟨u, -, -, -, tells⟩ := tells_of_stepProducer act
    exact tells.audience
  · cases MainStep.of_step act <;> rfl
  · obtain ⟨-, ⟨⟩⟩ := Option.ite_none_right_eq_some.mp act
    rfl

/-! ## Recorded runs -/

/-- What was published is the chronicle of an orderly team. -/
structure Recorded (n : Nat) (initial : Int) (r : Run) : Prop where
  orderly : r.Orderly n initial
  joins : r.Joins
  listened : 0 < r.bus.listeners
  chronicle : r.team.Chronicle n r.published r.report

/-- The seats of the audience. The last one is that of the roster. -/
def seats (subscribers : List Subscriber) : List Subscriber :=
  subscribers ++ [{ name := Roster.subscriberName }]

theorem getElem?_seats {subscribers : List Subscriber} {i : Nat} {s : Subscriber}
    (seat : subscribers[i]? = some s) : (seats subscribers)[i]? = some s := by
  rw [seats, List.getElem?_append_left (List.getElem?_eq_some_iff.mp seat).1]
  exact seat

/-- A run is set up with an empty ring, which is as large as was asked for. -/
theorem fresh_of_start {c : Config} {acts : Effect → List Act} {subscribers : List Subscriber}
    {size : SlotSize} (start : Run.start c acts subscribers size = .ok r) :
    r.bus.history = #[] ∧ c.busSlots ≤ r.bus.capacity ∧
      r.audience = (seats subscribers).map fun s => { subscriber := s } := by
  unfold Run.start at start
  split at start
  · cases start
  next bus created =>
    obtain ⟨room, empty⟩ := Bus.le_capacity created
    split at start
    · cases start
    next audience seated =>
      cases start
      obtain ⟨-, ⟨⟩⟩ := Option.ite_none_right_eq_some.mp seated
      exact ⟨empty, room, rfl⟩

theorem Recorded.start {c : Config} {subscribers : List Subscriber} {size : SlotSize}
    (start : Run.start c (Team.orderlyActs c) subscribers size = .ok r) :
    Recorded c.iterations c.initial r := by
  obtain ⟨told, -, -, coordinating⟩ := TracedListener.start start
  obtain ⟨joins, team⟩ := Joins.start start
  obtain ⟨empty, -⟩ := fresh_of_start start
  refine ⟨.start start, joins, told.listened, ?_⟩
  rw [team, published, empty, report_of_none (by rw [coordinating]; rfl)]
  exact .start c

/-- Tasks beside the count that publish nothing. -/
theorem Recorded.congr (h : Recorded n initial r) (same : SameCount r t) (bus : t.bus = r.bus) :
    Recorded n initial t := by
  refine ⟨h.orderly.congr same.team same.main, h.joins.congr same, ?_, ?_⟩
  · rw [bus]
    exact h.listened
  · rw [same.team, published, bus, report, same.main]
    exact h.chronicle

theorem Recorded.size_le (h : Recorded n initial r) : r.bus.history.size ≤ 9 := by
  have few := h.chronicle.length_le r.length_report_le
  rw [published, List.length_map] at few
  exact few

/-- Once the counter is reported, the coordinator has counted and both producers have joined. -/
theorem Recorded.joined (h : Recorded n initial r) {o : Outcome}
    (reported : r.main.reported? = some o) :
    (∃ l, o = .counted l ∧ r.team.coordinator.outcome? = some (.counted l) ∧
      Team.Full n initial l) ∧ ∀ e, e ∈ r.joined := by
  have outcome := MainStage.outcome?_of_reported? reported
  have stands := Coordinator.outcome?_of_ended (h.joins.outcome o outcome)
  obtain ⟨sent, completed, orderly⟩ := h.orderly.team
  obtain ⟨l, rfl, full⟩ := orderly.outcome stands
  refine ⟨⟨l, rfl, stands, full⟩, h.joins.mem ?_⟩
  have heard := h.joins.heard
  cases hm : r.main with
  | coordinating | joining =>
    rw [hm] at reported
    cases reported
  | stopping | awaiting =>
    rw [hm] at heard
    exact heard
  | returned o =>
    rw [hm] at reported heard
    cases reported
    exact heard

/-- A producer publishes before the counter is reported. -/
theorem Recorded.stepProducer (h : Recorded n initial r) (step : r.stepProducer e = some t) :
    r.main.reported? = none ∧ Recorded n initial t ∧ ∃ es, Tells r t es := by
  obtain ⟨u, hu, team, main, tells⟩ := tells_of_stepProducer step
  have unreported : r.main.reported? = none := by
    refine Option.eq_none_iff_forall_ne_some.mpr fun o reported => ?_
    exact h.joins.not_mem hu ((h.joined reported).2 e)
  have chronicle := h.chronicle
  rw [report_of_none unreported] at chronicle
  obtain ⟨sent, completed, orderly⟩ := h.orderly.team
  refine ⟨unreported, ⟨h.orderly.stepProducer step, h.joins.stepProducer step,
    tells.listened h.listened, ?_⟩, u.events, tells⟩
  rw [tells.published h.listened, team, report_of_none (by rw [main, unreported])]
  exact chronicle.producer (orderly.producers e) (.of_step hu)

/-- A send that takes its place publishes nothing. -/
theorem Recorded.takePlace (h : Recorded n initial r) (sends : (r.team.producer e).sends = true) :
    Recorded n initial { r with
      team := r.team.putProducer e (r.team.producerState e).takePlace } :=
  ⟨h.orderly.takePlace, h.joins.takePlace sends, h.listened, h.chronicle.takePlace e⟩

/-- The main task publishes what the coordinator tells, and then the report. -/
theorem Recorded.stepMain (h : Recorded n initial r) (up : initial + n ≤ counterMax)
    (down : counterMin ≤ initial - n) (step : r.stepMain b = some t) :
    Recorded n initial t ∧ ∃ es, Tells r t es ∧ (r.main.reported?.isSome → es = []) := by
  have orderly := h.orderly.stepMain up down step
  have joins := h.joins.stepMain step
  have chronicle := h.chronicle
  have goes_on : r.bus = t.bus → r.audience = t.audience → r.team = t.team →
      t.main.reported? = r.main.reported? →
      Recorded n initial t ∧ ∃ es, Tells r t es ∧ (r.main.reported?.isSome → es = []) := by
    intro bus audience team reported
    rw [published, bus, report, ← reported, team] at chronicle
    refine ⟨⟨orderly, joins, ?_, chronicle⟩, [], ⟨bus.symm, audience.symm⟩, fun _ => rfl⟩
    rw [← bus]
    exact h.listened
  cases MainStep.of_step step with
  | @serve s es coordinating served =>
    have unreported : r.main.reported? = none := by rw [coordinating]; rfl
    have tells : Tells r ({ r with team := s }.publish es) es := ⟨rfl, rfl⟩
    obtain ⟨u, hu, ⟨⟩⟩ := Option.map_eq_some_iff.mp served
    obtain ⟨sent, completed, team⟩ := h.orderly.team
    rw [report_of_none unreported] at chronicle
    refine ⟨⟨orderly, joins, tells.listened h.listened, ?_⟩, u.events, tells, fun reported => ?_⟩
    · have still : (publish { r with team := r.team.putCoordinator u } u.events).report = [] :=
        report_of_none unreported
      rw [tells.published h.listened, still]
      exact chronicle.coordinator team up down (.of_step hu)
    · rw [unreported] at reported
      cases reported
  | overflow coordinating stands =>
    obtain ⟨sent, completed, team⟩ := h.orderly.team
    exact absurd (Coordinator.outcome?_of_ended stands) team.fine
  | join early | hear early | stop early | finish early =>
    exact goes_on rfl rfl rfl (congrArg MainStage.reported? early).symm
  | @report o joining =>
    have unreported : r.main.reported? = none := by rw [joining]; rfl
    have tells : Tells r { r.publish (counterReport o) with main := .stopping o }
      (counterReport o) := ⟨rfl, rfl⟩
    rw [report_of_none unreported] at chronicle
    refine ⟨⟨orderly, joins, tells.listened h.listened, ?_⟩, _, tells, fun reported => ?_⟩
    · rw [tells.published h.listened]
      exact chronicle.conclude fun x => quiet_counterReport
    · rw [unreported] at reported
      cases reported

/-- What was published when the counter was reported. -/
theorem Recorded.lifecycle (h : Recorded n initial r) (up : initial + n ≤ counterMax)
    (down : counterMin ≤ initial - n) {l : Ledger}
    (reported : r.main.reported? = some (.counted l)) : Lifecycle n l r.published := by
  obtain ⟨⟨_, ⟨⟩, counted, full⟩, joined⟩ := h.joined reported
  obtain ⟨sent, completed, orderly⟩ := h.orderly.team
  have applied : l.applied? = some (2 * n) := full.applied?_eq up down
  have report : r.report = [.reported l.value (2 * n)] := by
    rw [Run.report, reported]
    exact congrArg (fun count => [{ Event.reported l.value 0 with count }]) applied
  have chronicle := h.chronicle
  rw [report] at chronicle
  exact chronicle.lifecycle
    (fun e => (orderly.producers e).announcements_of_ended (h.joins.ended e (joined e))) counted
    full

end Run

end SharedCounter
