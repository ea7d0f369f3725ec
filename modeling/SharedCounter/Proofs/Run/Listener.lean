import SharedCounter.Proofs.Bus
import SharedCounter.Proofs.Run.Change
import SharedCounter.Proofs.Schedule

/-!
# What the listener has heard when it leaves

* `Run.Goes`, `Run.Beside` : what a move does to the bus and to the report of the counter, and what
  the moves of all tasks but the listener leave alone;
* `Run.finds?` : what the listener finds on the bus in its next step;
* `TracedListener`, `TracedListener.act` : a run together with the events that its listener has
  handed to the audience, the number of those that it has missed, and how many had been published
  when it was told to stop;
* `TracedListener.Heard` : what was handed on is what was published, in order, but for what was
  missed. `TracedListener.Told` : the report of a count was published before the stop;
* `TracedListener.actWhole` : no other task moves between the look of the listener at the bus and
  its look at the stop sign. Then it leaves nothing behind (`TracedListener.hears_all`);
* `TracedListener.report_left_behind` : under other schedules it can leave the report of the counter
  behind.
-/

namespace SharedCounter

variable {r t : Run}

/-! ## Publishing -/

theorem Run.bus_publish (listened : 0 < r.bus.listeners) (es : List Event) :
    (r.publish es).bus.listeners = r.bus.listeners ∧
      r.bus.history.toList <+: (r.publish es).bus.history.toList := by
  obtain ⟨history, listeners⟩ := Bus.foldl_publish listened (stampFrom r.seq es)
  exact ⟨listeners, ⟨_, history.symm⟩⟩

/-- The outcome whose report is published, if there is one. -/
def MainStage.reported? : MainStage → Option Outcome
  | .coordinating | .joining .. => none
  | .stopping o | .awaiting o | .returned o => some o

/-- The report of a count. -/
def Stamped.Reports (e : Stamped) (l : Ledger) : Prop :=
  e.event.kind = .counterReported ∧ e.event.value = some l.value

instance (e : Stamped) (l : Ledger) : Decidable (e.Reports l) :=
  inferInstanceAs (Decidable (_ ∧ _))

namespace Run

/-- The report of a count is published before the listener is told to stop. -/
inductive Reporting (r t : Run) : Prop where
  | same (main : t.main.reported? = r.main.reported?)
      (stop : t.stop = r.stop ∨ t.stop = true ∧ r.main.reported?.isSome)
  | published (before : r.main.reported? = none) (stop : t.stop = r.stop)
      (report : ∀ l, t.main.reported? = some (.counted l) →
        ∃ e ∈ t.bus.history.toList, e.Reports l)

/-- What is published stays. -/
structure Goes (r t : Run) : Prop where
  listeners : t.bus.listeners = r.bus.listeners
  history : r.bus.history.toList <+: t.bus.history.toList
  reporting : Reporting r t

/-- The listener has not moved. -/
structure Beside (r t : Run) : Prop extends Goes r t where
  reader : t.reader = r.reader
  listener : t.listener = r.listener

theorem Reporting.stop_mono (h : Reporting r t) (stop : r.stop = true) : t.stop = true := by
  cases h with
  | same main still =>
    rcases still with same | ⟨told, -⟩
    · exact same.trans stop
    · exact told
  | published before same => exact same.trans stop

theorem Goes.of_bus (bus : t.bus = r.bus) (reporting : Reporting r t) : Goes r t := by
  refine ⟨by rw [bus], ?_, reporting⟩
  rw [bus]

theorem beside_of_stepWorker {i : Nat} (listened : 0 < r.bus.listeners)
    (h : r.stepWorker i = some t) : Beside r t := by
  obtain ⟨d, u, -, -, rfl⟩ := stepWorker_eq_some_iff.mp h
  obtain ⟨listeners, history⟩ :=
    bus_publish (r := { r with audience := r.audience.set i u.desk }) listened u.events
  exact ⟨⟨listeners, history, .same rfl (.inl rfl)⟩, rfl, rfl⟩

theorem beside_of_stepProducer {e : Effect} (listened : 0 < r.bus.listeners)
    (h : r.stepProducer e = some t) : Beside r t := by
  obtain ⟨⟨team, es⟩, -, rfl⟩ := Option.map_eq_some_iff.mp h
  obtain ⟨listeners, history⟩ := bus_publish (r := { r with team }) listened es
  dsimp only
  split <;> exact ⟨⟨listeners, history, .same rfl (.inl rfl)⟩, rfl, rfl⟩

/-- The report is published by the step with which the main task comes to stop the listener. -/
theorem beside_of_stepMain {b : Branch} (listened : 0 < r.bus.listeners)
    (h : r.stepMain b = some t) : Beside r t := by
  cases MainStep.of_step h with
  | @serve team es =>
    obtain ⟨listeners, history⟩ := bus_publish (r := { r with team }) listened es
    exact ⟨⟨listeners, history, .same rfl (.inl rfl)⟩, rfl, rfl⟩
  | overflow coordinating =>
    have before := congrArg MainStage.reported? coordinating
    exact ⟨.of_bus rfl (.published before rfl (by rintro _ ⟨⟩)), rfl, rfl⟩
  | join early | hear early =>
    have before := congrArg MainStage.reported? early
    exact ⟨.of_bus rfl (.same before.symm (.inl rfl)), rfl, rfl⟩
  | @report o joining =>
    have before := congrArg MainStage.reported? joining
    obtain ⟨listeners, history⟩ := bus_publish listened (counterReport o)
    refine ⟨⟨listeners, history, .published before rfl fun l counted => ?_⟩, rfl, rfl⟩
    cases counted
    obtain ⟨all, -⟩ := Bus.foldl_publish listened (stampFrom r.seq (counterReport (.counted l)))
    show ∃ e ∈ (r.bus.publishAll r.seq (counterReport (.counted l))).history.toList, e.Reports l
    rw [Bus.publishAll, all]
    exact ⟨_, List.mem_append_right _ List.mem_cons_self, rfl, rfl⟩
  | stop stopping =>
    have before := congrArg MainStage.reported? stopping
    exact ⟨.of_bus rfl (.same before.symm (.inr ⟨rfl, by rw [before]; rfl⟩)), rfl, rfl⟩
  | finish awaiting =>
    have before := congrArg MainStage.reported? awaiting
    exact ⟨.of_bus rfl (.same before.symm (.inl rfl)), rfl, rfl⟩

theorem beside_of_act {d : Deed} (listened : 0 < r.bus.listeners) (h : r.act d = some t)
    (other : d ≠ .move (.task .listener)) : Beside r t := by
  rcases d with ((_ | _ | e) | b) | e
  · exact beside_of_stepWorker listened h
  · exact absurd rfl other
  · exact beside_of_stepProducer listened h
  · exact beside_of_stepMain listened h
  · obtain ⟨-, ⟨⟩⟩ := Option.ite_none_right_eq_some.mp h
    exact ⟨.of_bus rfl (.same rfl (.inl rfl)), rfl, rfl⟩

theorem ListenerStep.goes (h : ListenerStep r t) (listened : 0 < r.bus.listeners) : Goes r t := by
  cases h with
  | @hear e =>
    obtain ⟨listeners, history⟩ := bus_publish
      (r := { r with reader := ⟨r.reader.next + 1⟩, audience := (r.audience.emit e).1 })
      listened (r.audience.emit e).2
    exact ⟨listeners, history, .same rfl (.inl rfl)⟩
  | _ => exact .of_bus rfl (.same rfl (.inl rfl))

theorem goes_of_act {d : Deed} (listened : 0 < r.bus.listeners) (h : r.act d = some t) :
    Goes r t := by
  by_cases own : d = .move (.task .listener)
  · subst own
    exact (ListenerStep.of_step h).goes listened
  · exact (beside_of_act listened h own).toGoes

/-- What the listener finds on the bus in its next step. -/
def finds? (r : Run) : Option Reading :=
  if r.listener = .listening then some (({ r.bus with handles := r.holders }).read r.reader).1
  else none

theorem finds?_of_kept {e : Stamped} (listening : r.listener = .listening)
    (kept : r.bus.oldest ≤ r.reader.next) (found : r.bus.history[r.reader.next]? = some e) :
    r.finds? = some (.event e) := by
  have ahead : ¬ r.reader.next < ({ r.bus with handles := r.holders } : Bus).oldest :=
    Nat.not_lt.mpr kept
  simp only [finds?, if_pos listening, Bus.read, if_neg ahead, found]

theorem finds?_of_behind (listening : r.listener = .listening)
    (behind : r.reader.next < r.bus.oldest) :
    r.finds? = some (.lagged (r.bus.oldest - r.reader.next)) := by
  rw [finds?, if_pos listening, Bus.read]
  exact congrArg (fun f : Reading × Reader => some f.1) (if_pos behind)

theorem finds?_of_read (listening : r.listener = .listening)
    (read : r.bus.history.size ≤ r.reader.next) : r.finds? = some .empty := by
  have ahead : ¬ r.reader.next < ({ r.bus with handles := r.holders } : Bus).oldest :=
    Nat.not_lt.mpr (Nat.le_trans r.bus.oldest_le read)
  have held : r.holders ≠ 0 := holders_pos (by rw [listening]; rintro ⟨⟩)
  simp only [finds?, if_pos listening, Bus.read, if_neg ahead, Array.getElem?_eq_none read,
    if_neg held]

theorem finds?_of_ne (elsewhere : r.listener ≠ .listening) : r.finds? = none := if_neg elsewhere

end Run

/-! ## Runs and what the listener did in them -/

/-- A run, and what its listener has done in it. -/
structure TracedListener where
  run : Run
  /-- The events that were handed to the audience, in order. -/
  emitted : List Stamped := []
  /-- How many events were overwritten before they were read. -/
  missed : Nat := 0
  /-- How many events had been published when the listener was told to stop. -/
  cut : Nat := 0

namespace TracedListener

/-- The listener has found something on the bus, or nothing. -/
def note (w : TracedListener) : Option Reading → TracedListener
  | some (.event e) => { w with emitted := w.emitted ++ [e] }
  | some (.lagged n) => { w with missed := w.missed + n }
  | _ => w

/-- One deed, undefined where its task waits or has ended. Until the listener is told to stop, the
cut goes on with the bus. -/
def act (w : TracedListener) (d : Run.Deed) : Option TracedListener :=
  (w.run.act d).map fun run =>
    { (if d = .move (.task .listener) then w.note w.run.finds? else w) with
      run
      cut := if w.run.stop then w.cut else run.bus.history.size }

/-- One deed that does not come between the two looks of the listener. -/
def actWhole (w : TracedListener) (d : Run.Deed) : Option TracedListener :=
  if w.run.listener = .checkingStop ∧ d ≠ .move (.task .listener) then none else w.act d

/-- What was handed on is what was published, in order, but for what was missed. -/
structure Heard (w : TracedListener) : Prop where
  heard : w.emitted.Sublist (w.run.bus.history.toList.take w.run.reader.next)
  all : w.emitted.length + w.missed = w.run.reader.next

/-- The report of a count was published before the listener was told to stop. -/
structure Told (w : TracedListener) : Prop where
  listened : 0 < w.run.bus.listeners
  cut_le : w.cut ≤ w.run.bus.history.size
  told : w.run.stop = true → w.run.main.reported?.isSome
  reported : ∀ l, w.run.main.reported? = some (.counted l) →
    ∃ e ∈ w.run.bus.history.toList.take w.cut, e.Reports l

/-- The listener has read everything at its look, and everything before the cut when it leaves. -/
structure Whole (w : TracedListener) : Prop where
  looked : w.run.listener = .checkingStop → w.run.bus.history.size ≤ w.run.reader.next
  left : w.run.listener = .closing ∨ w.run.listener = .gone →
    w.run.stop = true ∧ w.cut ≤ w.run.reader.next

variable {w v : TracedListener}

/-! ## What is handed on -/

theorem Heard.of_beside (h : w.Heard) (beside : Run.Beside w.run v.run)
    (emitted : v.emitted = w.emitted) (missed : v.missed = w.missed) : v.Heard := by
  constructor
  · rw [emitted, beside.reader]
    exact h.heard.trans (List.IsPrefix.take beside.history _).sublist
  · rw [emitted, missed, beside.reader]
    exact h.all

/-- The listener hands on what it reads, and counts what it cannot read any more. -/
theorem Heard.listen (h : w.Heard) (step : Run.ListenerStep w.run t)
    (history : w.run.bus.history.toList <+: t.bus.history.toList) (cut : Nat) :
    Heard { w.note w.run.finds? with run := t, cut } := by
  have still : w.run.finds? = none → t.reader = w.run.reader →
      Heard { w.note w.run.finds? with run := t, cut } := by
    intro nothing reader
    rw [nothing]
    refine ⟨?_, ?_⟩
    · show w.emitted.Sublist (t.bus.history.toList.take t.reader.next)
      rw [reader]
      exact h.heard.trans (List.IsPrefix.take history _).sublist
    · show w.emitted.length + w.missed = t.reader.next
      rw [reader]
      exact h.all
  cases step with
  | @hear e listening kept found =>
    rw [Run.finds?_of_kept listening kept found]
    refine ⟨?_, ?_⟩
    · show (w.emitted ++ [e]).Sublist (List.take (w.run.reader.next + 1) _)
      refine List.Sublist.trans ?_ (List.IsPrefix.take history _).sublist
      rw [List.take_add_one, Array.getElem?_toList, found]
      exact h.heard.append_right _
    · show (w.emitted ++ [e]).length + w.missed = w.run.reader.next + 1
      have := h.all
      rw [List.length_append, List.length_singleton]
      omega
  | lag listening behind =>
    rw [Run.finds?_of_behind listening behind]
    refine ⟨?_, ?_⟩
    · show w.emitted.Sublist (w.run.bus.history.toList.take w.run.bus.oldest)
      exact h.heard.trans (List.take_prefix_take_left (Nat.le_of_lt behind)).sublist
    · show w.emitted.length + (w.missed + (w.run.bus.oldest - w.run.reader.next))
        = w.run.bus.oldest
      have := h.all
      omega
  | look listening read =>
    rw [Run.finds?_of_read listening read]
    exact ⟨h.heard, h.all⟩
  | leave checking | sleep checking =>
    exact still (Run.finds?_of_ne (by rw [checking]; rintro ⟨⟩)) rfl
  | wake asleep => exact still (Run.finds?_of_ne (by rw [asleep]; rintro ⟨⟩)) rfl
  | finish closing => exact still (Run.finds?_of_ne (by rw [closing]; rintro ⟨⟩)) rfl

/-- Nothing is left out if nothing was missed. -/
theorem Heard.eq_take (h : w.Heard) (kept : w.missed = 0) :
    w.emitted = w.run.bus.history.toList.take w.run.reader.next := by
  refine h.heard.eq_of_length_le ?_
  have all := h.all
  rw [kept, Nat.add_zero] at all
  rw [all]
  exact List.length_take_le _ _

/-! ## The report -/

theorem Told.of_goes (h : w.Told) (goes : Run.Goes w.run v.run)
    (cut : v.cut = if w.run.stop then w.cut else v.run.bus.history.size) : v.Told := by
  have longer : w.run.bus.history.size ≤ v.run.bus.history.size := goes.history.length_le
  have cut_le : v.cut ≤ v.run.bus.history.size := by
    rw [cut]
    split
    · exact Nat.le_trans h.cut_le longer
    · exact Nat.le_refl _
  refine ⟨by rw [goes.listeners]; exact h.listened, cut_le, fun stop => ?_, fun l counted => ?_⟩
  · rcases goes.reporting with ⟨main, same | ⟨-, reported⟩⟩ | ⟨before, same, -⟩
    · rw [main]
      exact h.told (same.symm.trans stop)
    · rw [main]
      exact reported
    · have told := h.told (same.symm.trans stop)
      rw [before] at told
      cases told
  · cases stop : w.run.stop with
    | true =>
      rcases goes.reporting with ⟨main, -⟩ | ⟨before, -, -⟩
      · obtain ⟨e, mem, reports⟩ := h.reported l (main.symm.trans counted)
        refine ⟨e, ?_, reports⟩
        rw [cut, if_pos stop]
        exact (List.IsPrefix.take goes.history _).subset mem
      · have told := h.told stop
        rw [before] at told
        cases told
    | false =>
      have everything : v.run.bus.history.toList.take v.cut = v.run.bus.history.toList := by
        rw [cut, stop]
        exact List.take_of_length_le (Nat.le_refl _)
      rw [everything]
      rcases goes.reporting with ⟨main, -⟩ | ⟨-, -, report⟩
      · obtain ⟨e, mem, reports⟩ := h.reported l (main.symm.trans counted)
        exact ⟨e, goes.history.subset (List.mem_of_mem_take mem), reports⟩
      · exact report l counted

/-! ## Leaving -/

/-- Other tasks move while the listener does not stand between its two looks. -/
theorem Whole.of_beside (h : w.Whole) (beside : Run.Beside w.run v.run)
    (between : w.run.listener ≠ .checkingStop)
    (cut : v.cut = if w.run.stop then w.cut else v.run.bus.history.size) : v.Whole := by
  refine ⟨fun checking => ?_, fun left => ?_⟩
  · rw [beside.listener] at checking
    exact absurd checking between
  · rw [beside.listener] at left
    obtain ⟨stop, le⟩ := h.left left
    rw [cut, if_pos stop, beside.reader]
    exact ⟨beside.reporting.stop_mono stop, le⟩

theorem Whole.listen (h : w.Whole) (told : w.Told) (step : Run.ListenerStep w.run v.run)
    (cut : v.cut = if w.run.stop then w.cut else v.run.bus.history.size) : v.Whole := by
  have elsewhere : v.run.listener = .listening ∨ v.run.listener = .asleep → v.Whole := by
    rintro (stage | stage) <;> refine ⟨?_, ?_⟩ <;> rw [stage] <;> simp
  obtain ⟨t, emitted, missed, c⟩ := v
  dsimp only at step cut elsewhere
  cases step with
  | hear listening | lag listening => exact elsewhere (.inl listening)
  | wake => exact elsewhere (.inl rfl)
  | sleep => exact elsewhere (.inr rfl)
  | look listening read => exact ⟨fun _ => read, by simp⟩
  | leave checking stop =>
    rw [if_pos stop] at cut
    subst cut
    exact ⟨by rintro ⟨⟩, fun _ => ⟨stop, Nat.le_trans told.cut_le (h.looked checking)⟩⟩
  | finish closing =>
    obtain ⟨stop, le⟩ := h.left (.inl closing)
    rw [if_pos stop] at cut
    subst cut
    exact ⟨by rintro ⟨⟩, fun _ => ⟨stop, le⟩⟩

/-! ## Schedules -/

theorem sound_of_act {d : Run.Deed} (told : w.Told) (heard : w.Heard) (act : w.act d = some v) :
    v.Told ∧ v.Heard := by
  obtain ⟨t, step, rfl⟩ := Option.map_eq_some_iff.mp act
  by_cases own : d = .move (.task .listener)
  · subst own
    have listens := Run.ListenerStep.of_step step
    have goes := listens.goes told.listened
    rw [if_pos rfl]
    exact ⟨told.of_goes goes rfl, heard.listen listens goes.history _⟩
  · have beside := Run.beside_of_act told.listened step own
    rw [if_neg own]
    exact ⟨told.of_goes beside.toGoes rfl, heard.of_beside beside rfl rfl⟩

theorem whole_of_act {d : Run.Deed} (told : w.Told) (whole : w.Whole)
    (act : w.actWhole d = some v) : v.Whole := by
  obtain ⟨together, act⟩ := Option.ite_none_left_eq_some.mp act
  obtain ⟨t, step, rfl⟩ := Option.map_eq_some_iff.mp act
  by_cases own : d = .move (.task .listener)
  · subst own
    rw [if_pos rfl]
    exact whole.listen told (.of_step step) rfl
  · rw [if_neg own]
    exact whole.of_beside (Run.beside_of_act told.listened step own)
      (fun checking => together ⟨checking, own⟩) rfl

/-- What a listener may rely on that is set up with its run. -/
theorem start {c : Config} {acts : Effect → List Act} {subscribers : List Subscriber}
    {size : SlotSize} (start : Run.start c acts subscribers size = .ok r) :
    Told { run := r } ∧ Heard { run := r } ∧ Whole { run := r } ∧ r.main = .coordinating := by
  unfold Run.start at start
  split at start
  · cases start
  next bus created =>
    split at start
    · cases start
    · cases start
      unfold Bus.create at created
      dsimp only at created
      split at created
      · cases created
      · split at created
        · cases created
        · cases created
          refine ⟨⟨Nat.one_pos, Nat.zero_le _, by rintro ⟨⟩, by rintro _ ⟨⟩⟩,
            ⟨List.nil_sublist _, rfl⟩, ⟨by rintro ⟨⟩, by simp⟩, rfl⟩

/-- A main task that returns a count has waited for the listener. -/
theorem gone_of_act {d : Run.Deed} (listened : 0 < r.bus.listeners) (act : r.act d = some t)
    (h : ∀ l, r.main = .returned (.counted l) → r.listener = .gone) (l : Ledger)
    (returned : t.main = .returned (.counted l)) : t.listener = .gone := by
  by_cases own : d = .move (.task .listener)
  · subst own
    have listens := Run.ListenerStep.of_step act
    rw [(Run.stepListener_same act).main] at returned
    have gone := h l returned
    cases listens <;> simp_all
  · rw [(Run.beside_of_act listened act own).listener]
    rcases d with ((_ | _ | e) | b) | e
    · exact h l ((Run.stepWorker_same act).main.symm.trans returned)
    · exact absurd rfl own
    · obtain ⟨u, -, -, main, -⟩ := Run.stepProducer_cases act
      exact h l (main.symm.trans returned)
    · cases Run.MainStep.of_step act with
      | serve coordinating => exact h l returned
      | finish awaiting gone => exact gone
      | _ => cases returned
    · obtain ⟨-, ⟨⟩⟩ := Option.ite_none_right_eq_some.mp act
      exact h l returned

/-- If nobody moves between the two looks of the listener, it leaves with everything that was
published before it was told to stop, unless that was overwritten. A run that returns a count has
had its report handed on. -/
theorem hears_all {c : Config} {acts : Effect → List Act} {subscribers : List Subscriber}
    {size : SlotSize} {r₀ : Run} {deeds : List Run.Deed}
    (start : Run.start c acts subscribers size = .ok r₀)
    (h : follow actWhole { run := r₀ } deeds = some w) :
    w.emitted.Sublist w.run.bus.history.toList ∧
    w.emitted.length + w.missed = w.run.reader.next ∧
    (w.run.listener = .closing ∨ w.run.listener = .gone → w.cut ≤ w.run.reader.next ∧
      (w.missed = 0 → w.run.bus.history.toList.take w.cut <+: w.emitted)) ∧
    ∀ l, w.run.main = .returned (.counted l) → w.missed = 0 → ∃ e ∈ w.emitted, e.Reports l := by
  obtain ⟨told₀, heard₀, whole₀, coordinating⟩ := TracedListener.start start
  have kept : (w.Told ∧ w.Heard) ∧ w.Whole ∧
      ∀ l, w.run.main = .returned (.counted l) → w.run.listener = .gone := by
    refine follow_invariant
      (P := fun w : TracedListener => (w.Told ∧ w.Heard) ∧ w.Whole ∧
        ∀ l, w.run.main = .returned (.counted l) → w.run.listener = .gone)
      (fun u d v step ⟨⟨told, heard⟩, whole, gone⟩ => ?_) h ⟨⟨told₀, heard₀⟩, whole₀, ?_⟩
    · obtain ⟨-, act⟩ := Option.ite_none_left_eq_some.mp step
      refine ⟨sound_of_act told heard act, whole_of_act told whole step, ?_⟩
      obtain ⟨t, moved, rfl⟩ := Option.map_eq_some_iff.mp act
      exact gone_of_act told.listened moved gone
    · intro l returned
      rw [show r₀.main = .returned (.counted l) from returned] at coordinating
      cases coordinating
  obtain ⟨⟨told, heard⟩, whole, gone⟩ := kept
  have left : w.run.listener = .closing ∨ w.run.listener = .gone → w.cut ≤ w.run.reader.next ∧
      (w.missed = 0 → w.run.bus.history.toList.take w.cut <+: w.emitted) := by
    intro left
    obtain ⟨-, le⟩ := whole.left left
    refine ⟨le, fun kept => ?_⟩
    rw [heard.eq_take kept]
    exact List.take_prefix_take_left le
  refine ⟨heard.heard.trans (List.take_sublist _ _), heard.all, left, fun l returned kept => ?_⟩
  obtain ⟨e, mem, reports⟩ := told.reported l (by rw [returned]; rfl)
  exact ⟨e, ((left (.inr (gone l returned))).2 kept).subset mem, reports⟩

/-- The listener looks at the bus before the report is published, and at the stop sign after it was
told to stop. -/
theorem report_left_behind :
    let acts : Effect → List Act := fun _ => [.complete]
    let up : Run.Deed := .move (.task (.producer .increment))
    let down : Run.Deed := .move (.task (.producer .decrement))
    let main : Run.Deed := .move (.main .completions)
    let listen : Run.Deed := .move (.task .listener)
    let deeds := List.replicate 4 up ++ List.replicate 4 down ++ List.replicate 9 main
      ++ List.replicate 5 listen ++ [main, main, listen]
      ++ List.replicate 5 (.move (.task (.worker 0))) ++ [listen, main]
    ∃ r₀ w l, Run.start {} acts [] = .ok r₀ ∧ follow act { run := r₀ } deeds = some w ∧
      w.run.main = .returned (.counted l) ∧ w.missed = 0 ∧
      (∃ e ∈ w.run.bus.history.toList.take w.cut, e.Reports l) ∧ ¬ ∃ e ∈ w.emitted, e.Reports l := by
  intro acts up down main listen deeds
  have seen : ((Run.start {} acts []).toOption.bind fun r =>
      (follow act { run := r } deeds).map fun w =>
        (w.run.main, w.missed,
          decide (∃ e ∈ w.run.bus.history.toList.take w.cut, e.Reports { completions := 2 }),
          decide (∃ e ∈ w.emitted, e.Reports { completions := 2 })))
      = some (.returned (.counted { completions := 2 }), 0, true, false) := by decide +kernel
  obtain ⟨r₀, started, followed⟩ := Option.bind_eq_some_iff.mp seen
  obtain ⟨w, h, same⟩ := Option.map_eq_some_iff.mp followed
  simp only [Prod.mk.injEq, decide_eq_true_eq, decide_eq_false_iff_not] at same
  obtain ⟨returned, kept, published, silent⟩ := same
  exact ⟨r₀, w, _, Run.start_of_toOption started, h, returned, kept, published, silent⟩

end TracedListener

end SharedCounter
