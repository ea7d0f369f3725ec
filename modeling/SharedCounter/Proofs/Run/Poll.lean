import SharedCounter.Proofs.Producer.Items
import SharedCounter.Proofs.Run.Listener
import SharedCounter.Proofs.Simulation

/-!
# Polls are schedules

* `TracedListener.Deed`, `TracedListener.perform` : a deed of a run in which no other task moves
  between the two looks of its listener, permits for a subscriber at its gate, or another order of
  the waiting tasks;
* `TracedListener.Leads w t` : the run `t` comes of `w` by a schedule of such deeds;
* `Run.Poll`, `Run.poll` : one task has its turn, in which it goes on until it has to wait or has
  moved enough, and nobody else moves;
* `TracedListener.Leads.polls` : whatever the order of the polls, they are such a schedule. The
  listener never ends a turn between its two looks (`TracedListener.Leads.turnListener`).
-/

namespace SharedCounter

variable {e : Effect}

/-! ## Earlier events -/

/-- A worker takes the same step whatever was published before. -/
theorem Desk.step_events (d : Desk) (es : List Event) :
    Desk.State.step ⟨d, es⟩ = (Desk.State.step ⟨d, []⟩).map fun t => ⟨t.desk, es ++ t.events⟩ := by
  have handle : ∀ (d : Desk) (e : Stamped), State.handle ⟨d, es⟩ e
      = ⟨(State.handle ⟨d, []⟩ e).desk, es ++ (State.handle ⟨d, []⟩ e).events⟩ := by
    intro d e
    unfold State.handle
    dsimp only
    split <;> simp
  unfold Desk.State.step
  dsimp only
  repeat' split
  all_goals simp [handle]

theorem Run.publish_publish (r : Run) (es fs : List Event) :
    (r.publish es).publish fs = r.publish (es ++ fs) := by
  have bus := r.bus.publishAll_publishAll r.seq es fs
  have seq : r.seq + es.length + fs.length = r.seq + (es ++ fs).length := by
    rw [List.length_append, Nat.add_assoc]
  simp only [Run.publish, bus, seq]

/-! ## Steps within a turn -/

namespace Run

theorem step_of_producerStepWithin {u v : Producer.State × Nat}
    (h : producerStepWithin u = some v) : u.1.step = some v.1 := by
  obtain ⟨s, budget⟩ := u
  unfold producerStepWithin at h
  dsimp only at h
  split at h
  · cases budget with
    | zero => cases h
    | succ left =>
      obtain ⟨t, step, rfl⟩ := Option.map_eq_some_iff.mp h
      exact step
  · obtain ⟨t, step, rfl⟩ := Option.map_eq_some_iff.mp h
    exact step

theorem step_of_listenerStepWithin {u v : Run × Nat} (h : listenerStepWithin u = some v) :
    u.1.stepListener = some v.1 := by
  obtain ⟨r, budget⟩ := u
  unfold listenerStepWithin at h
  dsimp only at h
  split at h
  · cases budget with
    | zero => cases h
    | succ left =>
      obtain ⟨t, step, rfl⟩ := Option.map_eq_some_iff.mp h
      exact step
  · obtain ⟨t, step, rfl⟩ := Option.map_eq_some_iff.mp h
    exact step

theorem step_of_mainStepWithin {u v : Run × Nat} (h : mainStepWithin u = some v) :
    ∃ t, u.1.stepMainAny = some t ∧ v.1 = t.wake := by
  obtain ⟨r, budget⟩ := u
  unfold mainStepWithin at h
  dsimp only at h
  split at h
  · cases budget with
    | zero => cases h
    | succ left =>
      obtain ⟨t, step, rfl⟩ := Option.map_eq_some_iff.mp h
      exact ⟨t, step, rfl⟩
  · obtain ⟨t, step, rfl⟩ := Option.map_eq_some_iff.mp h
    exact ⟨t, step, rfl⟩

end Run

/-! ## Schedules -/

namespace TracedListener

/-- What can happen next. -/
inductive Deed where
  /-- One deed of the run that does not come between the two looks of the listener. -/
  | run (d : Run.Deed)
  /-- The gate of the subscriber at desk `i` is given `k` permits. -/
  | permit (i k : Nat)
  /-- The tasks that can go on wait for their turns in another order. -/
  | queue (queue deferred : List Task)
  deriving DecidableEq, Repr

/-- The gate of the subscriber at desk `i` is given `k` permits. -/
def permit (w : TracedListener) (i k : Nat) : Option TracedListener :=
  w.run.audience[i]?.map fun d =>
    { w with run := { w.run with audience := w.run.audience.set i (d.permit k) } }

/-- One deed, undefined where its task waits or has ended, or where nobody sits at the desk. -/
def perform (w : TracedListener) : Deed → Option TracedListener
  | .run d => w.actWhole d
  | .permit i k => w.permit i k
  | .queue queue deferred => some { w with run := { w.run with queue, deferred } }

/-- The run `t` comes of `w` by a schedule. -/
def Leads (w : TracedListener) (t : Run) : Prop :=
  ∃ deeds v, follow perform w deeds = some v ∧ v.run = t

variable {w : TracedListener} {r t : Run}

theorem Leads.refl (w : TracedListener) : w.Leads w.run := ⟨[], w, rfl, rfl⟩

theorem Leads.perform (h : w.Leads r) {d : Deed}
    (act : ∀ v : TracedListener, v.run = r → (v.perform d).map TracedListener.run = some t) :
    w.Leads t := by
  obtain ⟨deeds, v, run, here⟩ := h
  obtain ⟨u, last, there⟩ := Option.map_eq_some_iff.mp (act v here)
  refine ⟨deeds ++ [d], u, ?_, there⟩
  have one : follow TracedListener.perform v [d] = some u := by
    rw [follow_cons, last]
    rfl
  rw [follow_append, run]
  exact one

/-- A deed of a task while the listener does not stand between its two looks. -/
theorem Leads.act (h : w.Leads r) (apart : r.listener ≠ .checkingStop) {d : Run.Deed}
    (step : r.act d = some t) : w.Leads t := by
  refine h.perform (d := .run d) fun v here => ?_
  subst here
  rw [TracedListener.perform, actWhole, if_neg fun between => apart between.1,
    TracedListener.act, step]
  rfl

theorem Leads.listen (h : w.Leads r) (step : r.stepListener = some t) : w.Leads t := by
  refine h.perform (d := .run (.move (.task .listener))) fun v here => ?_
  subst here
  have act : v.run.act (.move (.task .listener)) = some t := step
  rw [TracedListener.perform, actWhole, if_neg fun between => between.2 rfl, TracedListener.act, act]
  rfl

theorem Leads.queue (h : w.Leads r) (queue deferred : List Task) :
    w.Leads { r with queue, deferred } := by
  refine h.perform (d := .queue queue deferred) fun v here => ?_
  subst here
  rfl

theorem Leads.permit (h : w.Leads r) {i : Nat} {d : Desk} (seated : r.audience[i]? = some d)
    (k : Nat) : w.Leads { r with audience := r.audience.set i (d.permit k) } := by
  refine h.perform (d := .permit i k) fun v here => ?_
  subst here
  rw [TracedListener.perform, TracedListener.permit, seated]
  rfl

/-! ## The turn of a worker -/

end TracedListener

namespace Run

variable {r t : Run} {i : Nat}

/-- The run after the worker at a desk has moved, and has published what it had to. -/
def putDesk (r : Run) (i : Nat) (t : Desk.State) : Run :=
  { r with audience := r.audience.set i t.desk }.publish t.events

theorem putDesk_self {d : Desk} (seated : r.audience[i]? = some d) : r.putDesk i ⟨d, []⟩ = r := by
  obtain ⟨inside, rfl⟩ := List.getElem?_eq_some_iff.mp seated
  rw [putDesk, List.set_getElem_self]
  rfl

theorem putDesk_putDesk (r : Run) (i : Nat) (t u : Desk.State) :
    (r.putDesk i t).putDesk i u = r.putDesk i ⟨u.desk, t.events ++ u.events⟩ :=
  calc (r.putDesk i t).putDesk i u
    _ = (publish { r with audience := (r.audience.set i t.desk).set i u.desk } t.events).publish
          u.events := rfl
    _ = r.putDesk i ⟨u.desk, t.events ++ u.events⟩ := by
          rw [publish_publish, List.set_set]
          rfl

/-- A worker takes the same steps from wherever it has got to. -/
theorem stepWorker_putDesk {u v : Desk.State} (inside : i < r.audience.length)
    (step : u.step = some v) : (r.putDesk i u).stepWorker i = some (r.putDesk i v) := by
  obtain ⟨d, es⟩ := u
  rw [Desk.step_events] at step
  obtain ⟨t, moved, rfl⟩ := Option.map_eq_some_iff.mp step
  have seated : (r.putDesk i ⟨d, es⟩).audience[i]? = some d := List.getElem?_set_self inside
  rw [← putDesk_putDesk r i ⟨d, es⟩]
  exact stepWorker_eq_some_iff.mpr ⟨d, t, seated, moved, rfl⟩

end Run

namespace TracedListener

variable {w : TracedListener} {r t : Run}

theorem Leads.turnWorker (h : w.Leads r) (apart : r.listener ≠ .checkingStop) (i : Nat) :
    w.Leads (r.turnWorker i) ∧ (r.turnWorker i).listener = r.listener := by
  unfold Run.turnWorker
  split
  next d seated =>
    have worked : w.Leads (r.putDesk i
        (advance Desk.State.stepWithin turnLength (⟨d, []⟩, turnLength)).1) := by
      refine advance_invariant (P := fun u : Desk.State × Nat => w.Leads (r.putDesk i u.1)) ?_ _ ?_
      · intro ⟨u, budget⟩ v step leads
        cases budget with
        | zero => cases step
        | succ left =>
          obtain ⟨t, moved, rfl⟩ := Option.map_eq_some_iff.mp step
          have inside := (List.getElem?_eq_some_iff.mp seated).1
          exact leads.act (d := .move (.task (.worker i))) apart
            (Run.stepWorker_putDesk inside moved)
      · rw [Run.putDesk_self seated]
        exact h
    dsimp only
    split
    · exact ⟨worked.queue _ _, rfl⟩
    · exact ⟨worked, rfl⟩
  next => exact ⟨h, rfl⟩

end TracedListener

/-! ## The turn of a producer -/

namespace Run

variable {r : Run}

/-- The run after a producer has moved, has published what it had to, and has joined if it has
ended. -/
def putProducer (r : Run) (e : Effect) (t : Producer.State) : Run :=
  { r with
    team := r.team.putProducer e t
    joined := if t.producer.ended then r.joined ++ [e] else r.joined }.publish t.events

theorem putProducer_self (going : (r.team.producer e).ended = false) :
    r.putProducer e (r.team.producerState e) = r := by
  have same : (r.team.producerState e).producer.ended = false := going
  rw [putProducer, Team.putProducer_producerState, same]
  rfl

theorem putProducer_putProducer (r : Run) (e : Effect) {t : Producer.State}
    (going : t.producer.ended = false) (u : Producer.State) :
    (r.putProducer e t).putProducer e u
      = r.putProducer e { u with events := t.events ++ u.events } := by
  have joined : (r.putProducer e t).joined = r.joined := if_neg (by simp [going])
  calc (r.putProducer e t).putProducer e u
    _ = (publish { r with
          team := (r.team.putProducer e t).putProducer e u
          joined := if u.producer.ended then (r.putProducer e t).joined ++ [e]
            else (r.putProducer e t).joined } t.events).publish u.events := rfl
    _ = r.putProducer e { u with events := t.events ++ u.events } := by
          rw [publish_publish, Team.putProducer_putProducer, joined]
          rfl

theorem going_of_step {s t : Producer.State} (step : s.step = some t) :
    s.producer.ended = false := by
  refine Bool.eq_false_iff.mpr fun ended => ?_
  rw [Producer.State.step_eq_none_iff.mpr (.inl ended)] at step
  cases step

/-- A producer takes the same steps from wherever it has got to. -/
theorem stepProducer_putProducer {u v : Producer.State} (step : u.step = some v) :
    (r.putProducer e u).stepProducer e = some (r.putProducer e v) := by
  have going := going_of_step step
  obtain ⟨p, o, es⟩ := u
  rw [Producer.step_events] at step
  obtain ⟨t, moved, rfl⟩ := Option.map_eq_some_iff.mp step
  have state : (r.putProducer e ⟨p, o, es⟩).team.producerState e = ⟨p, o, []⟩ :=
    Team.producerState_putProducer ..
  rw [← putProducer_putProducer r e (t := ⟨p, o, es⟩) going, stepProducer, Team.step, state, moved]
  show some (if _ then _ else _) = some _
  rw [Team.producer_putProducer_self]
  unfold putProducer
  split <;> rfl

theorem takePlace_putProducer {u : Producer.State}
    (ready : (u.producer.sends && u.producer.place.isNone) = true) :
    (r.putProducer e u).act (.takePlace e) = some (r.putProducer e u.takePlace) := by
  obtain ⟨i, sending⟩ := Producer.exists_sending? (Bool.and_eq_true_iff.mp ready).1
  obtain ⟨verdict, -⟩ := Producer.of_sending? sending
  obtain ⟨p, o, es⟩ := u
  have self : (r.putProducer e ⟨p, o, es⟩).team.producer e = p :=
    Team.producer_putProducer_self ..
  have state : (r.putProducer e ⟨p, o, es⟩).team.producerState e = ⟨p, o, []⟩ :=
    Team.producerState_putProducer ..
  have going : p.ended = false := by
    rw [Producer.ended, show p.verdict = none from verdict]
    rfl
  have still : (Producer.State.takePlace ⟨p, o, es⟩).producer.ended = false := by
    unfold Producer.State.takePlace
    dsimp only
    split <;> exact going
  have team : (r.putProducer e ⟨p, o, es⟩).team.putProducer e (Producer.State.takePlace ⟨p, o, []⟩)
      = r.team.putProducer e (Producer.State.takePlace ⟨p, o, es⟩) := by
    refine (Team.putProducer_putProducer ..).trans ?_
    unfold Producer.State.takePlace
    dsimp only
    split <;> rfl
  have events : (Producer.State.takePlace ⟨p, o, es⟩).events = es := by
    unfold Producer.State.takePlace
    dsimp only
    split <;> rfl
  rw [act, self, if_pos ready, state, team]
  unfold putProducer
  rw [still, events, show Producer.ended _ = false from going]
  rfl

end Run

namespace TracedListener

variable {w : TracedListener} {r t : Run}

theorem Leads.turnProducer (h : w.Leads r) (apart : r.listener ≠ .checkingStop)
    (going : (r.team.producer e).ended = false) :
    w.Leads (r.turnProducer e) ∧ (r.turnProducer e).listener = r.listener := by
  have moved : w.Leads (r.putProducer e (advance Run.producerStepWithin
      (r.team.producer e).effort (r.team.producerState e, turnLength)).1) := by
    refine advance_invariant
      (P := fun u : Producer.State × Nat => w.Leads (r.putProducer e u.1)) ?_ _ ?_
    · intro u v step leads
      exact leads.act (d := .move (.task (.producer e))) apart
        (Run.stepProducer_putProducer (Run.step_of_producerStepWithin step))
    · rw [Run.putProducer_self going]
      exact h
  unfold Run.turnProducer
  dsimp only [Team.producerState] at moved ⊢
  generalize (advance Run.producerStepWithin _ _).1 = u at moved ⊢
  have placed : w.Leads (r.putProducer e
      (if u.producer.sends && u.producer.place.isNone then u.takePlace else u)) := by
    split
    next ready =>
      exact moved.act (d := .takePlace e) apart (Run.takePlace_putProducer ready)
    next => exact moved
  generalize (if u.producer.sends && u.producer.place.isNone then u.takePlace else u) = v
    at placed ⊢
  unfold Run.putProducer at placed
  split
  next ended =>
    rw [if_pos ended] at placed
    exact ⟨placed, rfl⟩
  next going =>
    rw [if_neg going] at placed
    split
    · exact ⟨placed.queue _ _, rfl⟩
    · exact ⟨placed, rfl⟩

end TracedListener

/-! ## The turn of the listener -/

namespace Run

/-- How far the listener is from the end of its turn, but for what it may still read. -/
def listenerRank (r : Run) : Nat :=
  match r.listener with
  | .listening => 4
  | .checkingStop => if r.reader.next < r.bus.history.size then 6 else 3
  | .asleep => if r.stop || r.reader.next < r.bus.history.size then 5 else 0
  | .closing => 1
  | .gone => 0

/-- The listener comes nearer to the end of its turn with each step. -/
theorem listenerStepWithin_lowers {u v : Run × Nat} (step : listenerStepWithin u = some v) :
    v.2 + v.1.listenerRank < u.2 + u.1.listenerRank := by
  obtain ⟨r, budget⟩ := u
  unfold listenerStepWithin at step
  dsimp only at step
  split at step
  next listening =>
    cases budget with
    | zero => cases step
    | succ left =>
      obtain ⟨t, moved, rfl⟩ := Option.map_eq_some_iff.mp step
      cases ListenerStep.of_step moved with
      | hear | lag => simp [listenerRank, listening, publish]
      | look _ read =>
        have behind : ¬ r.reader.next < r.bus.history.size := Nat.not_lt.mpr read
        simp [listenerRank, listening, behind]
      | leave elsewhere | sleep elsewhere | wake elsewhere | finish elsewhere =>
        rw [listening] at elsewhere
        cases elsewhere
  next away =>
    obtain ⟨t, moved, rfl⟩ := Option.map_eq_some_iff.mp step
    cases ListenerStep.of_step moved with
    | hear listening | lag listening | look listening => exact absurd listening away
    | leave checking =>
      simp only [listenerRank, checking]
      split <;> omega
    | sleep checking stop =>
      simp only [listenerRank, checking, stop, Bool.false_or, decide_eq_true_eq]
      split <;> omega
    | wake asleep =>
      simp only [stepListener, asleep] at moved
      simp only [listenerRank, asleep, if_pos (Option.ite_none_right_eq_some.mp moved).1]
      omega
    | finish closing =>
      simp only [listenerRank, closing]
      omega

/-- No turn of the listener ends between its two looks. -/
theorem listener_of_turnListener (r : Run) : r.turnListener.listener ≠ .checkingStop := by
  have rank : r.listenerRank ≤ 6 := by
    unfold listenerRank
    repeat' split
    all_goals omega
  have enough : turnLength + r.listenerRank ≤ listenerEffort := by
    unfold listenerEffort turnLength
    omega
  have stopped : listenerStepWithin (advance listenerStepWithin listenerEffort (r, turnLength))
      = none :=
    advance_stops (μ := fun u : Run × Nat => u.2 + u.1.listenerRank)
      (fun _ _ => listenerStepWithin_lowers) enough
  unfold turnListener
  dsimp only
  generalize advance listenerStepWithin listenerEffort (r, turnLength) = u at stopped ⊢
  obtain ⟨t, left⟩ := u
  have apart : t.listener ≠ .checkingStop := by
    intro checking
    simp [listenerStepWithin, stepListener, checking] at stopped
  split <;> exact apart

end Run

namespace TracedListener

variable {w : TracedListener} {r t : Run}

theorem Leads.turnListener (h : w.Leads r) : w.Leads r.turnListener := by
  have moved : w.Leads (advance Run.listenerStepWithin Run.listenerEffort (r, turnLength)).1 :=
    advance_invariant (P := fun u : Run × Nat => w.Leads u.1)
      (fun _ _ step leads => leads.listen (Run.step_of_listenerStepWithin step)) _ h
  unfold Run.turnListener
  dsimp only
  split
  · exact moved.queue _ _
  · exact moved

/-! ## The turn of the main task -/

/-- A step of the main task, after which others are woken. -/
theorem Leads.stepMainAny (h : w.Leads r) (apart : r.listener ≠ .checkingStop)
    (step : r.stepMainAny = some t) : w.Leads t.wake ∧ t.wake.listener = r.listener := by
  obtain ⟨b, -, hb⟩ := List.exists_of_findSome?_eq_some step
  have moved : w.Leads t := h.act (d := .move (.main b)) apart hb
  refine ⟨moved.queue _ t.deferred, ?_⟩
  cases Run.MainStep.of_step hb <;> rfl

theorem Leads.turnMain (h : w.Leads r) (apart : r.listener ≠ .checkingStop) :
    w.Leads r.turnMain ∧ r.turnMain.listener ≠ .checkingStop := by
  unfold Run.turnMain
  refine advance_invariant
    (P := fun u : Run × Nat => w.Leads u.1 ∧ u.1.listener ≠ .checkingStop) ?_ _ ⟨h, apart⟩
  intro u v step ⟨leads, apart⟩
  obtain ⟨t, moved, same⟩ := Run.step_of_mainStepWithin step
  obtain ⟨leads, listener⟩ := leads.stepMainAny apart moved
  rw [same, listener]
  exact ⟨leads, apart⟩

end TracedListener

/-! ## Polls -/

namespace Run

/-- Who is polled, or what happens between two polls. -/
inductive Poll where
  | worker (i : Nat)
  | listener
  | producer (e : Effect)
  | main
  /-- The gate of the subscriber at desk `i` is given `k` permits. -/
  | permit (i k : Nat)
  deriving DecidableEq, Repr

/-- One poll: a task goes on until it has to wait, or has moved as much as it may in one turn. A
producer that has ended is not polled. -/
def poll (r : Run) : Poll → Option Run
  | .worker i => some (r.turnWorker i)
  | .listener => some r.turnListener
  | .producer e => if (r.team.producer e).ended then none else some (r.turnProducer e)
  | .main => some r.turnMain
  | .permit i k =>
    r.audience[i]?.map fun d => { r with audience := r.audience.set i (d.permit k) }

theorem listener_of_start {c : Config} {acts : Effect → List Act} {subscribers : List Subscriber}
    {size : SlotSize} {r : Run} (start : Run.start c acts subscribers size = .ok r) :
    r.listener = .listening := by
  unfold Run.start at start
  split at start
  · cases start
  · split at start
    · cases start
    · cases start
      rfl

end Run

namespace TracedListener

variable {w : TracedListener} {r t : Run}

theorem Leads.poll (h : w.Leads r) (apart : r.listener ≠ .checkingStop) {p : Run.Poll}
    (polled : r.poll p = some t) : w.Leads t ∧ t.listener ≠ .checkingStop := by
  cases p with
  | worker i =>
    cases polled
    obtain ⟨leads, listener⟩ := h.turnWorker apart i
    rw [listener]
    exact ⟨leads, apart⟩
  | listener =>
    cases polled
    exact ⟨h.turnListener, Run.listener_of_turnListener r⟩
  | producer e =>
    obtain ⟨going, ⟨⟩⟩ := Option.ite_none_left_eq_some.mp polled
    obtain ⟨leads, listener⟩ := h.turnProducer apart (Bool.eq_false_iff.mpr going)
    rw [listener]
    exact ⟨leads, apart⟩
  | main =>
    cases polled
    exact h.turnMain apart
  | permit i k =>
    obtain ⟨d, seated, rfl⟩ := Option.map_eq_some_iff.mp polled
    exact ⟨h.permit seated k, apart⟩

/-- Polls in any order are a schedule in which nobody moves between the two looks of the listener. -/
theorem Leads.polls {polls : List Run.Poll} (apart : r.listener ≠ .checkingStop)
    (h : follow Run.poll r polls = some t) : Leads { run := r } t := by
  have kept : Leads { run := r } t ∧ t.listener ≠ .checkingStop :=
    follow_invariant (P := fun u => Leads { run := r } u ∧ u.listener ≠ .checkingStop)
      (fun _ _ _ polled h => h.1.poll h.2 polled) h ⟨.refl _, apart⟩
  exact kept.1

end TracedListener

end SharedCounter
