import SharedCounter.Proofs.Run.Listener

/-!
# What is left of a run that is over

* `Aftermath` : a run whose main task may be dropped where it waits, and whose producers may be
  aborted when it is over; `Aftermath.holders` : who still holds a publishing end of the bus;
* `Aftermath.act` : one deed of a task that is left, or the drop of the main task or of a producer;
* `Aftermath.listen_eq` : the listener never finds the bus closed, because the audience that it
  hands events to holds an end itself;
* `Aftermath.Kept` : the listener is told to stop only by a main task that then waits for it, and
  does not leave its loop before. Every deed keeps it;
* `Aftermath.outlives` : a listener that the main task did not wait for never leaves its loop.
-/

namespace SharedCounter

namespace Run

/-- Whether the main task waits, so that it can be dropped. -/
def atAwait (r : Run) : Bool :=
  match r.main with
  | .coordinating => r.team.coordinator.stage = .running
  | .joining .. | .awaiting _ => true
  | _ => false

/-- The coordinator is dropped with its receiving ends. -/
def dropCoordinator (r : Run) : Run :=
  { r with team := { r.team with inlets := r.team.inlets.hangUp } }

/-- A producer is dropped with its sending ends. -/
def dropProducer (r : Run) (e : Effect) : Run :=
  let s := r.team.producerState e
  { r with team := r.team.putProducer e { s with outlets := s.producer.abandon s.outlets } }

/-- Whether the listener is in its loop. -/
def inLoop (r : Run) : Bool :=
  match r.listener with
  | .listening | .checkingStop | .asleep => true
  | .closing | .gone => false

end Run

/-- A run, and what was dropped of it. -/
structure Aftermath where
  run : Run
  /-- Whether the main task was dropped. -/
  dropped : Bool := false
  /-- The producers that were aborted. -/
  aborted : List Effect := []
  deriving DecidableEq, Repr

namespace Aftermath

/-- Whether the main task has returned, was unwound or was dropped. -/
def isOver (s : Aftermath) : Bool :=
  s.dropped || match s.run.main with
    | .returned _ => true
    | _ => false

/-- How many hold a publishing end of the bus: the main task and the coordinator until the run is
over, the producers until they have ended or are aborted, the audience until the listener has
finished, and each worker. -/
def holders (s : Aftermath) : Nat :=
  (if s.isOver then 0 else 1 + match s.run.team.coordinator.stage with | .ended _ => 0 | _ => 1)
    + (Effect.all.countP fun e => !(s.run.team.producer e).ended && e ∉ s.aborted)
    + (if s.run.listener = .gone then 0 else 1)
    + s.run.audience.countP (·.duty = .working)

/-- One step of the listener, who leaves its loop when nobody holds a publishing end and everything
is read. -/
def listen (s : Aftermath) : Option Run :=
  if s.run.listener = .listening ∧
      ({ s.run.bus with handles := s.holders }.read s.run.reader).1 = .closed then
    some { s.run with audience := s.run.audience.close, listener := .closing }
  else s.run.stepListener

/-- What can happen next. -/
inductive Deed where
  | run (deed : Run.Deed)
  /-- The main task is dropped where it waits. -/
  | drop
  /-- A producer is aborted, because the run is over. -/
  | abort (e : Effect)
  deriving DecidableEq, Repr

/-- Whether the one who acts is still there. -/
def allows (s : Aftermath) : Run.Deed → Bool
  | .move (.main _) => !s.isOver
  | .move (.task (.producer e)) | .takePlace e => e ∉ s.aborted
  | .move (.task _) => true

/-- One deed, undefined where it cannot be done. -/
def act (s : Aftermath) : Deed → Option Aftermath
  | .run (.move (.task .listener)) => s.listen.map fun run => { s with run }
  | .run d => if s.allows d then (s.run.act d).map fun run => { s with run } else none
  | .drop =>
    if s.run.atAwait && !s.dropped then some { s with run := s.run.dropCoordinator, dropped := true }
    else none
  | .abort e =>
    if s.isOver && e ∉ s.aborted && !(s.run.team.producer e).ended then
      some { s with run := s.run.dropProducer e, aborted := e :: s.aborted }
    else none

variable {s t : Aftermath} {r : Run} {c : Config} {acts : Effect → List Act}
  {subscribers : List Subscriber} {size : SlotSize}

/-! ## Who holds the bus -/

/-- While the listener is there, the audience holds a publishing end. -/
theorem holders_pos (here : s.run.listener ≠ .gone) : s.holders ≠ 0 := by
  unfold holders
  rw [if_neg here]
  omega

/-- The listener never finds the bus closed. -/
theorem listen_eq (s : Aftermath) : s.listen = s.run.stepListener := by
  refine if_neg fun ⟨listening, closed⟩ => ?_
  have held : s.holders ≠ 0 := holders_pos (by rw [listening]; rintro ⟨⟩)
  unfold Bus.read at closed
  split at closed
  · cases closed
  · split at closed
    · cases closed
    · cases closed

/-- Who is left acts as in a run. -/
theorem run_of_act {d : Run.Deed} (act : s.act (.run d) = some t) :
    ∃ r, s.run.act d = some r ∧ t = { s with run := r } := by
  have others : (if s.allows d then (s.run.act d).map fun run => { s with run } else none) = some t →
      ∃ r, s.run.act d = some r ∧ t = { s with run := r } := by
    intro allowed
    obtain ⟨-, mapped⟩ := Option.ite_none_right_eq_some.mp allowed
    obtain ⟨r, moved, rfl⟩ := Option.map_eq_some_iff.mp mapped
    exact ⟨r, moved, rfl⟩
  rcases d with ((i | _ | e) | b) | e
  · exact others act
  · obtain ⟨r, moved, rfl⟩ := Option.map_eq_some_iff.mp act
    rw [listen_eq] at moved
    exact ⟨r, moved, rfl⟩
  · exact others act
  · exact others act
  · exact others act

/-! ## Who stops the listener -/

/-- The listener is told to stop only by a main task that then waits until it has gone, and it does
not leave its loop before. -/
structure Kept (r : Run) : Prop where
  told : r.stop = true → ∃ o, r.main = .awaiting o ∨ r.main = .returned o ∧ r.listener = .gone
  tells : ∀ o, r.main = .awaiting o → r.stop = true
  stays : r.stop = false → r.inLoop = true

theorem Kept.start (built : Run.start c acts subscribers size = .ok r) : Kept r := by
  unfold Run.start at built
  split at built
  · cases built
  · dsimp only at built
    split at built
    · cases built
    · cases built
      exact ⟨by rintro ⟨⟩, by rintro o ⟨⟩, fun _ => rfl⟩

theorem Kept.same {r' : Run} (h : Kept r) (main : r'.main = r.main) (stop : r'.stop = r.stop)
    (listener : r'.listener = r.listener) : Kept r' := by
  refine ⟨?_, ?_, ?_⟩
  · rw [stop, main, listener]
    exact h.told
  · rw [stop, main]
    exact h.tells
  · rw [stop, Run.inLoop, listener]
    exact h.stays

theorem Kept.untold (h : Kept r) (not_awaiting : ∀ o, r.main ≠ .awaiting o)
    (not_returned : ∀ o, r.main ≠ .returned o) : r.stop = false := by
  refine Bool.eq_false_iff.mpr fun stop => ?_
  obtain ⟨o, awaiting | ⟨returned, -⟩⟩ := h.told stop
  · exact not_awaiting o awaiting
  · exact not_returned o returned

theorem Kept.listen {r' : Run} (h : Kept r) (step : Run.ListenerStep r r') : Kept r' := by
  cases step with
  | hear | lag => exact h.same rfl rfl rfl
  | look listening | wake listening =>
    refine ⟨fun stop => ?_, h.tells, fun _ => rfl⟩
    obtain ⟨o, awaiting | ⟨-, gone⟩⟩ := h.told stop
    · exact ⟨o, .inl awaiting⟩
    · cases listening.symm.trans gone
  | sleep checking quiet =>
    refine ⟨fun stop => ?_, h.tells, fun _ => rfl⟩
    cases quiet.symm.trans stop
  | leave checking stop =>
    refine ⟨fun _ => ?_, h.tells, fun quiet => nomatch stop.symm.trans quiet⟩
    obtain ⟨o, awaiting | ⟨-, gone⟩⟩ := h.told stop
    · exact ⟨o, .inl awaiting⟩
    · cases checking.symm.trans gone
  | finish closing =>
    have stop : r.stop = true := by
      by_contra quiet
      have loop := h.stays (Bool.eq_false_iff.mpr quiet)
      rw [Run.inLoop, closing] at loop
      cases loop
    refine ⟨fun _ => ?_, h.tells, fun quiet => nomatch stop.symm.trans quiet⟩
    obtain ⟨o, awaiting | ⟨returned, -⟩⟩ := h.told stop
    · exact ⟨o, .inl awaiting⟩
    · exact ⟨o, .inr ⟨returned, rfl⟩⟩

theorem Kept.main {r' : Run} {b : Branch} (h : Kept r) (step : Run.MainStep r b r') : Kept r' := by
  cases step with
  | serve => exact h.same rfl rfl rfl
  | overflow early | join early | hear early | report early =>
    have quiet : r.stop = false := h.untold (by simp [early]) (by simp [early])
    refine ⟨fun stop => ?_, ?_, fun _ => h.stays quiet⟩
    · cases quiet.symm.trans stop
    · rintro o ⟨⟩
  | @stop o => exact ⟨fun _ => ⟨o, .inl rfl⟩, fun _ _ => rfl, by rintro ⟨⟩⟩
  | @finish o awaiting gone =>
    refine ⟨fun _ => ⟨o, .inr ⟨rfl, gone⟩⟩, by rintro o ⟨⟩, h.stays⟩

theorem Kept.run {r' : Run} {d : Run.Deed} (h : Kept r) (act : r.act d = some r') : Kept r' := by
  rcases d with ((i | _ | e) | b) | e
  · obtain ⟨d, u, -, -, rfl⟩ := Run.stepWorker_eq_some_iff.mp act
    exact h.same rfl rfl rfl
  · exact h.listen (.of_step act)
  · obtain ⟨⟨team, es⟩, -, rfl⟩ := Option.map_eq_some_iff.mp act
    dsimp only
    split <;> exact h.same rfl rfl rfl
  · exact h.main (.of_step act)
  · obtain ⟨-, ⟨⟩⟩ := Option.ite_none_right_eq_some.mp act
    exact h.same rfl rfl rfl

theorem Kept.act {d : Deed} (h : Kept s.run) (act : s.act d = some t) : Kept t.run := by
  cases d with
  | run d =>
    obtain ⟨r, moved, rfl⟩ := run_of_act act
    exact h.run moved
  | drop =>
    obtain ⟨-, ⟨⟩⟩ := Option.ite_none_right_eq_some.mp act
    exact h.same rfl rfl rfl
  | abort e =>
    obtain ⟨-, ⟨⟩⟩ := Option.ite_none_right_eq_some.mp act
    exact h.same rfl rfl rfl

/-! ## After the end -/

theorem told_by_main {r' : Run} {d : Run.Deed} (act : r.act d = some r')
    (other : ∀ b, d ≠ .move (.main b)) : r'.main = r.main ∧ r'.stop = r.stop := by
  rcases d with ((i | _ | e) | b) | e
  · obtain ⟨d, u, -, -, rfl⟩ := Run.stepWorker_eq_some_iff.mp act
    exact ⟨rfl, rfl⟩
  · cases Run.ListenerStep.of_step act <;> exact ⟨rfl, rfl⟩
  · obtain ⟨⟨team, es⟩, -, rfl⟩ := Option.map_eq_some_iff.mp act
    dsimp only
    split <;> exact ⟨rfl, rfl⟩
  · exact absurd rfl (other b)
  · obtain ⟨-, ⟨⟩⟩ := Option.ite_none_right_eq_some.mp act
    exact ⟨rfl, rfl⟩

theorem isOver_of_act {d : Deed} (ended : s.isOver = true) (act : s.act d = some t) :
    t.isOver = true ∧ t.run.stop = s.run.stop := by
  cases d with
  | run d =>
    have other : ∀ b, d ≠ .move (.main b) := by
      rintro b rfl
      obtain ⟨going, -⟩ := Option.ite_none_right_eq_some.mp act
      simp [allows, ended] at going
    obtain ⟨r, moved, rfl⟩ := run_of_act act
    obtain ⟨main, stop⟩ := told_by_main moved other
    refine ⟨?_, stop⟩
    unfold isOver
    rw [main]
    exact ended
  | drop =>
    obtain ⟨-, ⟨⟩⟩ := Option.ite_none_right_eq_some.mp act
    exact ⟨rfl, rfl⟩
  | abort e =>
    obtain ⟨-, ⟨⟩⟩ := Option.ite_none_right_eq_some.mp act
    exact ⟨ended, rfl⟩

theorem Kept.not_gone (h : Kept r) (quiet : r.stop = false) : r.listener ≠ .gone := by
  intro gone
  have loop := h.stays quiet
  rw [Run.inLoop, gone] at loop
  cases loop

/-- A listener that is still there when the run is over has been told to stop if the main task was
waiting for it, and then it can go on to leave. Otherwise it is never told, and never finds the bus
closed, because its own audience holds a publishing end: it stays in its loop for ever. -/
theorem outlives {deeds : List Deed} (built : Run.start c acts subscribers size = .ok r)
    (h : follow act { run := r } deeds = some s) (ended : s.isOver = true)
    (here : s.run.listener ≠ .gone) :
    s.holders ≠ 0 ∧
    (s.run.stop = true ↔ ∃ o, s.run.main = .awaiting o) ∧
    (s.run.stop = true → s.run.listener = .asleep → s.listen.isSome = true) ∧
    (s.run.stop = false → ∀ more t, follow act s more = some t →
      t.run.stop = false ∧ t.holders ≠ 0 ∧ t.run.inLoop = true) := by
  have kept : Kept s.run :=
    follow_invariant (P := fun s : Aftermath => Kept s.run) (fun _ _ _ act h => h.act act) h
      (.start built)
  refine ⟨holders_pos here, ⟨fun stop => ?_, fun ⟨o, awaiting⟩ => kept.tells o awaiting⟩,
    fun stop asleep => ?_, fun quiet more t later => ?_⟩
  · obtain ⟨o, awaiting | ⟨-, gone⟩⟩ := kept.told stop
    · exact ⟨o, awaiting⟩
    · exact absurd gone here
  · rw [listen_eq, Run.stepListener, asleep]
    simp [stop]
  · obtain ⟨later_kept, -, still⟩ := follow_invariant
      (P := fun u : Aftermath => Kept u.run ∧ u.isOver = true ∧ u.run.stop = false)
      (fun u d v act hu => ⟨hu.1.act act, (isOver_of_act hu.2.1 act).1,
        (isOver_of_act hu.2.1 act).2.trans hu.2.2⟩) later ⟨kept, ended, quiet⟩
    exact ⟨still, holders_pos (later_kept.not_gone still), later_kept.stays still⟩

/-- The main task is dropped at its first wait. -/
theorem outlives_of_drop :
    let c : Config := { iterations := 1 }
    let deeds : List Deed := [.drop, .abort .increment, .abort .decrement,
      .run (.move (.task .listener)), .run (.move (.task .listener))]
    ∃ r s, Run.start c (Team.orderlyActs c) [] = .ok r ∧ follow act { run := r } deeds = some s ∧
      s.isOver = true ∧ s.run.listener = .asleep ∧ s.holders ≠ 0 ∧
      ∀ more t, follow act s more = some t → t.run.inLoop = true := by
  intro c deeds
  have seen : ((Run.start c (Team.orderlyActs c) []).toOption.bind
        fun r => (follow act { run := r } deeds).map fun s => (s.isOver, s.run.listener, s.run.stop))
      = some (true, .asleep, false) := by decide +kernel
  obtain ⟨r, built, seen⟩ := Option.bind_eq_some_iff.mp seen
  obtain ⟨s, h, same⟩ := Option.map_eq_some_iff.mp seen
  obtain ⟨ended, asleep, quiet⟩ : s.isOver = true ∧ s.run.listener = .asleep ∧ s.run.stop = false := by
    simpa using same
  have here : s.run.listener ≠ .gone := by
    rw [asleep]
    rintro ⟨⟩
  have built := Run.start_of_toOption built
  obtain ⟨held, -, -, stays⟩ := outlives built h ended here
  exact ⟨r, s, built, h, ended, asleep, held, fun more t later => (stays quiet more t later).2.2⟩

/-- A sum out of range unwinds the main task, which stops nobody: its listener sleeps on a bus that
is not closed. -/
theorem not_released_of_overflow :
    ¬ ∀ (c : Config) (subscribers : List Subscriber) (r : Run) (deeds : List Deed) (s : Aftermath),
      Run.start c (Team.orderlyActs c) subscribers = .ok r →
      follow act { run := r } deeds = some s → s.isOver = true →
      (∀ e, e ∈ s.aborted ∨ (s.run.team.producer e).ended = true) → s.run.listener ≠ .gone →
      s.run.stop = true ∨ s.holders = 0 := by
  intro released
  let c : Config := { iterations := 1, initial := counterMax }
  let up : Deed := .run (.move (.task (.producer .increment)))
  let main : Deed := .run (.move (.main (.signals .first)))
  let listener : Deed := .run (.move (.task .listener))
  let deeds : List Deed := [up, up, main, main, main, .abort .increment, .abort .decrement,
    listener, listener, listener]
  have seen : ((Run.start c (Team.orderlyActs c) []).toOption.bind
        fun r => (follow act { run := r } deeds).map fun s =>
          (s.isOver, Effect.all.all (· ∈ s.aborted), s.run.listener, s.run.stop, s.holders))
      = some (true, true, .asleep, false, 2) := by decide +kernel
  obtain ⟨r, built, seen⟩ := Option.bind_eq_some_iff.mp seen
  obtain ⟨s, h, same⟩ := Option.map_eq_some_iff.mp seen
  obtain ⟨ended, aborted, asleep, quiet, held⟩ : s.isOver = true ∧
      Effect.all.all (· ∈ s.aborted) = true ∧ s.run.listener = .asleep ∧ s.run.stop = false ∧
      s.holders = 2 := by simpa using same
  have gone : ∀ e, e ∈ s.aborted ∨ (s.run.team.producer e).ended = true := by
    intro e
    exact .inl (of_decide_eq_true (List.all_eq_true.mp aborted e (Effect.mem_all e)))
  have here : s.run.listener ≠ .gone := by
    rw [asleep]
    rintro ⟨⟩
  have built := Run.start_of_toOption built
  rcases released c [] r deeds s built h ended gone here with stop | closed
  · cases quiet.symm.trans stop
  · omega

end Aftermath

end SharedCounter
