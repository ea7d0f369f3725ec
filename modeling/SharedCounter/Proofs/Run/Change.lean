import SharedCounter.Proofs.Team.Change
import SharedCounter.Run

/-!
# What one step of a run changes

* `MainStage.outcome?` : the outcome that the main task goes on with, and `MainStage.heard` : how
  many producers it knows to have ended;
* `Run.SameCount r t` : `r` and `t` are the same but for what listens. The steps of the listener and
  of the workers are of this kind (`stepListener_same`, `stepWorker_same`);
* `Run.ListenerStep`, `Run.MainStep` : the ways in which the listener and the main task take a step;
* `stepWorker_eq_some_iff` : a step of a worker is one at its desk;
* `stepProducer_cases` : a step of a producer, which joins when it has ended;
* `stepMain_cases` : a step of the main task is one of the coordinator, or the main task goes on with
  the outcome of the coordinator (`Run.GoesOn`);
* `Run.Deed`, `Run.act` : one step of one task, or a send that takes its place when a turn ends.
-/

namespace SharedCounter

namespace MainStage

/-- The outcome that the main task goes on with, once it has one. -/
def outcome? : MainStage → Option Outcome
  | .coordinating => none
  | .joining o _ | .stopping o | .awaiting o | .returned o => some o

/-- How many producers have to have ended. A sum out of range does not wait for them. -/
def heard : MainStage → Nat
  | .coordinating | .returned .overflowed => 0
  | .joining _ n => n
  | .stopping _ | .awaiting _ | .returned _ => Effect.all.length

end MainStage

namespace Run

variable {r t : Run} {e : Effect} {b : Branch} {o : Outcome}

/-- The count, its main task and its joined producers are the same. -/
structure SameCount (r t : Run) : Prop where
  team : t.team = r.team
  main : t.main = r.main
  joined : t.joined = r.joined

/-- What a step of the listener does. -/
inductive ListenerStep (r : Run) : Run → Prop where
  /-- It hands the next event to the audience. -/
  | hear {e : Stamped} (listening : r.listener = .listening)
      (kept : r.bus.oldest ≤ r.reader.next) (found : r.bus.history[r.reader.next]? = some e) :
      ListenerStep r ({ r with
        reader := ⟨r.reader.next + 1⟩
        audience := (r.audience.emit e).1 }.publish (r.audience.emit e).2)
  /-- It goes on behind what was overwritten. -/
  | lag (listening : r.listener = .listening) (behind : r.reader.next < r.bus.oldest) :
      ListenerStep r { r with reader := ⟨r.bus.oldest⟩ }
  /-- It has read everything. -/
  | look (listening : r.listener = .listening) (read : r.bus.history.size ≤ r.reader.next) :
      ListenerStep r { r with listener := .checkingStop }
  | leave (checking : r.listener = .checkingStop) (stop : r.stop = true) :
      ListenerStep r { r with audience := r.audience.close, listener := .closing }
  | sleep (checking : r.listener = .checkingStop) (stop : r.stop = false) :
      ListenerStep r { r with listener := .asleep }
  | wake (asleep : r.listener = .asleep) : ListenerStep r { r with listener := .listening }
  | finish (closing : r.listener = .closing) : ListenerStep r { r with listener := .gone }

/-- The bus is not closed while the listener is there, because the audience holds an end of it. -/
theorem holders_pos (here : r.listener ≠ .gone) : r.holders ≠ 0 := by
  unfold holders
  rw [if_neg here]
  omega

theorem ListenerStep.of_step (h : r.stepListener = some t) : ListenerStep r t := by
  unfold stepListener at h
  dsimp only at h
  split at h
  next listening =>
    have held : r.holders ≠ 0 := holders_pos (by rw [listening]; rintro ⟨⟩)
    unfold Bus.read at h
    by_cases behind : r.reader.next < r.bus.oldest
    · rw [if_pos (show r.reader.next < ({ r.bus with handles := r.holders } : Bus).oldest
        from behind)] at h
      cases h
      exact .lag listening behind
    · rw [if_neg (show ¬ r.reader.next < ({ r.bus with handles := r.holders } : Bus).oldest
        from behind)] at h
      cases found : r.bus.history[r.reader.next]? with
      | some e =>
        simp only [found] at h
        cases h
        exact .hear listening (Nat.le_of_not_lt behind) found
      | none =>
        simp only [found, if_neg held] at h
        cases h
        exact .look listening (Array.getElem?_eq_none_iff.mp found)
  next checking =>
    cases h
    by_cases stop : r.stop = true
    · rw [if_pos stop]
      exact .leave checking stop
    · rw [if_neg stop]
      exact .sleep checking (by simpa using stop)
  next asleep =>
    obtain ⟨-, ⟨⟩⟩ := Option.ite_none_right_eq_some.mp h
    exact .wake asleep
  next closing =>
    obtain ⟨-, ⟨⟩⟩ := Option.ite_none_right_eq_some.mp h
    exact .finish closing
  next => cases h

theorem stepListener_same (h : r.stepListener = some t) : SameCount r t := by
  cases ListenerStep.of_step h <;> exact ⟨rfl, rfl, rfl⟩

theorem stepWorker_eq_some_iff {i : Nat} :
    r.stepWorker i = some t ↔ ∃ d u, r.audience[i]? = some d ∧
      Desk.State.step ⟨d, []⟩ = some u ∧
      { r with audience := r.audience.set i u.desk }.publish u.events = t := by
  unfold stepWorker
  cases r.audience[i]? with
  | none => simp
  | some d => simp [Option.map_eq_some_iff]

theorem stepWorker_same {i : Nat} (h : r.stepWorker i = some t) : SameCount r t := by
  obtain ⟨d, u, -, -, rfl⟩ := stepWorker_eq_some_iff.mp h
  exact ⟨rfl, rfl, rfl⟩

theorem stepProducer_cases (h : r.stepProducer e = some t) :
    ∃ u, (r.team.producerState e).step = some u ∧ t.team = r.team.putProducer e u ∧
      t.main = r.main ∧ t.joined = if u.producer.ended then r.joined ++ [e] else r.joined := by
  obtain ⟨⟨team, es⟩, hs, rfl⟩ := Option.map_eq_some_iff.mp h
  obtain ⟨u, hu, ⟨⟩⟩ := Option.map_eq_some_iff.mp hs
  refine ⟨u, hu, ?_⟩
  dsimp only
  rw [Team.producer_putProducer_self]
  split <;> exact ⟨rfl, rfl, rfl⟩

/-- What a step of the main task does. -/
inductive MainStep (r : Run) (b : Branch) : Run → Prop where
  | serve {s : Team} {es : List Event} (coordinating : r.main = .coordinating)
      (step : r.team.step (.coordinator b) = some (s, es)) :
      MainStep r b ({ r with team := s }.publish es)
  | overflow (coordinating : r.main = .coordinating)
      (stands : r.team.coordinator.stage = .ended .overflowed) :
      MainStep r b { r with main := .returned .overflowed }
  | join {o : Outcome} (coordinating : r.main = .coordinating)
      (stands : r.team.coordinator.stage = .ended o) : MainStep r b { r with main := .joining o 0 }
  | hear {o : Outcome} {n : Nat} (joining : r.main = .joining o n) (more : n < r.joined.length) :
      MainStep r b { r with main := .joining o (n + 1) }
  | report {o : Outcome} (joining : r.main = .joining o Effect.all.length) :
      MainStep r b { r.publish (counterReport o) with main := .stopping o }
  | stop {o : Outcome} (stopping : r.main = .stopping o) :
      MainStep r b { r with stop := true, main := .awaiting o }
  | finish {o : Outcome} (awaiting : r.main = .awaiting o) (gone : r.listener = .gone) :
      MainStep r b { r with main := .returned o }

theorem MainStep.of_step (h : r.stepMain b = some t) : MainStep r b t := by
  unfold stepMain at h
  split at h
  next coordinating =>
    split at h
    next stands =>
      cases h
      exact .overflow coordinating stands
    next stands =>
      cases h
      exact .join coordinating stands
    next =>
      obtain ⟨⟨s, es⟩, hs, rfl⟩ := Option.map_eq_some_iff.mp h
      exact .serve coordinating hs
  next joining =>
    split at h
    next more =>
      cases h
      exact .hear joining more
    next =>
      obtain ⟨all, ⟨⟩⟩ := Option.ite_none_right_eq_some.mp h
      exact .report (all ▸ joining)
  next stopping =>
    cases h
    exact .stop stopping
  next awaiting =>
    obtain ⟨gone, ⟨⟩⟩ := Option.ite_none_right_eq_some.mp h
    exact .finish awaiting gone
  next => cases h

/-- The main task goes on with the outcome of the coordinator. -/
structure GoesOn (r t : Run) (o : Outcome) : Prop where
  team : t.team = r.team
  joined : t.joined = r.joined
  outcome : t.main.outcome? = some o
  stands : r.main.outcome? = some o ∨ r.team.coordinator.stage = .ended o
  heard : r.main.heard ≤ r.joined.length → t.main.heard ≤ r.joined.length

theorem stepMain_cases (h : r.stepMain b = some t) :
    (∃ s es, r.main = .coordinating ∧ r.team.step (.coordinator b) = some (s, es) ∧
      t = { r with team := s }.publish es) ∨ ∃ o, GoesOn r t o := by
  cases MainStep.of_step h with
  | serve coordinating step => exact .inl ⟨_, _, coordinating, step, rfl⟩
  | overflow _ stands | join _ stands =>
    exact .inr ⟨_, rfl, rfl, rfl, .inr stands, fun _ => Nat.zero_le _⟩
  | hear joining more =>
    exact .inr ⟨_, rfl, rfl, rfl, .inl (congrArg MainStage.outcome? joining), fun _ => more⟩
  | report joining | stop joining =>
    refine .inr ⟨_, rfl, rfl, rfl, .inl (congrArg MainStage.outcome? joining), fun le => ?_⟩
    rwa [joining] at le
  | @finish o awaiting =>
    refine .inr ⟨_, rfl, rfl, rfl, .inl (congrArg MainStage.outcome? awaiting), fun le => ?_⟩
    rw [awaiting] at le
    cases o with
    | overflowed => exact Nat.zero_le _
    | counted l => exact le
    | lost n => exact le

/-! ## Schedules -/

/-- What can happen next in a run. -/
inductive Deed where
  | move (move : Move)
  /-- The turn of a producer ends before a send, which keeps its place. -/
  | takePlace (effect : Effect)
  deriving DecidableEq, Repr

/-- One deed, undefined where its task waits or has ended. -/
def act (r : Run) : Deed → Option Run
  | .move m => r.step m
  | .takePlace e =>
    if (r.team.producer e).sends && (r.team.producer e).place.isNone then
      some { r with team := r.team.putProducer e (r.team.producerState e).takePlace }
    else none

theorem start_of_toOption {c : Config} {acts : Effect → List Act} {subscribers : List Subscriber}
    {size : SlotSize} (h : (Run.start c acts subscribers size).toOption = some r) :
    Run.start c acts subscribers size = .ok r := by
  cases hs : Run.start c acts subscribers size with
  | error =>
    rw [hs] at h
    cases h
  | ok =>
    rw [hs] at h
    cases h
    rfl

end Run

end SharedCounter
