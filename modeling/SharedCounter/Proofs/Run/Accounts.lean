import Mathlib.Data.List.Perm.Subperm
import SharedCounter.Proofs.Run.Change
import SharedCounter.Proofs.Schedule
import SharedCounter.Proofs.Team.Accounts
import SharedCounter.Proofs.Team.Verdicts

/-!
# A broken producer never yields a wrong value

* `Run.Joins r` : the main task has the outcome of the coordinator, and the producers that it has
  heard of have ended;
* `TracedSends`, `TracedSends.act` : a run together with what each producer has sent in it, in
  order;
* `TracedSends.Sound` : the accounts of the team are those of what was sent, and nothing was sent
  that the acts of a producer do not send (`TracedSends.inOrder_of_items`);
* `TracedSends.counts_sent` : whatever the producers do, a run that returns a value has counted what
  was sent, and both producers have finished.
-/

namespace SharedCounter

namespace Run

variable {r t : Run} {e : Effect} {o : Outcome} {l : Ledger} {wording : CrashWording}

/-! ## Joining -/

/-- The main task has the outcome of the coordinator and has joined producers that have ended. -/
structure Joins (r : Run) : Prop where
  outcome : ∀ o, r.main.outcome? = some o → r.team.coordinator.stage = .ended o
  nodup : r.joined.Nodup
  ended : ∀ e ∈ r.joined, (r.team.producer e).ended = true
  heard : r.main.heard ≤ r.joined.length

theorem Joins.congr (h : r.Joins) (same : SameCount r t) : t.Joins := by
  obtain ⟨team, main, joined⟩ := same
  refine ⟨?_, ?_, ?_, ?_⟩
  · rw [team, main]
    exact h.outcome
  · rw [joined]
    exact h.nodup
  · rw [team, joined]
    exact h.ended
  · rw [main, joined]
    exact h.heard

/-- A producer that takes a step has not joined. -/
theorem Joins.not_mem {u : Producer.State} (h : r.Joins)
    (step : (r.team.producerState e).step = some u) : e ∉ r.joined := by
  intro mem
  have stuck := Producer.State.step_eq_none_iff.mpr
    (.inl (h.ended e mem) : (r.team.producerState e).producer.ended = true ∨ _)
  rw [stuck] at step
  cases step

theorem Joins.stepProducer (h : r.Joins) (step : r.stepProducer e = some t) : t.Joins := by
  obtain ⟨u, hu, team, main, joined⟩ := stepProducer_cases step
  have fresh := h.not_mem hu
  have others : ∀ f ∈ r.joined, (t.team.producer f).ended = true := by
    intro f mem
    have ne : f ≠ e := fun same => fresh (same ▸ mem)
    rw [team, Team.producer_putProducer_of_ne _ _ ne]
    exact h.ended f mem
  have outcome : ∀ o, t.main.outcome? = some o → t.team.coordinator.stage = .ended o := by
    rw [team, main, Team.coordinator_putProducer]
    exact h.outcome
  by_cases last : u.producer.ended = true
  · rw [if_pos last] at joined
    refine ⟨outcome, ?_, fun f mem => ?_, ?_⟩
    · rw [joined, ← List.concat_eq_append]
      exact h.nodup.concat fresh
    · rw [joined, List.mem_append, List.mem_singleton] at mem
      rcases mem with early | rfl
      · exact others f early
      · rw [team, Team.producer_putProducer_self]
        exact last
    · rw [main, joined, List.length_append]
      exact Nat.le_add_right_of_le h.heard
  · rw [if_neg last] at joined
    rw [← joined] at others
    refine ⟨outcome, joined ▸ h.nodup, others, ?_⟩
    rw [main, joined]
    exact h.heard

/-- A producer whose next act is a send has not joined. -/
theorem Joins.takePlace (h : r.Joins) (sends : (r.team.producer e).sends = true) :
    Joins { r with team := r.team.putProducer e (r.team.producerState e).takePlace } := by
  obtain ⟨i, sending⟩ := Producer.exists_sending? sends
  obtain ⟨going, -⟩ := Producer.of_sending? sending
  refine ⟨?_, h.nodup, fun f mem => ?_, h.heard⟩
  · show ∀ o, r.main.outcome? = some o → (r.team.putProducer e _).coordinator.stage = .ended o
    rw [Team.coordinator_putProducer]
    exact h.outcome
  · have ended := h.ended f mem
    have ne : f ≠ e := by
      rintro rfl
      rw [Producer.ended, going] at ended
      cases ended
    show ((r.team.putProducer e _).producer f).ended = true
    rw [Team.producer_putProducer_of_ne _ _ ne]
    exact ended

theorem Joins.stepMain {b : Branch} (h : r.Joins) (step : r.stepMain b = some t) : t.Joins := by
  rcases stepMain_cases step with ⟨s, es, coordinating, hs, rfl⟩ | ⟨o, on⟩
  · obtain ⟨v, hv, ⟨⟩⟩ := Option.map_eq_some_iff.mp hs
    refine ⟨fun o decided => ?_, h.nodup, h.ended, h.heard⟩
    have undecided : r.main.outcome? = some o := decided
    rw [coordinating] at undecided
    cases undecided
  · refine ⟨fun o' decided => ?_, ?_, ?_, ?_⟩
    · rw [on.outcome] at decided
      cases decided
      rw [on.team]
      rcases on.stands with known | stands
      · exact h.outcome o known
      · exact stands
    · rw [on.joined]
      exact h.nodup
    · rw [on.team, on.joined]
      exact h.ended
    · rw [on.joined]
      exact on.heard h.heard

theorem Joins.mem (h : r.Joins) (all : Effect.all.length ≤ r.joined.length) (e : Effect) :
    e ∈ r.joined := by
  by_contra absent
  have others : r.joined ⊆ Effect.all.erase e := by
    intro f mem
    refine (List.mem_erase_of_ne ?_).mpr (Effect.mem_all f)
    rintro rfl
    exact absent mem
  have few := (h.nodup.subperm others).length_le
  rw [List.length_erase_of_mem (Effect.mem_all e)] at few
  simp only [Effect.all, List.length_cons, List.length_nil] at all few
  omega

/-! ## Results -/

theorem Joins.start {c : Config} {acts : Effect → List Act} {subscribers : List Subscriber}
    {size : SlotSize} (start : Run.start c acts subscribers size = .ok r) :
    r.Joins ∧ r.team = Team.start c acts := by
  unfold Run.start at start
  split at start
  · cases start
  · split at start
    · cases start
    · cases start
      exact ⟨⟨by rintro _ ⟨⟩, List.nodup_nil, by rintro _ ⟨⟩, Nat.le_refl _⟩, rfl⟩

/-- A run returns a count if its main task does and no producer has crashed or failed. -/
theorem result?_eq_ok_iff : r.result? wording = some (.returned (.ok l)) ↔
    r.main = .returned (.counted l) ∧ r.team.crash? wording r.joined = none ∧
      r.team.failure? r.joined = none := by
  constructor
  · intro result
    unfold result? at result
    split at result
    · cases result
    · cases result
    next counted returned =>
      split at result
      · cases result
      next fine =>
        cases result
        exact ⟨returned, by simpa using fine⟩
    next => cases result
  · rintro ⟨returned, crash, failure⟩
    rw [result?, returned, crash, failure]
    rfl

/-- Whoever has joined a run that returns a count has finished. -/
theorem Joins.finished (h : r.Joins) (result : r.result? wording = some (.returned (.ok l)))
    (e : Effect) : (r.team.producer e).verdict = some .finished := by
  obtain ⟨returned, crash, failure⟩ := result?_eq_ok_iff.mp result
  have heard := h.heard
  rw [returned] at heard
  have joined := h.mem heard e
  obtain ⟨v, verdict, -⟩ := Producer.of_ended (h.ended e joined)
  cases v with
  | finished => exact verdict
  | crashed m => exact absurd verdict (Team.crash?_eq_none_iff.mp crash e joined m)
  | failed d => exact absurd verdict (Team.failure?_eq_none_iff.mp failure e joined d)

end Run

/-! ## Runs and what was sent in them -/

/-- A run, and what each producer has sent in it, in order. -/
structure TracedSends where
  run : Run
  sent : Effect → List Item := fun _ => []

namespace TracedSends

/-- What the producers have sent after a deed. -/
def sentAfter (j : TracedSends) : Run.Deed → Effect → List Item
  | .move (.task (.producer e)) =>
    Function.update j.sent e (j.sent e ++ (j.run.team.producerState e).delivers?.toList)
  | _ => j.sent

/-- One deed, undefined where its task waits or has ended. -/
def act (j : TracedSends) (d : Run.Deed) : Option TracedSends :=
  (j.run.act d).map fun run => { run, sent := j.sentAfter d }

/-- The accounts of the team are those of what was sent, and this is what the acts send. -/
structure Sound (initial : Int) (acts : Effect → List Act) (j : TracedSends) : Prop where
  joins : j.run.Joins
  accounts : j.run.team.coordinator.outcome? ≠ some .overflowed →
    j.run.team.Accounts initial j.sent
  owed : ∀ e, (j.sent e ++ (j.run.team.producer e).owed).Sublist (Act.items (acts e))

variable {initial : Int} {acts : Effect → List Act} {c : Config} {subscribers : List Subscriber}
  {size : SlotSize} {wording : CrashWording}
  {r₀ : Run} {j k : TracedSends} {l : Ledger}

theorem Sound.start (start : Run.start c acts subscribers size = .ok r₀) :
    Sound c.initial acts { run := r₀ } := by
  obtain ⟨joins, team⟩ := Run.Joins.start start
  refine ⟨joins, fun _ => ?_, fun e => ?_⟩
  · rw [team]
    exact .start c acts
  · rw [team]
    cases e <;> exact List.Sublist.refl _

/-- Tasks beside the team. -/
theorem Sound.congr {t : Run} (h : Sound initial acts j) (same : Run.SameCount j.run t) :
    Sound initial acts { j with run := t } := by
  refine ⟨h.joins.congr same, ?_, ?_⟩
  · rw [same.team]
    exact h.accounts
  · rw [same.team]
    exact h.owed

/-- What comes through in a step of a producer is accounted for. -/
theorem Sound.stepProducer {e : Effect} {t : Run} (h : Sound initial acts j)
    (step : j.run.stepProducer e = some t) :
    Sound initial acts { run := t, sent := j.sentAfter (.move (.task (.producer e))) } := by
  obtain ⟨u, hu, team, -, -⟩ := Run.stepProducer_cases step
  have change := Producer.State.Change.of_step hu
  refine ⟨h.joins.stepProducer step, fun fine => ?_, fun f => ?_⟩
  · dsimp only at fine ⊢
    rw [team] at fine ⊢
    rw [Team.coordinator_putProducer] at fine
    exact (h.accounts fine).stepProducer fine change
  · dsimp only [sentAfter]
    rw [team]
    by_cases same : f = e
    · subst same
      rw [Team.producer_putProducer_self, Function.update_self, List.append_assoc]
      exact (change.owed.append_left _).trans (h.owed f)
    · rw [Team.producer_putProducer_of_ne _ _ same, Function.update_of_ne same]
      exact h.owed f

theorem Sound.takePlace {e : Effect} (h : Sound initial acts j)
    (sends : (j.run.team.producer e).sends = true) :
    Sound initial acts { j with
      run := { j.run with
        team := j.run.team.putProducer e (j.run.team.producerState e).takePlace } } := by
  refine ⟨h.joins.takePlace sends, fun fine => ?_, fun f => ?_⟩
  · have fine : j.run.team.coordinator.outcome? ≠ some .overflowed := by
      rw [← Team.coordinator_putProducer j.run.team e]
      exact fine
    exact (h.accounts fine).takePlace fine
  · by_cases same : f = e
    · subst same
      dsimp only
      rw [Team.producer_putProducer_self, Producer.owed_takePlace]
      exact h.owed f
    · dsimp only
      rw [Team.producer_putProducer_of_ne _ _ same]
      exact h.owed f

/-- The main task moves on. -/
theorem Sound.stepMain {b : Branch} {t : Run} (h : Sound initial acts j)
    (step : j.run.stepMain b = some t) : Sound initial acts { j with run := t } := by
  refine ⟨h.joins.stepMain step, ?_, ?_⟩ <;>
    rcases Run.stepMain_cases step with ⟨s, es, -, hs, rfl⟩ | ⟨o, on⟩
  · obtain ⟨v, hv, ⟨⟩⟩ := Option.map_eq_some_iff.mp hs
    intro fine
    have change := Coordinator.State.Change.of_step hv
    exact (h.accounts (change.fine fine)).stepCoordinator change fine
  · rw [on.team]
    exact h.accounts
  · obtain ⟨v, -, ⟨⟩⟩ := Option.map_eq_some_iff.mp hs
    exact h.owed
  · rw [on.team]
    exact h.owed

theorem Sound.act {d : Run.Deed} (h : Sound initial acts j) (act : j.act d = some k) :
    Sound initial acts k := by
  obtain ⟨t, step, rfl⟩ := Option.map_eq_some_iff.mp act
  rcases d with ((_ | _ | e) | b) | e
  · exact h.congr (Run.stepWorker_same step)
  · exact h.congr (Run.stepListener_same step)
  · exact h.stepProducer step
  · exact h.stepMain step
  · obtain ⟨ready, ⟨⟩⟩ := Option.ite_none_right_eq_some.mp step
    exact h.takePlace (Bool.and_eq_true_iff.mp ready).1

theorem sound_of_follow {deeds : List Run.Deed} (start : Run.start c acts subscribers size = .ok r₀)
    (h : follow act { run := r₀ } deeds = some j) : Sound c.initial acts j :=
  follow_invariant (fun _ _ _ act h => h.act act) h (.start start)

/-- Acts that send nothing after a completion are kept to. -/
theorem inOrder_of_items {deeds : List Run.Deed} (start : Run.start c acts subscribers size = .ok r₀)
    (h : follow act { run := r₀ } deeds = some j)
    (order : ∀ e, Item.InOrder (Act.items (acts e))) (e : Effect) : Item.InOrder (j.sent e) := by
  have less := (sound_of_follow start h).owed e
  exact (order e).sublist ((List.sublist_append_left _ _).trans less)

/-- Whatever the producers do, as long as neither sends anything after a completion: a run that
returns a value has both producers finished and one completion of each, and it counts every signal
that was sent. -/
theorem counts_sent {deeds : List Run.Deed} (start : Run.start c acts subscribers size = .ok r₀)
    (h : follow act { run := r₀ } deeds = some j) (order : ∀ e, Item.InOrder (j.sent e))
    (result : j.run.result? wording = some (.returned (.ok l))) :
    (∀ e, (j.run.team.producer e).verdict = some .finished ∧
      (j.sent e).count .completion = 1) ∧
    l.completions = 2 ∧ l.increments = (j.sent .increment).count .signal ∧
    l.decrements = (j.sent .decrement).count .signal ∧
    l.value = c.initial + l.increments - l.decrements := by
  have sound := sound_of_follow start h
  obtain ⟨returned, -⟩ := Run.result?_eq_ok_iff.mp result
  have ended := sound.joins.outcome (.counted l) (by rw [returned]; rfl)
  have counted := Coordinator.outcome?_of_ended ended
  have accounts := sound.accounts (by rw [counted]; rintro ⟨⟩)
  obtain ⟨completions, all, signals, value⟩ := accounts.counted order counted
  exact ⟨fun e => ⟨sound.joins.finished result e, completions e⟩, all, signals .increment,
    signals .decrement, value⟩

/-- One producer lets go of its signals before its completion, the other goes on after it. -/
theorem counts_sent_of_early :
    let c : Config :=
      { initial := 7, signalCapacity := 1, completionCapacity := 1, busCapacity := 16 }
    let acts : Effect → List Act
      | .increment => [.send 2, .dropSignals, .complete]
      | .decrement => [.complete, .send 0, .dropCompletion]
    let up : Run.Deed := .move (.task (.producer .increment))
    let down : Run.Deed := .move (.task (.producer .decrement))
    let main : Branch → Run.Deed := fun b => .move (.main b)
    let listen : Run.Deed := .move (.task .listener)
    let deeds := [up, .takePlace .increment] ++ List.replicate 5 down ++ [main (.signals .first)]
      ++ List.replicate 4 up ++ [main (.signals .first), main (.signals .first),
        main (.signals .second), main .completions]
      ++ List.replicate 3 up ++ List.replicate 10 (main .completions) ++ List.replicate 7 listen
      ++ List.replicate 6 (.move (.task (.worker 0))) ++ [listen, main .completions]
    ∃ r₀ j l, Run.start c acts [] = .ok r₀ ∧ follow act { run := r₀ } deeds = some j ∧
      j.run.result? = some (.returned (.ok l)) ∧ l.completions = 2 ∧ l.increments = 2 ∧
      l.decrements = 0 ∧ l.value = 7 + l.increments - l.decrements := by
  intro c acts up down main listen deeds
  have seen : ((Run.start c acts []).toOption.bind fun r =>
      (follow act { run := r } deeds).map fun j =>
        (j.run.main, (j.run.team.crash? .unnumbered j.run.joined).isNone,
          (j.run.team.failure? j.run.joined).isNone, j.sent .increment, j.sent .decrement))
      = some (.returned (.counted { value := 9, increments := 2, completions := 2 }), true, true,
        [.signal, .signal, .completion], [.completion]) := by decide +kernel
  obtain ⟨r₀, started, followed⟩ := Option.bind_eq_some_iff.mp seen
  obtain ⟨j, h, same⟩ := Option.map_eq_some_iff.mp followed
  simp only [Prod.mk.injEq, Option.isNone_iff_eq_none] at same
  obtain ⟨returned, crash, failure, sent_up, sent_down⟩ := same
  have start := Run.start_of_toOption started
  have result := Run.result?_eq_ok_iff.mpr ⟨returned, crash, failure⟩
  have order : ∀ e, Item.InOrder (j.sent e) :=
    inOrder_of_items start h (by rintro (_ | _) <;> decide)
  obtain ⟨-, completions, increments, decrements, value⟩ := counts_sent start h order result
  rw [sent_up] at increments
  rw [sent_down] at decrements
  exact ⟨r₀, j, _, start, h, result, completions, increments, decrements, value⟩

end TracedSends

end SharedCounter
