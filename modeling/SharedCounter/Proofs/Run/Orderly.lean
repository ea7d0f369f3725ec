import SharedCounter.Proofs.Run.Change
import SharedCounter.Proofs.Team.Orderly
import SharedCounter.Proofs.Team.Verdicts

/-!
# Runs of orderly producers count everything

* `Reachable r₀ r` : `r` comes of `r₀` by single steps in any order, by sends that take a place in
  a queue and use it later, and by whole turns. What a run is executed to is reachable
  (`reachable_execute`);
* `Orderly n initial r` : the team of the run `r` is orderly, and the main task has the outcome of
  its coordinator. Every step, every turn and every schedule keeps it (`Orderly.of_reachable`);
* `counts_all_of_reachable` : whatever the schedule and the capacities, a run that returns has
  counted every signal once.
-/

namespace SharedCounter

namespace Run

/-! ## Schedules -/

/-- The runs that come of `r₀` under some schedule. -/
inductive Reachable (r₀ : Run) : Run → Prop where
  | refl : Reachable r₀ r₀
  | step {r t : Run} {m : Move} (reach : Reachable r₀ r) (h : r.step m = some t) : Reachable r₀ t
  /-- The turn of a producer ends before a send, which keeps its place. -/
  | takePlace {r : Run} {e : Effect} (reach : Reachable r₀ r)
      (sends : (r.team.producer e).sends = true) (fresh : (r.team.producer e).place = none) :
      Reachable r₀ { r with
        team := r.team.putProducer e (r.team.producerState e).takePlace }
  | tick {r t : Run} (reach : Reachable r₀ r) (h : r.tick = some t) : Reachable r₀ t

theorem Reachable.ticks {r₀ r : Run} (reach : Reachable r₀ r) (n : Nat) :
    Reachable r₀ (advance Run.tick n r) :=
  advance_invariant (fun _ _ h reach => .tick reach h) n reach

theorem reachable_execute (r : Run) : Reachable r r.execute := Reachable.ticks .refl _

/-! ## Orderly runs -/

/-- A run of two orderly producers of `n` signals. -/
structure Orderly (n : Nat) (initial : Int) (r : Run) : Prop where
  team : ∃ sent completed, r.team.Orderly n initial sent completed
  main : ∀ o, r.main.outcome? = some o → r.team.coordinator.stage = .ended o

variable {n : Nat} {initial : Int} {wording : CrashWording} {r t : Run}

theorem Orderly.congr (h : Orderly n initial r) (team : t.team = r.team) (main : t.main = r.main) :
    Orderly n initial t := by
  refine ⟨?_, ?_⟩
  · rw [team]
    exact h.team
  · rw [team, main]
    exact h.main

/-! ## Producers -/

theorem Orderly.putProducer {e : Effect} {u : Producer.State} (h : Orderly n initial r)
    (team : ∃ sent completed, (r.team.putProducer e u).Orderly n initial sent completed) :
    Orderly n initial { r with team := r.team.putProducer e u } := by
  refine ⟨team, ?_⟩
  have coordinator : (r.team.putProducer e u).coordinator = r.team.coordinator := by
    cases e <;> rfl
  show ∀ o, r.main.outcome? = some o → (r.team.putProducer e u).coordinator.stage = .ended o
  rw [coordinator]
  exact h.main

theorem Orderly.stepProducer {e : Effect} (h : Orderly n initial r)
    (step : r.stepProducer e = some t) : Orderly n initial t := by
  obtain ⟨u, hu, team, main, -⟩ := stepProducer_cases step
  obtain ⟨sent, completed, orderly⟩ := h.team
  rw [← Team.putProducer_producerState r.team e] at orderly
  exact (h.putProducer (orderly.producer (.of_step hu))).congr team main

theorem Orderly.takePlace {e : Effect} (h : Orderly n initial r) :
    Orderly n initial { r with
      team := r.team.putProducer e (r.team.producerState e).takePlace } := by
  obtain ⟨sent, completed, orderly⟩ := h.team
  rw [← Team.putProducer_producerState r.team e] at orderly
  exact h.putProducer orderly.takePlace

/-! ## The main task -/

theorem Orderly.coordinate {b : Branch} {s : Team} {es : List Event} (h : Orderly n initial r)
    (up : initial + n ≤ counterMax) (down : counterMin ≤ initial - n)
    (coordinating : r.main = .coordinating)
    (step : r.team.step (.coordinator b) = some (s, es)) :
    Orderly n initial ({ r with team := s }.publish es) := by
  obtain ⟨u, hu, hs⟩ := Option.map_eq_some_iff.mp step
  cases hs
  obtain ⟨sent, completed, orderly⟩ := h.team
  refine ⟨⟨sent, completed, orderly.coordinator up down (.of_step hu)⟩, fun o ho => ?_⟩
  have undecided : r.main.outcome? = some o := ho
  rw [coordinating] at undecided
  cases undecided

theorem Orderly.goOn {o : Outcome} (h : Orderly n initial r) (on : GoesOn r t o) :
    Orderly n initial t := by
  refine ⟨by rw [on.team]; exact h.team, fun o' ho => ?_⟩
  rw [on.outcome] at ho
  cases ho
  rw [on.team]
  rcases on.stands with known | stands
  · exact h.main o known
  · exact stands

theorem Orderly.stepMain {b : Branch} (h : Orderly n initial r) (up : initial + n ≤ counterMax)
    (down : counterMin ≤ initial - n) (step : r.stepMain b = some t) : Orderly n initial t := by
  rcases stepMain_cases step with ⟨s, es, coordinating, hs, rfl⟩ | ⟨o, on⟩
  · exact h.coordinate up down coordinating hs
  · exact h.goOn on

/-- Every step of every task keeps a run orderly. -/
theorem Orderly.step {m : Move} (h : Orderly n initial r) (up : initial + n ≤ counterMax)
    (down : counterMin ≤ initial - n) (step : r.step m = some t) : Orderly n initial t := by
  rcases m with (_ | _ | e) | b
  · obtain ⟨team, main, -⟩ := stepWorker_same step
    exact h.congr team main
  · obtain ⟨team, main, -⟩ := stepListener_same step
    exact h.congr team main
  · exact h.stepProducer step
  · exact h.stepMain up down step

/-! ## Turns -/

theorem turnWorker_same (r : Run) (i : Nat) :
    (r.turnWorker i).team = r.team ∧ (r.turnWorker i).main = r.main := by
  unfold turnWorker
  split
  · dsimp only
    split <;> exact ⟨rfl, rfl⟩
  · exact ⟨rfl, rfl⟩

theorem Orderly.turnListener (h : Orderly n initial r) : Orderly n initial r.turnListener := by
  have kept : Orderly n initial
      (advance listenerStepWithin listenerEffort (r, turnLength)).1 := by
    refine advance_invariant (P := fun u : Run × Nat => Orderly n initial u.1) ?_ _ h
    intro ⟨u, budget⟩ v step hu
    simp only [listenerStepWithin] at step
    split at step
    · cases budget with
      | zero => cases step
      | succ left =>
        obtain ⟨w, hw, rfl⟩ := Option.map_eq_some_iff.mp step
        obtain ⟨team, main, -⟩ := stepListener_same hw
        exact hu.congr team main
    · obtain ⟨w, hw, rfl⟩ := Option.map_eq_some_iff.mp step
      obtain ⟨team, main, -⟩ := stepListener_same hw
      exact hu.congr team main
  unfold Run.turnListener
  dsimp only
  split
  · exact kept.congr rfl rfl
  · exact kept

theorem Orderly.turnProducer (h : Orderly n initial r) (e : Effect) :
    Orderly n initial (r.turnProducer e) := by
  have kept : ∃ sent completed, (r.team.putProducer e
      (advance producerStepWithin (r.team.producer e).effort
        (r.team.producerState e, turnLength)).1).Orderly n initial sent completed := by
    refine advance_invariant
      (P := fun u : Producer.State × Nat => ∃ sent completed,
        (r.team.putProducer e u.1).Orderly n initial sent completed)
      ?_ _ ?_
    · intro ⟨u, budget⟩ v step ⟨sent, completed, hu⟩
      simp only [producerStepWithin] at step
      split at step
      · cases budget with
        | zero => cases step
        | succ left =>
          obtain ⟨w, hw, rfl⟩ := Option.map_eq_some_iff.mp step
          exact hu.producer (.of_step hw)
      · obtain ⟨w, hw, rfl⟩ := Option.map_eq_some_iff.mp step
        exact hu.producer (.of_step hw)
    · rw [Team.putProducer_producerState]
      exact h.team
  unfold Run.turnProducer
  dsimp only [Team.producerState] at kept ⊢
  generalize (advance producerStepWithin _ _).1 = u at kept ⊢
  have placed : ∃ sent completed, (r.team.putProducer e
      (if u.producer.sends && u.producer.place.isNone then u.takePlace else u)).Orderly
        n initial sent completed := by
    obtain ⟨sent, completed, orderly⟩ := kept
    split
    · exact orderly.takePlace
    · exact ⟨sent, completed, orderly⟩
  generalize (if u.producer.sends && u.producer.place.isNone then u.takePlace else u) = v
    at placed ⊢
  have moved := h.putProducer placed
  split
  · exact moved.congr rfl rfl
  · split
    · exact moved.congr rfl rfl
    · exact moved.congr rfl rfl

theorem Orderly.stepMainAny (h : Orderly n initial r) (up : initial + n ≤ counterMax)
    (down : counterMin ≤ initial - n) (step : r.stepMainAny = some t) : Orderly n initial t := by
  obtain ⟨b, -, hb⟩ := List.exists_of_findSome?_eq_some step
  exact h.stepMain up down hb

theorem Orderly.turnMain (h : Orderly n initial r) (up : initial + n ≤ counterMax)
    (down : counterMin ≤ initial - n) : Orderly n initial r.turnMain := by
  unfold Run.turnMain
  refine advance_invariant (P := fun u : Run × Nat => Orderly n initial u.1) ?_ _ h
  intro ⟨u, budget⟩ v step hu
  simp only [mainStepWithin] at step
  split at step
  · cases budget with
    | zero => cases step
    | succ left =>
      obtain ⟨w, hw, rfl⟩ := Option.map_eq_some_iff.mp step
      exact (hu.stepMainAny up down hw).congr rfl rfl
  · obtain ⟨w, hw, rfl⟩ := Option.map_eq_some_iff.mp step
    exact (hu.stepMainAny up down hw).congr rfl rfl

theorem Orderly.turn (h : Orderly n initial r) (task : Task) : Orderly n initial (r.turn task) := by
  rcases task with i | _ | e
  · obtain ⟨team, main⟩ := turnWorker_same r i
    exact h.congr team main
  · exact h.turnListener
  · exact h.turnProducer e

theorem Orderly.tick (h : Orderly n initial r) (up : initial + n ≤ counterMax)
    (down : counterMin ≤ initial - n) (step : r.tick = some t) : Orderly n initial t := by
  unfold Run.tick at step
  split at step
  · cases step
  next task rest _ _ =>
    cases step
    have queued : Orderly n initial { r with queue := rest } := h.congr rfl rfl
    exact (queued.turn task).congr rfl rfl
  next =>
    split at step
    · cases step
      have queued : Orderly n initial { r with queue := r.deferred.reverse, deferred := [] } :=
        h.congr rfl rfl
      exact queued.turnMain up down
    · cases step

/-! ## Whole runs -/

theorem Orderly.start {c : Config} {subscribers : List Subscriber} {size : SlotSize}
    (start : Run.start c (Team.orderlyActs c) subscribers size = .ok r) :
    Orderly c.iterations c.initial r := by
  unfold Run.start at start
  split at start
  · cases start
  · split at start
    · cases start
    · cases start
      exact ⟨⟨_, _, Team.Orderly.start⟩, by rintro _ ⟨⟩⟩

/-- Whatever the schedule, the run stays orderly. -/
theorem Orderly.of_reachable {r₀ : Run} (h : Orderly n initial r₀)
    (up : initial + n ≤ counterMax) (down : counterMin ≤ initial - n) (reach : Reachable r₀ r) :
    Orderly n initial r := by
  induction reach with
  | refl => exact h
  | step _ step ih => exact ih.step up down step
  | takePlace _ _ _ ih => exact ih.takePlace
  | tick _ step ih => exact ih.tick up down step

theorem Orderly.verdict_eq (h : Orderly n initial r) {e : Effect} {v : Verdict}
    (verdict : (r.team.producer e).verdict = some v) : v = .finished := by
  obtain ⟨sent, completed, orderly⟩ := h.team
  exact (orderly.producers e).verdict_eq verdict

theorem Orderly.crash?_eq_none (h : Orderly n initial r) :
    r.team.crash? wording r.joined = none := by
  refine Team.crash?_eq_none_iff.mpr fun e _ m crashed => ?_
  cases h.verdict_eq crashed

theorem Orderly.failure?_eq_none (h : Orderly n initial r) : r.team.failure? r.joined = none := by
  refine Team.failure?_eq_none_iff.mpr fun e _ d failed => ?_
  cases h.verdict_eq failed

/-- An orderly run that has returned has returned the books of a full count. -/
theorem Orderly.result (h : Orderly n initial r) {res : Result}
    (result : r.result? wording = some res) :
    ∃ l, res = .returned (.ok l) ∧ Team.Full n initial l := by
  unfold Run.result? at result
  rw [h.crash?_eq_none, h.failure?_eq_none] at result
  obtain ⟨sent, completed, orderly⟩ := h.team
  have outcome : ∀ {o}, r.main = .returned o → ∃ l, o = .counted l ∧ Team.Full n initial l := by
    intro o returned
    refine orderly.outcome ?_
    rw [Coordinator.outcome?, h.main o (by rw [returned]; rfl)]
  split at result
  next returned =>
    obtain ⟨l, hl, -⟩ := outcome returned
    cases hl
  next returned =>
    obtain ⟨l, hl, -⟩ := outcome returned
    cases hl
  next l returned =>
    obtain ⟨_, hl, full⟩ := outcome returned
    cases hl
    cases result
    exact ⟨l, rfl, full⟩
  next => cases result

/-- No update is lost: under every schedule and with all capacities the coordinator never overflows
and loses no completion, no producer fails, and a run that returns has counted every signal once. -/
theorem counts_all_of_reachable {c : Config} {subscribers : List Subscriber} {size : SlotSize}
    {r₀ r : Run} (up : c.initial + c.iterations ≤ counterMax)
    (down : counterMin ≤ c.initial - c.iterations)
    (start : Run.start c (Team.orderlyActs c) subscribers size = .ok r₀) (reach : Reachable r₀ r) :
    (∀ o, r.team.coordinator.outcome? = some o → ∃ l, o = .counted l) ∧
    (∀ e v, (r.team.producer e).verdict = some v → v = .finished) ∧
    ∀ wording res, r.result? wording = some res → ∃ l, res = .returned (.ok l) ∧
      l.value = c.initial ∧ l.value = c.expected ∧
      l.increments = c.iterations ∧ l.decrements = c.iterations ∧ l.completions = 2 ∧
      l.applied? = some (2 * c.iterations) ∧ l.drained ≤ 2 * c.iterations := by
  have h := (Orderly.start start).of_reachable up down reach
  refine ⟨fun o outcome => ?_, fun e v verdict => h.verdict_eq verdict,
    fun wording res result => ?_⟩
  · obtain ⟨sent, completed, orderly⟩ := h.team
    obtain ⟨l, hl, -⟩ := orderly.outcome outcome
    exact ⟨l, hl⟩
  · obtain ⟨l, hl, full⟩ := h.result result
    have total : 2 * c.iterations ≤ countMax := by
      unfold counterMax at up
      unfold counterMin at down
      unfold countMax
      omega
    have applied : l.applied? = some (2 * c.iterations) := by
      refine Ledger.applied?_eq_some_iff.mpr ⟨?_, total⟩
      rw [full.increments, full.decrements]
      omega
    exact ⟨l, hl, full.value, full.value, full.increments, full.decrements, full.completions,
      applied, full.drained⟩

/-- A run at the edge of the range, with one channel too large to be had. -/
theorem counts_all_of_execute :
    let c : Config :=
      { iterations := 5, initial := counterMin + 5, signalCapacity := 7,
        completionCapacity := slotMax + 1 }
    ∃ r₀ l, Run.start c (Team.orderlyActs c) [] = .ok r₀ ∧
      r₀.execute.result? = some (.returned (.ok l)) ∧ l.value = counterMin + 5 ∧
      l.increments = 5 ∧ l.decrements = 5 := by
  intro c
  have executed : ((Run.start c (Team.orderlyActs c) []).toOption.bind
      fun r => r.execute.result?).isSome = true := by decide +kernel
  cases start : Run.start c (Team.orderlyActs c) [] with
  | error =>
    rw [start] at executed
    cases executed
  | ok r₀ =>
    rw [start] at executed
    obtain ⟨res, result⟩ := Option.isSome_iff_exists.mp executed
    obtain ⟨-, -, counts⟩ := counts_all_of_reachable (by decide) (by decide) start
      (reachable_execute r₀)
    obtain ⟨l, rfl, value, -, increments, decrements, -⟩ := counts _ res result
    exact ⟨r₀, l, rfl, result, value, increments, decrements⟩

end Run

end SharedCounter
