import SharedCounter.Proofs.Coordinator.Rounds
import SharedCounter.Proofs.Run.Poll

/-!
# The turn of the main task as a poll

* `Coordinator.State.quiet` : a state without the events that were made. The coordinator goes on in
  the same way (`map_quiet_stepAny`);
* `Coordinator.State.exists_choices_of_missing` : as long as completions are missing, what the
  coordinator does by itself is a poll in rounds;
* `Run.Counting` : the main task coordinates, and completions are missing;
* `Run.turnMain_eq_after` : a turn after which the main task is still counting is a poll that may
  make `turnLength` rounds, so that it has found everything empty or made all of them
  (`Run.empty_or_spent_of_turnMain`).
-/

namespace SharedCounter

namespace Coordinator.State

variable {s t : State} {b : Branch} {n m : Nat}

/-- The state without the events that were made. -/
def quiet (s : State) : State := { s with events := [] }

theorem quiet_apply (s : State) (e : Effect) : (s.quiet.apply e).quiet = (s.apply e).quiet := by
  unfold apply
  dsimp only [quiet]
  split <;> rfl

theorem quiet_complete (s : State) : s.quiet.complete.quiet = s.complete.quiet := by
  unfold complete
  dsimp only [quiet]
  split <;> rfl

theorem map_quiet_serve (s : State) (b : Branch) :
    (s.quiet.serve b).map quiet = (s.serve b).map quiet := by
  cases b with
  | signals side =>
    unfold serve
    rw [apply_ite (Option.map quiet), apply_ite (Option.map quiet)]
    dsimp only [quiet]
    rcases (s.inlets.signals side).receive with ⟨_ | _ | _, ch⟩
    · exact congrArg (ite _ · _) (congrArg some (quiet_apply
        { s with inlets := s.inlets.setSignals side ch } (s.coordinator.effect side)))
    · rfl
    · rfl
  | completions =>
    unfold serve
    dsimp only [quiet]
    rcases s.inlets.completions.receive with ⟨_ | _ | _, ch⟩
    · exact congrArg some (quiet_complete
        { s with inlets := { s.inlets with completions := ch } })
    · rfl
    · rfl

/-- While completions are missing, the events that were made have no part in what comes next. -/
theorem map_quiet_stepAny (missing : s.Missing) :
    s.quiet.stepAny.map quiet = s.stepAny.map quiet := by
  have order : s.quiet.preference = s.preference := rfl
  unfold stepAny
  rw [order, funext (step_of_missing missing), funext (step_of_missing (s := s.quiet) missing),
    List.map_findSome?, List.map_findSome?]
  congr 1
  funext b
  exact map_quiet_serve s b

/-- Completions that are missing after a step were missing before it. -/
theorem Missing.of_step (step : s.step b = some t) (after : t.Missing) : s.Missing := by
  have stage := after.1
  cases Change.of_step step with
  | signal running missing | close running missing | completion running missing =>
    exact ⟨running, missing⟩
  | @drain _ side => cases side <;> cases stage
  | lose | begin | pass | again | finish | depart => cases stage
  | overflow _ _ left => cases left.symm.trans stage

theorem Missing.of_advance (le : m ≤ n) (after : (advance stepAny n s).Missing) :
    (advance stepAny m s).Missing := by
  by_contra out
  rw [← Nat.add_sub_of_le le, advance_add] at after
  refine advance_invariant (P := fun t : State => ¬ t.Missing)
    (fun t u step out missing => ?_) (n - m) out after
  obtain ⟨b, -, hb⟩ := List.exists_of_findSome?_eq_some step
  exact out (missing.of_step hb)

theorem quiet_advance (same : s.quiet = t.quiet) (missing : (advance stepAny n s).Missing) :
    (advance stepAny n s).quiet = (advance stepAny n t).quiet := by
  induction n generalizing s t with
  | zero => exact same
  | succ n ih =>
    have here : s.Missing := missing.of_advance (Nat.zero_le _)
    have there : t.Missing := show t.quiet.Missing from same ▸ here
    have next : s.stepAny.map quiet = t.stepAny.map quiet := by
      rw [← map_quiet_stepAny here, ← map_quiet_stepAny there, same]
    unfold advance at missing ⊢
    cases hs : s.stepAny with
    | none =>
      rw [hs, Option.map_none, eq_comm, Option.map_eq_none_iff] at next
      rw [next]
      exact same
    | some u =>
      rw [hs, Option.map_some, eq_comm, Option.map_eq_some_iff] at next
      obtain ⟨v, hv, quiet⟩ := next
      rw [hs] at missing
      rw [hv]
      exact ih quiet.symm missing

theorem rests_quiet_iff : s.quiet.Rests ↔ s.Rests := by
  have ready (b : Branch) : s.quiet.serve b = none ↔ s.serve b = none := by
    rw [← Option.map_eq_none_iff (f := quiet), map_quiet_serve, Option.map_eq_none_iff]
  unfold Rests
  simp only [ready]
  rfl

/-- As long as completions are missing, what a coordinator does by itself is a poll in rounds. -/
theorem exists_choices_of_missing (s : State) : ∃ choices : Nat → Branch, ∀ n,
    (advance stepAny n s).Missing → s.after choices n = advance stepAny n s := by
  obtain ⟨choices, own⟩ := exists_choices s
  refine ⟨choices, fun n missing => ?_⟩
  obtain ⟨m, le, same, rfl | rests⟩ := own n
  · exact same
  · -- The poll has come to rest early, and there the coordinator waits.
    rw [same] at rests ⊢
    have here := missing.of_advance le
    have waits : (advance stepAny m s).stepAny = none := by
      rw [stepAny, funext (step_of_missing here), List.findSome?_eq_none_iff]
      exact fun b _ => rests here b
    rw [← Nat.add_sub_of_le le, advance_add, advance_of_none waits]

end Coordinator.State

namespace Run

variable {r t : Run} {b : Branch}

/-- The main task coordinates, and completions are missing. -/
structure Counting (r : Run) : Prop where
  coordinating : r.main = .coordinating
  missing : r.team.coordinatorState.Missing

theorem Counting.step_main (counting : r.Counting) (b : Branch) :
    r.step (.main b) = (r.team.coordinatorState.step b).map fun u =>
      { r with team := r.team.putCoordinator u }.publish u.events := by
  have stage : r.team.coordinator.stage = .running := counting.missing.1
  rw [step, stepMain, counting.coordinating]
  dsimp only
  rw [stage]
  exact Option.map_map ..

theorem Counting.stepMainAny_eq (counting : r.Counting) :
    r.stepMainAny = r.team.coordinatorState.stepAny.map fun u =>
      { r with team := r.team.putCoordinator u }.publish u.events := by
  rw [stepMainAny, funext counting.step_main]
  exact (List.map_findSome? ..).symm

theorem Counting.of_step (step : r.step (.main b) = some t) (after : t.Counting) : r.Counting := by
  have coordinating := after.coordinating
  cases MainStep.of_step step with
  | serve here served =>
    obtain ⟨u, moved, ⟨⟩⟩ := Option.map_eq_some_iff.mp served
    exact ⟨here, .of_step moved after.missing⟩
  | _ => cases coordinating

theorem Counting.of_mainStepWithin {u v : Run × Nat} (step : mainStepWithin u = some v)
    (after : v.1.Counting) : u.1.Counting := by
  obtain ⟨t, moved, same⟩ := step_of_mainStepWithin step
  obtain ⟨b, -, hb⟩ := List.exists_of_findSome?_eq_some moved
  rw [same] at after
  exact .of_step hb ⟨after.coordinating, after.missing⟩

theorem Counting.mainCounts (counting : r.Counting) : r.mainCounts = true := by
  have running : r.team.coordinator.stage = .running := counting.missing.1
  have missing : r.team.coordinator.remaining ≠ 0 := counting.missing.2
  simp [Run.mainCounts, counting.coordinating, running, Nat.pos_of_ne_zero missing]

/-- While counting, each step is one of the coordinator, and uses up a round. -/
theorem Counting.mainStepWithin_succ (counting : r.Counting) (budget : Nat) :
    mainStepWithin (r, budget + 1) = r.team.coordinatorState.stepAny.map fun u =>
      (({ r with team := r.team.putCoordinator u }.publish u.events).wake, budget) := by
  rw [mainStepWithin, if_pos counting.mainCounts, counting.stepMainAny_eq, Option.map_map]
  rfl

/-- As long as the main task is counting, it takes as many steps of the coordinator as its budget
allows. -/
theorem Counting.advance_eq {fuel budget : Nat}
    (after : (advance mainStepWithin fuel (r, budget)).1.Counting)
    (enough : r.team.coordinatorState.effort ≤ fuel) :
    (advance mainStepWithin fuel (r, budget)).1.team.coordinatorState
      = (advance Coordinator.State.stepAny budget r.team.coordinatorState).quiet := by
  induction fuel generalizing r budget with
  | zero =>
    have running : r.team.coordinator.stage = .running := after.missing.1
    have effort : 6 ≤ r.team.coordinatorState.effort := by
      simp only [Coordinator.State.effort, Team.coordinatorState, Coordinator.rank, running]
      omega
    exact absurd (effort.trans enough) (by decide)
  | succ fuel ih =>
    have counting : r.Counting := by
      by_contra out
      refine advance_invariant (P := fun u : Run × Nat => ¬ u.1.Counting)
        (fun u v step out counting => ?_) (fuel + 1) out after
      exact out (counting.of_mainStepWithin step)
    cases budget with
    | zero =>
      have stops : mainStepWithin (r, 0) = none := by
        rw [mainStepWithin, if_pos counting.mainCounts]
      rw [advance_of_none stops]
      rfl
    | succ left =>
      have step := counting.mainStepWithin_succ left
      unfold advance at after ⊢
      cases hs : r.team.coordinatorState.stepAny with
      | none =>
        rw [step, hs]
        rfl
      | some u =>
        rw [step, hs, Option.map_some] at after ⊢
        have less := Coordinator.State.effort_stepAny hs
        have same := ih after (Nat.le_of_lt_succ (Nat.lt_of_lt_of_le less enough))
        have missing := after.missing
        rw [same] at missing
        exact same.trans (Coordinator.State.quiet_advance rfl missing)

/-- A turn of the main task after which completions are missing is a poll that may make `turnLength`
rounds. -/
theorem turnMain_eq_after (after : r.turnMain.Counting) : ∃ choices : Nat → Branch,
    r.turnMain.team.coordinatorState
      = (r.team.coordinatorState.after choices turnLength).quiet := by
  obtain ⟨choices, own⟩ := r.team.coordinatorState.exists_choices_of_missing
  have same := Counting.advance_eq after (Nat.le_add_right _ 8)
  refine ⟨choices, ?_⟩
  have missing := after.missing
  unfold turnMain at missing
  rw [same] at missing
  rw [own turnLength missing]
  exact same

/-- A main task that is still counting after its turn has found every source empty that it asks, or
has made all the rounds that it may make. -/
theorem empty_or_spent_of_turnMain (after : r.turnMain.Counting) :
    (∀ b, r.turnMain.team.coordinator.asks b = true →
      (r.turnMain.team.inlets.channel b).buffered = 0 ∧
        (r.turnMain.team.inlets.channel b).senders ≠ 0) ∨
    ∃ choices : Nat → Branch, ∀ m < turnLength, Coordinator.Round
      (r.team.coordinatorState.after choices m) (choices m)
      (r.team.coordinatorState.after choices (m + 1)) := by
  obtain ⟨choices, same⟩ := turnMain_eq_after after
  have missing := after.missing
  by_cases rests : (r.team.coordinatorState.after choices turnLength).Rests
  · left
    rw [← Coordinator.State.rests_quiet_iff, ← same] at rests
    cases rests.stops missing.1 with
    | pending _ _ _ empty => exact empty
    | complete _ complete => exact absurd complete missing.2
    | lost left | overflowed left => cases left.symm.trans missing.1
  · refine .inr ⟨choices, fun m less => Coordinator.State.round_after fun early => rests ?_⟩
    rwa [Coordinator.State.after_of_rests early less.le]

/-- A turn's length of signals on one side, and one on the other. -/
example :
    let idle : Channel := { capacity := 1000 }
    let r : Run :=
      { team := { Team.start {} (fun _ => []) with
          inlets := ⟨{ idle with buffered := turnLength }, { idle with buffered := 1 }, idle⟩ }
        bus := { capacity := 1 }, reader := ⟨0⟩, audience := [] }
    r.turnMain.main = .coordinating ∧ r.turnMain.team.coordinator.remaining = 2 ∧
      r.turnMain.team.inlets.first.buffered = 1 := by decide +kernel

end Run

end SharedCounter
