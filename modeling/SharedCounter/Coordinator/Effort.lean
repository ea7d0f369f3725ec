import SharedCounter.Coordinator

/-!
# A coordinator stops

`Coordinator.State.effort_step` : every step lowers the effort that a coordinator has before it:
an item is taken, or a source is found closed once and for all, or the stage advances. So the
coordinator takes only finitely many steps without waiting, and `Coordinator.run` leaves it where it
waits or has ended (`Coordinator.stepAny_run`).
-/

namespace SharedCounter

namespace Inlets

theorem buffered_setSignals {i : Inlets} {side : Side} {ch : Channel}
    (h : (i.signals side).take? = some ch) :
    i.buffered = (i.setSignals side ch).buffered + 1 := by
  have := Channel.buffered_of_take? h
  cases side <;> simp only [signals, setSignals, buffered] at * <;> omega

@[simp]
theorem buffered_hangUp (i : Inlets) : i.hangUp.buffered = 0 := rfl

end Inlets

namespace Coordinator.State

@[simp]
theorem inlets_apply (s : State) (e : Effect) : (s.apply e).inlets = s.inlets := by
  unfold apply; split <;> rfl

theorem rank_apply (s : State) (e : Effect) :
    (s.apply e).coordinator.rank ≤ max s.coordinator.rank 1 := by
  unfold apply
  split
  · exact Nat.le_max_left _ _
  · exact Nat.le_max_right _ _

@[simp]
theorem inlets_complete (s : State) : s.complete.inlets = s.inlets := by
  unfold complete; dsimp only; split <;> rfl

theorem rank_complete (s : State) : s.complete.coordinator.rank ≤ max s.coordinator.rank 1 := by
  unfold complete
  dsimp only
  split
  · exact Nat.le_max_left _ _
  · exact Nat.le_max_right _ _

@[simp]
theorem inlets_finishDrain (s : State) (n : Nat) : (s.finishDrain n).inlets = s.inlets := by
  unfold finishDrain; split <;> rfl

theorem rank_finishDrain (s : State) (n : Nat) : (s.finishDrain n).coordinator.rank = 1 := by
  unfold finishDrain; split <;> rfl

/-- Serving a source takes an item, closes a side, or ends the count. -/
theorem effort_serve {s t : State} {b : Branch} (running : s.coordinator.stage = .running)
    (h : s.serve b = some t) : t.effort < s.effort := by
  have hr : 6 ≤ s.coordinator.rank := by simp only [rank, running]; omega
  unfold serve at h
  split at h
  next side =>
    split at h
    next isOpen =>
      split at h
      next ch hc =>
        cases h
        have hb := Inlets.buffered_setSignals (Channel.take?_of_receive hc)
        have := rank_apply { s with inlets := s.inlets.setSignals side ch }
          (s.coordinator.effect side)
        simp only [effort, inlets_apply] at *
        omega
      next hc =>
        cases h
        cases side <;> simp_all [effort, rank, close, Coordinator.isOpen]
      next => simp at h
    next => simp at h
  next =>
    split at h
    next ch hc =>
      cases h
      have hb := Channel.buffered_of_take? (Channel.take?_of_receive hc)
      have := rank_complete { s with inlets := { s.inlets with completions := ch } }
      simp only [effort, inlets_complete, Inlets.buffered] at *
      omega
    next hc =>
      cases h
      simp only [effort, leave, rank] at *
      omega
    next => simp at h

theorem effort_drainStep {s : State} {before : Nat} {turn : Side} {progressed : Bool}
    (draining : s.coordinator.stage = .draining before turn progressed) :
    (s.drainStep before turn progressed).effort < s.effort := by
  have hr : 2 ≤ s.coordinator.rank := by
    simp only [rank, draining]
    cases turn <;> simp
    omega
  unfold drainStep
  cases ht : (s.inlets.signals turn).take? with
  | some ch =>
    have hb := Inlets.buffered_setSignals ht
    have := rank_apply { s with inlets := s.inlets.setSignals turn ch } (s.coordinator.effect turn)
    have hi := inlets_apply { s with inlets := s.inlets.setSignals turn ch }
      (s.coordinator.effect turn)
    cases turn <;> dsimp only <;> split <;>
      simp_all [effort, rank] <;> omega
  | none =>
    cases turn <;> cases progressed
    case second.false =>
      simp only [effort, inlets_finishDrain, rank_finishDrain]
      omega
    all_goals dsimp only; split <;> simp_all [effort, rank]

/-- Every step of a coordinator lowers its effort. -/
theorem effort_step {s t : State} {b : Branch} (h : s.step b = some t) : t.effort < s.effort := by
  unfold step at h
  split at h
  next running =>
    split at h
    · cases h
      unfold startDrain
      split <;> simp [effort, rank, running, note, leave] <;> omega
    · exact effort_serve running h
  next draining => cases h; exact effort_drainStep draining
  next leaving => cases h; simp [effort, rank, leaving]
  next => simp at h

theorem effort_stepAny {s t : State} (h : s.stepAny = some t) : t.effort < s.effort := by
  obtain ⟨b, -, hb⟩ := List.exists_of_findSome?_eq_some h
  exact effort_step hb

end Coordinator.State

/-- A run ends only where the coordinator waits or has ended. -/
theorem Coordinator.stepAny_run (c : Coordinator) (i : Inlets) : (c.run i).stepAny = none :=
  advance_stops (fun _ _ => State.effort_stepAny) (Nat.le_refl _)

end SharedCounter
