import SharedCounter.Producer

/-!
# A producer stops

`Producer.State.effort_step` : every step lowers the effort that a producer has before it, so a
producer only ever takes finitely many, and `Producer.run` leaves it where it waits or has ended
(`Producer.step_run`).
-/

namespace SharedCounter

namespace Producer.State

/-- A poll that is a step either sends, or begins to wait, or is refused. -/
theorem effort_sendTo {s t : State} {acts : List Act} {channel : String}
    {outlets : Channel → Outlets} {c : Channel}
    (going : s.producer.verdict = none)
    (less : Act.efforts acts + 2 ≤ Act.efforts s.producer.acts)
    (h : s.sendTo acts channel outlets (c.pollSend s.producer.place) = some t) :
    t.producer.effort < s.producer.effort := by
  have hp := Bool.toNat_le s.producer.place.isSome
  cases hc : c.pollSend s.producer.place with
  | mk poll d =>
    rw [hc] at h
    cases poll with
    | sent => cases h; simp only [effort, next, going, Option.isSome_none, Bool.toNat_false]; omega
    | refused => cases h; simp only [effort, finish, going]; omega
    | waiting u =>
      cases hs : s.producer.place with
      | none =>
        simp only [sendTo, hs] at h
        cases h
        simp only [effort, going, hs, Option.isSome_some, Option.isSome_none, Bool.toNat_true,
          Bool.toNat_false]
        omega
      | some p =>
        have := Channel.place_of_pollSend (hs ▸ hc)
        simp [sendTo, hs, this] at h

theorem effort_next {p : Producer} {acts : List Act} (going : p.verdict = none)
    (less : Act.efforts acts + 2 ≤ Act.efforts p.acts) :
    (p.next acts).effort < p.effort := by
  have hp := Bool.toNat_le p.place.isSome
  simp only [effort, next, going, Option.isSome_none, Bool.toNat_false]
  omega

theorem effort_finish {p : Producer} (v : Verdict) (going : p.verdict = none) :
    (p.finish v).effort < p.effort := by
  have hp := Bool.toNat_le p.place.isSome
  simp only [effort, finish, going]
  omega

theorem effort_letGoSignals (s : State) : s.letGoSignals.producer.effort ≤ s.producer.effort := by
  simp [effort, letGoSignals]

theorem effort_letGoCompletion (s : State) :
    s.letGoCompletion.producer.effort ≤ s.producer.effort := by
  simp [effort, letGoCompletion]

theorem efforts_plan (n : Nat) (rest : List Act) :
    Act.efforts (Act.plan n ++ rest) = 2 * n + 8 + Act.efforts rest := by
  simp [Act.plan, Act.efforts, Act.effort]; omega

theorem effort_perform {s t : State} {act : Act} {rest : List Act}
    (going : s.producer.verdict = none) (head : s.producer.acts = act :: rest)
    (h : s.perform act rest = some t) : t.producer.effort < s.producer.effort := by
  have less : act.effort + Act.efforts rest = Act.efforts s.producer.acts := by
    simp [head, Act.efforts]
  have skip : (s.producer.next rest).effort < s.producer.effort :=
    effort_next going (by cases act <;> simp only [Act.effort] at less <;> omega)
  unfold perform at h
  dsimp only at h
  split at h
  · cases h; exact skip
  · cases h; exact skip
  · split at h
    · refine effort_sendTo going ?_ h
      simp only [Act.efforts, Act.effort] at *
      omega
    · cases h; exact skip
  · split at h
    · refine effort_sendTo going ?_ h
      simp only [Act.effort] at *
      omega
    · cases h; exact skip
  · cases h
    split
    · exact Nat.lt_of_le_of_lt (effort_letGoSignals _) skip
    · exact skip
  · cases h
    split
    · exact Nat.lt_of_le_of_lt (effort_letGoCompletion _) skip
    · exact skip
  · cases h; exact effort_finish _ going
  · cases h; exact effort_finish _ going
  · cases h
    refine effort_next going ?_
    split
    · simp only [efforts_plan, Act.efforts, Act.effort] at *; omega
    · simp only [List.nil_append, Act.efforts, Act.effort] at *; omega

/-- Every step of a producer lowers its effort. -/
theorem effort_step {s t : State} (h : s.step = some t) :
    t.producer.effort < s.producer.effort := by
  unfold step at h
  split at h
  next v hv =>
    split at h
    next holds => cases h; simp [effort, letGoSignals, hv, holds]
    next =>
      split at h
      next holds => cases h; simp [effort, letGoCompletion, hv, holds]
      next => simp at h
  next going =>
    split at h
    · cases h; exact effort_finish _ going
    · rename_i head; exact effort_perform going head h

end Producer.State

/-- A run ends only where the producer waits or has ended. -/
theorem Producer.step_run (p : Producer) (o : Outlets) : (p.run o).step = none :=
  advance_stops (fun _ _ => State.effort_step) (Nat.le_refl _)

end SharedCounter
