import SharedCounter.Proofs.Coordinator.Change

/-!
# What a coordinator tells

* `Event.completed`, `Event.draining`, `Event.drained` : the three events of a coordinator;
* `observed p counts` : one event for each completion of `p`, with the signals applied by then;
* `Coordinator.Account p counts c` : after the completions at `counts` the coordinator `c` stands
  where it stands. No signal is applied between the last completion and the drain (`Account.last`);
* `Coordinator.trace p counts c` : all that it has told. Every step tells what is missing
  (`Account.step`);
* `collected s t` : the completions that a step takes out of their channel. They are those that are
  booked (`Change.collected`).
-/

namespace SharedCounter

namespace Event

/-- A completion was counted, `remaining` are to come, and `count` signals were applied before. -/
def completed (remaining count : Nat) : Event :=
  { kind := .completionObserved, remaining := some remaining, count := some count }

/-- Draining has begun after `count` signals. -/
def draining (count : Nat) : Event :=
  { kind := .drainStarted, phase := some .draining, count := some count }

/-- Draining is over, and `count` signals were applied by it. -/
def drained (count : Nat) : Event :=
  { kind := .drainFinished, phase := some .done, count := some count }

end Event

namespace Coordinator

/-- The events of the first completions of `p`, with the signals applied before each. -/
def observed (p : Nat) (counts : List Nat) : List Event :=
  counts.mapIdx fun i n => .completed (p - (i + 1)) n

theorem observed_concat (p : Nat) (counts : List Nat) (n : Nat) :
    observed p (counts ++ [n]) = observed p counts ++ [.completed (p - (counts.length + 1)) n] :=
  List.mapIdx_concat

@[simp]
theorem length_observed (p : Nat) (counts : List Nat) :
    (observed p counts).length = counts.length :=
  List.length_mapIdx

variable {p : Nat} {counts : List Nat} {c : Coordinator} {s t : State} {b : Branch}

/-! ## The account of a coordinator -/

/-- What the coordinator tells after the completions at `counts`. -/
def epilogue (counts : List Nat) (c : Coordinator) : List Event :=
  match c.stage with
  | .draining before .. => [.draining before]
  | .leaving (.counted l) | .ended (.counted l) => [.draining (counts.getLastD 0), .drained l.drained]
  | _ => []

/-- All that the coordinator has told. -/
def trace (p : Nat) (counts : List Nat) (c : Coordinator) : List Event :=
  observed p counts ++ c.epilogue counts

theorem epilogue_of_running (h : c.stage = .running) : c.epilogue counts = [] := by
  unfold epilogue
  rw [h]

theorem epilogue_of_draining {before : Nat} {side : Side} {progressed : Bool}
    (h : c.stage = .draining before side progressed) : c.epilogue counts = [.draining before] := by
  unfold epilogue
  rw [h]

theorem epilogue_of_lost {n : Nat} (h : c.outcome? = some (.lost n)) : c.epilogue counts = [] := by
  unfold outcome? at h
  unfold epilogue
  split at h
  next hs =>
    cases h
    rw [hs]
  next hs =>
    cases h
    rw [hs]
  next => cases h

theorem epilogue_of_counted {l : Ledger} (h : c.outcome? = some (.counted l)) :
    c.epilogue counts = [.draining (counts.getLastD 0), .drained l.drained] := by
  unfold outcome? at h
  unfold epilogue
  split at h
  next hs =>
    cases h
    rw [hs]
  next hs =>
    cases h
    rw [hs]
  next => cases h

/-- The coordinator has counted completions of `p` after `counts` signals each. -/
structure Account (p : Nat) (counts : List Nat) (c : Coordinator) : Prop where
  countdown : c.remaining + counts.length = p
  completions : c.ledger.completions = counts.length
  sorted : counts.Pairwise (· ≤ ·)
  le : ∀ n ∈ counts, n ≤ c.ledger.applied
  last : c.stage = .running → c.remaining = 0 → counts.getLastD 0 = c.ledger.applied
  draining : ∀ before side progressed, c.stage = .draining before side progressed →
    c.remaining = 0 ∧ before = counts.getLastD 0
  counted : ∀ l, c.outcome? = some (.counted l) →
    c.remaining = 0 ∧ counts.getLastD 0 + l.drained = l.applied ∧ l.applied ≤ countMax
  lost : ∀ n, c.outcome? = some (.lost n) → n = c.remaining ∧ n ≠ 0

theorem Account.create (initial : Int) (p : Nat) (e f : Effect) :
    Account p [] (.create initial p e f) where
  countdown := rfl
  completions := rfl
  sorted := .nil
  le := by rintro _ ⟨⟩
  last _ _ := rfl
  draining := by rintro _ _ _ ⟨⟩
  counted := by rintro _ ⟨⟩
  lost := by rintro _ ⟨⟩

theorem Account.last_le (h : Account p counts c) : counts.getLastD 0 ≤ c.ledger.applied := by
  cases hc : counts.getLast? with
  | none =>
    rw [List.getLastD_eq_getLast?, hc]
    exact Nat.zero_le _
  | some n =>
    rw [List.getLastD_eq_getLast?, hc]
    exact h.le n (List.mem_of_getLast? hc)

theorem applied_booked (l : Ledger) (e : Effect) : (l.booked e).applied = l.applied + 1 := by
  cases e
  · exact Nat.add_right_comm _ _ _
  · rfl

/-- A signal is applied while a completion is missing, or while draining. -/
theorem Account.credit (h : Account p counts c) (e : Effect) {stage : Stage}
    (going : stage = .running ∧ c.remaining ≠ 0 ∨ ∃ before side progressed,
      stage = .draining before side progressed ∧ c.remaining = 0 ∧ before = counts.getLastD 0) :
    Account p counts { c.credit e with stage } := by
  refine ⟨h.countdown, ?_, h.sorted, fun n hn => ?_, fun running complete => ?_, ?_, ?_, ?_⟩
  · show (c.ledger.booked e).completions = _
    rw [Ledger.completions_booked]
    exact h.completions
  · show n ≤ (c.ledger.booked e).applied
    rw [applied_booked]
    exact Nat.le_succ_of_le (h.le n hn)
  · rcases going with ⟨-, missing⟩ | ⟨_, _, _, rfl, -⟩
    · exact absurd complete missing
    · cases running
  · intro before side progressed draining
    rcases going with ⟨rfl, -⟩ | ⟨_, _, _, rfl, complete, rfl⟩
    · cases draining
    · cases draining
      exact ⟨complete, rfl⟩
  · intro l counted
    rcases going with ⟨rfl, -⟩ | ⟨_, _, _, rfl, -⟩ <;> cases counted
  · intro n lost
    rcases going with ⟨rfl, -⟩ | ⟨_, _, _, rfl, -⟩ <;> cases lost

/-- Draining goes on, or begins, without a signal being applied. -/
theorem Account.drain (h : Account p counts c) (complete : c.remaining = 0) {before : Nat}
    (begun : before = counts.getLastD 0) (side : Side) (progressed : Bool) :
    Account p counts { c with stage := .draining before side progressed } := by
  refine { h with last := ?_, draining := ?_, counted := ?_, lost := ?_ }
  · rintro ⟨⟩
  · rintro _ _ _ ⟨⟩
    exact ⟨complete, begun⟩
  · rintro _ ⟨⟩
  · rintro _ ⟨⟩

/-- The coordinator leaves, or has left, with an outcome that its account allows. -/
theorem Account.conclude (h : Account p counts c) {o : Outcome} {l : Ledger} {stage : Stage}
    (leaving : stage = .leaving o ∨ stage = .ended o) (applied : l.applied = c.ledger.applied)
    (completions : l.completions = c.ledger.completions)
    (counted : ∀ l, o = .counted l →
      c.remaining = 0 ∧ counts.getLastD 0 + l.drained = l.applied ∧ l.applied ≤ countMax)
    (lost : ∀ n, o = .lost n → n = c.remaining ∧ n ≠ 0) :
    Account p counts { c with ledger := l, stage } := by
  have outcome : outcome? { c with ledger := l, stage } = some o := by
    rcases leaving with rfl | rfl <;> rfl
  refine ⟨h.countdown, completions.trans h.completions, h.sorted, ?_, ?_, ?_, ?_, ?_⟩
  · rw [show Coordinator.ledger { c with ledger := l, stage } = l from rfl, applied]
    exact h.le
  · intro running
    rcases leaving with rfl | rfl <;> cases running
  · intro _ _ _ draining
    rcases leaving with rfl | rfl <;> cases draining
  · intro l' hl
    rw [outcome] at hl
    exact counted l' (Option.some.inj hl)
  · intro n hn
    rw [outcome] at hn
    exact lost n (Option.some.inj hn)

/-- A completion is counted after all signals that are applied by now. -/
theorem Account.countDown (h : Account p counts c) (running : c.stage = .running)
    (missing : c.remaining ≠ 0) : Account p (counts ++ [c.ledger.applied]) c.countDown := by
  refine ⟨?_, ?_, ?_, fun n hn => ?_, fun _ _ => List.getLastD_concat, ?_, ?_, ?_⟩
  · have := h.countdown
    rw [List.length_append, List.length_singleton]
    show c.remaining - 1 + _ = p
    omega
  · rw [List.length_append, List.length_singleton, ← h.completions]
    rfl
  · refine List.pairwise_append.mpr ⟨h.sorted, List.pairwise_singleton _ _, fun m hm n hn => ?_⟩
    rw [List.mem_singleton.mp hn]
    exact h.le m hm
  · rcases List.mem_append.mp hn with old | new
    · exact h.le n old
    · exact Nat.le_of_eq (List.mem_singleton.mp new)
  · intro _ _ _ draining
    rw [stage_countDown, running] at draining
    cases draining
  · intro l counted
    have none_yet : c.countDown.outcome? = none := by rw [outcome?, stage_countDown, running]
    rw [none_yet] at counted
    cases counted
  · intro n lost
    have none_yet : c.countDown.outcome? = none := by rw [outcome?, stage_countDown, running]
    rw [none_yet] at lost
    cases lost

theorem trace_of_running (running : c.stage = .running) : trace p counts c = observed p counts := by
  rw [trace, epilogue_of_running running, List.append_nil]

/-- Every step tells what is missing. -/
theorem Account.step (h : Account p counts s.coordinator) (change : s.Change t)
    (fine : t.coordinator.outcome? ≠ some .overflowed) (fresh : s.events = []) :
    ∃ counts', Account p counts' t.coordinator ∧
      trace p counts' t.coordinator = trace p counts s.coordinator ++ t.events := by
  cases change with
  | @signal side ch running missing =>
    refine ⟨counts, ?_, ?_⟩
    · have credit := h.credit (s.coordinator.effect side) (.inl ⟨rfl, missing⟩)
      rw [← running] at credit
      exact credit
    · rw [fresh, List.append_nil, trace_of_running running]
      exact trace_of_running running
  | @close side running missing =>
    refine ⟨counts, ?_, ?_⟩
    · cases side <;> exact { h with }
    · rw [fresh, List.append_nil, trace_of_running running]
      exact trace_of_running (by rw [stage_close, running])
  | completion running missing =>
    refine ⟨_, h.countDown running missing, ?_⟩
    have still : s.coordinator.countDown.stage = .running := running
    have countdown := h.countdown
    rw [fresh, trace_of_running running, trace_of_running still, observed_concat,
      show p - (counts.length + 1) = s.coordinator.remaining - 1 by omega]
    rfl
  | lose running missing =>
    refine ⟨counts, ?_, ?_⟩
    · refine h.conclude (.inl rfl) rfl rfl ?_ ?_
      · rintro _ ⟨⟩
      · rintro _ ⟨⟩
        exact ⟨rfl, missing⟩
    · show _ = _ ++ s.events
      rw [fresh, List.append_nil, trace_of_running running]
      exact List.append_nil _
  | begin running complete =>
    refine ⟨counts, ?_, ?_⟩
    · exact h.drain complete (h.last running complete).symm _ _
    · show _ = _ ++ (s.events ++ _)
      rw [fresh, trace_of_running running]
      rfl
  | @drain before side progressed ch draining =>
    obtain ⟨complete, begun⟩ := h.draining _ _ _ draining
    have going : ∃ side' progressed', found before side = .draining before side' progressed' := by
      cases side <;> exact ⟨_, _, rfl⟩
    obtain ⟨side', progressed', stage⟩ := going
    refine ⟨counts, ?_, ?_⟩
    · exact h.credit (s.coordinator.effect side) (.inr ⟨_, _, _, stage, complete, begun⟩)
    · rw [fresh, List.append_nil, trace, trace, epilogue_of_draining draining]
      exact congrArg (observed p counts ++ ·) (epilogue_of_draining stage)
  | @pass before progressed draining =>
    refine ⟨counts, ?_, ?_⟩
    · obtain ⟨complete, begun⟩ := h.draining _ _ _ draining
      exact h.drain complete begun _ _
    · rw [fresh, List.append_nil, trace, trace, epilogue_of_draining draining]
      rfl
  | @again before draining =>
    refine ⟨counts, ?_, ?_⟩
    · obtain ⟨complete, begun⟩ := h.draining _ _ _ draining
      exact h.drain complete begun _ _
    · rw [fresh, List.append_nil, trace, trace, epilogue_of_draining draining]
      rfl
  | @finish before draining empty fits =>
    obtain ⟨complete, begun⟩ := h.draining _ _ _ draining
    have le := h.last_le
    refine ⟨counts, ?_, ?_⟩
    · refine h.conclude (.inl rfl) rfl rfl ?_ ?_
      · rintro _ ⟨⟩
        refine ⟨complete, ?_, fits⟩
        show _ + (s.coordinator.ledger.applied - before) = s.coordinator.ledger.applied
        omega
      · rintro _ ⟨⟩
    · show _ = _ ++ (s.events ++ _)
      rw [fresh, trace, trace, epilogue_of_draining draining, begun, List.append_assoc]
      rfl
  | @depart o leaving =>
    have same := outcome?_of_leaving leaving
    refine ⟨counts, ?_, ?_⟩
    · refine h.conclude (.inr rfl) rfl rfl ?_ ?_
      · rintro _ rfl
        exact h.counted _ same
      · rintro _ rfl
        exact h.lost _ same
    · rw [fresh, List.append_nil, trace, trace]
      unfold epilogue
      rw [leaving]
      cases o <;> rfl
  | overflow _ _ left => exact absurd (outcome?_of_leaving left) fine

/-! ## Completions are booked as they are taken -/

/-- The completions that were taken out of their channel from `s` to `t`. An item that is lost as
the receiving end is let go is not taken. -/
def collected (s t : State) : Nat :=
  match t.coordinator.stage with
  | .ended _ => 0
  | _ => s.inlets.completions.buffered - t.inlets.completions.buffered

theorem collected_of_same
    (ledger : t.coordinator.ledger.completions = s.coordinator.ledger.completions)
    (channel : t.inlets.completions = s.inlets.completions) :
    t.coordinator.ledger.completions = s.coordinator.ledger.completions + collected s t := by
  have none_taken : collected s t = 0 := by
    unfold collected
    rw [channel, Nat.sub_self]
    split <;> rfl
  rw [ledger, none_taken]
  rfl

theorem completions_setSignals (i : Inlets) (side : Side) (ch : Channel) :
    (i.setSignals side ch).completions = i.completions := by
  cases side <;> rfl

theorem Change.collected (change : s.Change t)
    (fine : t.coordinator.outcome? ≠ some .overflowed) :
    t.coordinator.ledger.completions
      = s.coordinator.ledger.completions + Coordinator.collected s t := by
  cases change with
  | signal =>
    exact collected_of_same (Ledger.completions_booked _ _) (completions_setSignals _ _ _)
  | @close side => cases side <;> exact collected_of_same rfl rfl
  | @completion ch running _ taken =>
    have still : s.coordinator.countDown.stage = .running := running
    have filled := Channel.buffered_of_take? taken
    unfold Coordinator.collected
    simp only [still, filled, Nat.add_sub_cancel_left]
    rfl
  | drain =>
    exact collected_of_same (Ledger.completions_booked _ _) (completions_setSignals _ _ _)
  | depart => rfl
  | overflow _ _ left => exact absurd (outcome?_of_leaving left) fine
  | _ => exact collected_of_same rfl rfl

end Coordinator

end SharedCounter
