import SharedCounter.Proofs.Service.Balance

/-!
# No count without every completion

* `Service.delivered` : the completions that were buffered at the hand-over or acknowledged since;
* `Service.Alive` : a client can still send a completion;
* `Service.completions_exact` : a count has consumed as many completions as were waited for, and a
  loss tells how many never came. It stands only when nobody can send them any more, and until then
  the coordinator waits. This holds of every state that can be reached, also amid a poll.
-/

namespace SharedCounter.Service

variable {initial : Int} {producers : Nat} {given : Lines} {s : Service} {flipped : Bool}
  {ds : List Deed} {rest : Coordinator.State → Prop}

/-- The completions that were buffered at the hand-over or acknowledged since. -/
def delivered (given : Lines) (s : Service) : Nat :=
  given.completions.channel.buffered + s.lines.completions.acknowledged

/-- A client holds a completion end, or a send of a completion does. -/
def Alive (s : Service) : Prop := 0 < s.lines.completions.ends ∨ s.lines.completions.pending ≠ []

theorem Balanced.not_alive (h : Balanced initial producers given s)
    (gone : s.lines.completions.channel.senders = 0) : ¬ s.Alive := by
  have held : s.lines.completions.channel.senders
      = s.lines.completions.ends + s.lines.completions.pending.length := h.sound .completions
  rintro (some_end | some_send)
  · omega
  · have := List.length_pos_iff.mpr some_send
    omega

/-- A completion is consumed only while one is missing. -/
theorem Balanced.countdown {b : Branch} {u : Coordinator.State}
    (h : Balanced initial producers given s) (step : s.state.step b = some u)
    (fine : u.coordinator.outcome? ≠ some .overflowed) :
    u.coordinator.remaining + u.coordinator.ledger.completions = producers ∧
      (u.coordinator.ledger.completions = s.coordinator.ledger.completions ∨
        u.coordinator.ledger.completions = s.coordinator.ledger.completions + 1 ∧
          0 < s.coordinator.remaining) := by
  have change := Coordinator.State.Change.of_step step
  refine ⟨(h.books.step change fine).countdown, ?_⟩
  cases change with
  | completion running missing => exact .inr ⟨rfl, Nat.pos_of_ne_zero missing⟩
  | signal | drain => exact .inl (Ledger.completions_booked _ _)
  | @close side =>
    left
    cases side <;> rfl
  | overflow _ _ left => exact absurd (Coordinator.outcome?_of_leaving left) fine
  | _ => exact .inl rfl

/-- As long as completions are missing and can still come, the coordinator is running. -/
theorem Balanced.running (h : Balanced initial producers given s)
    (fine : s.coordinator.outcome? ≠ some .overflowed) (missing : s.delivered given < producers)
    (alive : s.Alive) : s.coordinator.stage = .running := by
  have le : s.coordinator.ledger.completions ≤ s.delivered given := h.books.completions_le fine
  have countdown : s.coordinator.remaining + s.coordinator.ledger.completions = producers :=
    h.books.countdown
  rcases h.books.running_or_lost fine (show s.coordinator.remaining ≠ 0 by omega) with
    running | ⟨r, lost⟩
  · exact running
  · obtain ⟨-, -, -, gone⟩ := h.books.lost r lost
    exact absurd alive (h.not_alive gone)

theorem Balanced.of_counted {l : Ledger} (h : Balanced initial producers given s)
    (counted : s.coordinator.outcome? = some (.counted l)) :
    l.completions = producers ∧ producers ≤ s.delivered given ∧
      (s.coordinator.Receiving →
        s.lines.completions.channel.buffered + producers = s.delivered given) := by
  obtain ⟨ledger, -, -, le, -⟩ := h.books.counted l counted
  have all : l.completions = producers := h.books.completions_eq counted
  refine ⟨all, all ▸ le, fun receiving => ?_⟩
  have completions := h.books.completions receiving
  rw [← ledger, all] at completions
  exact (Nat.add_comm _ _).trans completions

theorem Balanced.of_lost {r : Nat} (h : Balanced initial producers given s)
    (lost : s.coordinator.outcome? = some (.lost r)) :
    1 ≤ r ∧ r ≤ producers ∧ r + s.delivered given = producers ∧ ¬ s.Alive ∧
      (s.coordinator.Receiving → s.lines.completions.channel.buffered = 0) := by
  obtain ⟨rfl, positive, completions, gone⟩ := h.books.lost r lost
  have countdown : s.state.coordinator.remaining + s.coordinator.ledger.completions = producers :=
    h.books.countdown
  have all : s.coordinator.ledger.completions = s.delivered given := completions
  refine ⟨positive, by omega, by omega, h.not_alive gone, fun receiving => ?_⟩
  have balance := h.books.completions receiving
  rw [completions] at balance
  exact Nat.add_eq_left.mp balance

/-- Whatever the clients do and whichever branches are chosen: completions are counted down one by
one and never below zero, a count has consumed exactly as many as were waited for, a loss names
exactly those that never came, and without either the coordinator waits. -/
theorem completions_exact (sound : given.Sound)
    (walk : Walk rest (start initial producers given flipped) ds s)
    (fine : s.coordinator.outcome? ≠ some .overflowed) :
    s.coordinator.remaining + s.coordinator.ledger.completions = producers ∧
    (∀ b u, s.state.step b = some u → u.coordinator.outcome? ≠ some .overflowed →
      u.coordinator.remaining + u.coordinator.ledger.completions = producers ∧
      (u.coordinator.ledger.completions = s.coordinator.ledger.completions ∨
        u.coordinator.ledger.completions = s.coordinator.ledger.completions + 1 ∧
          0 < s.coordinator.remaining)) ∧
    (∀ l, s.coordinator.outcome? = some (.counted l) →
      l.completions = producers ∧ producers ≤ s.delivered given ∧
      (s.coordinator.Receiving →
        s.lines.completions.channel.buffered + producers = s.delivered given)) ∧
    (∀ r, s.coordinator.outcome? = some (.lost r) →
      1 ≤ r ∧ r ≤ producers ∧ r + s.delivered given = producers ∧ ¬ s.Alive ∧
      (s.coordinator.Receiving → s.lines.completions.channel.buffered = 0)) ∧
    (∀ l, s.coordinator.answer = .counted l → s.coordinator.outcome? = some (.counted l)) ∧
    (∀ e, s.coordinator.answer = .lost e →
      ∃ r, e = .completionLost r [] ∧ s.coordinator.outcome? = some (.lost r)) ∧
    (s.delivered given < producers → s.Alive →
      s.coordinator.stage = .running ∧ s.coordinator.answer = .pending) := by
  have h := balanced_of_walk sound walk fine
  refine ⟨h.books.countdown, fun b u step fine => h.countdown step fine,
    fun l counted => h.of_counted counted, fun r lost => h.of_lost lost, fun l answer => ?_,
    fun e answer => ?_, fun missing alive => ?_⟩
  · exact Coordinator.outcome?_of_ended (Coordinator.answer_eq_counted_iff.mp answer)
  · obtain ⟨r, ended, he⟩ := Coordinator.answer_eq_lost_iff.mp answer
    exact ⟨r, he, Coordinator.outcome?_of_ended ended⟩
  · have running := h.running fine missing alive
    exact ⟨running, by rw [Coordinator.answer, running]⟩

/-- Signals are ready all the time, a completion is sent, one is given up, and the ends are let go. -/
theorem completions_exact_of_cancelled :
    let given : Lines :=
      { first := { channel := { capacity := 3, buffered := 2 } }
        second := { channel := .create 0 }
        completions := { channel := { capacity := 2, buffered := 1, senders := 2 }, ends := 2 } }
    let deeds : List Deed :=
      [.turn, .client .completions (.cancel 0), .client .completions .drop,
        .client .completions .drop, .client (.signals .first) .clone,
        .client .completions (.poll 0), .client .completions (.begin "b"),
        .client .completions (.poll 0), .client .completions (.begin "a")]
    ∃ s, Walk Coordinator.State.Waits (start 0 4 given false) deeds s ∧
      s.coordinator.answer = .lost (.completionLost 2 []) ∧
      2 + s.delivered given = 4 ∧ ¬ s.Alive ∧ s.lines.acknowledged .increment = 0 := by
  intro given deeds
  have performed : ((start 0 4 given false).performAll Coordinator.State.preference deeds).map
      (fun s => (s.coordinator.stage, s.lines.acknowledged .increment))
      = some (.ended (.lost 2), 0) := by decide +kernel
  obtain ⟨s, hs, facts⟩ := Option.map_eq_some_iff.mp performed
  obtain ⟨ended, acknowledged⟩ : _ ∧ _ := by simpa using facts
  have walk : Walk Coordinator.State.Waits (start 0 4 given false) deeds s :=
    walk_of_performAll Coordinator.State.mem_preference hs
  have outcome := Coordinator.outcome?_of_ended ended
  have fine : s.coordinator.outcome? ≠ some .overflowed := by
    rw [outcome]
    decide
  have sound : given.Sound := by rintro ((_ | _) | _) <;> rfl
  obtain ⟨-, -, -, lost, -⟩ := completions_exact sound walk fine
  obtain ⟨-, -, missing, gone, -⟩ := lost 2 outcome
  exact ⟨s, walk, Coordinator.answer_eq_lost_iff.mpr ⟨2, ended, rfl⟩, missing, gone, acknowledged⟩

end SharedCounter.Service
