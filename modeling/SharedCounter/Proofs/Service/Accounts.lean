import SharedCounter.Proofs.Service.Balance

/-!
# Every acknowledged signal is counted once

* `Service.emptied_of_walk` : while the turns of the coordinator do not stop amid its draining, no
  signal is left behind;
* `Service.counts_acknowledged` : a count has every signal that was in the buffers at the hand-over
  and every signal acknowledged since, each of them once. A send that is still in progress fails.
-/

namespace SharedCounter

open Coordinator.State (Emptied)

namespace Service

variable {initial : Int} {producers : Nat} {given : Lines} {s : Service} {flipped : Bool}
  {ds : List Deed}

/-- A coordinator that is running or has ended when the clients act leaves no signal behind. -/
theorem emptied_of_walk (sound : given.Sound)
    (walk : Walk Coordinator.State.Paused (start initial producers given flipped) ds s)
    (fine : s.coordinator.outcome? ≠ some .overflowed) :
    Emptied (given.intake initial producers s.lines) s.state ∧ s.state.Paused := by
  induction walk with
  | nil => exact ⟨.of_running rfl, .inl rfl⟩
  | @cons d ds t u walk step ih =>
    have balanced := balanced_of_walk sound walk (step.fine fine)
    obtain ⟨emptied, paused⟩ := ih (step.fine fine)
    cases step with
    | @client b _ m act =>
      have keeps := Line.keeps_of_act act
      refine ⟨emptied.deposit ?_, paused⟩
      rcases paused with running | ⟨o, ended⟩
      · exact .inl running
      · have deaf := balanced.deaf o ended b
        refine .inr ⟨?_, ?_⟩
        · funext e
          show _ + (t.lines.setLine b m).acknowledged e = _
          rw [Lines.acknowledged_setLine_of_deaf keeps deaf]
          rfl
        · exact Lines.channel_buffered_setLine_of_deaf keeps deaf _
    | @turn u steps rests =>
      rw [state_put]
      exact ⟨(steps.emptied fine balanced.books emptied).withEvents [], rests⟩

theorem counted_of_walk {l : Ledger} (sound : given.Sound)
    (walk : Walk Coordinator.State.Paused (start initial producers given flipped) ds s)
    (counted : s.coordinator.outcome? = some (.counted l)) :
    (∀ e, l.of e = given.buffered e + s.lines.acknowledged e) ∧
      l.value = initial + l.increments - l.decrements := by
  have fine : s.coordinator.outcome? ≠ some .overflowed := by
    rw [counted]
    rintro ⟨⟩
  have balanced := balanced_of_walk sound walk fine
  obtain ⟨emptied, -⟩ := emptied_of_walk sound walk fine
  obtain ⟨ledger, value, -⟩ := balanced.books.counted l counted
  refine ⟨emptied.counted l counted, ?_⟩
  rw [value, ledger]
  exact balanced.books.counter

/-- Every signal that was buffered at the hand-over or acknowledged since is counted once, and a
send that is still in progress when the count is there, even one with a slot, fails. -/
theorem counts_acknowledged {l : Ledger} (sound : given.Sound)
    (walk : Walk Coordinator.State.Paused (start initial producers given flipped) ds s)
    (counted : s.coordinator.answer = .counted l) :
    (∀ e, l.of e = given.buffered e + s.lines.acknowledged e) ∧
    l.value = initial + l.increments - l.decrements ∧
    ∀ b, ∀ f ∈ (s.lines.line b).pending,
      (f.poll b (s.lines.line b).channel).producer.verdict
        = some (.failed ⟨f.sender, b.channelName⟩) := by
  have ended := Coordinator.answer_eq_counted_iff.mp counted
  have outcome := Coordinator.outcome?_of_ended ended
  have fine : s.coordinator.outcome? ≠ some .overflowed := by
    rw [outcome]
    rintro ⟨⟩
  have balanced := balanced_of_walk sound walk fine
  obtain ⟨signals, value⟩ := counted_of_walk sound walk outcome
  refine ⟨signals, value, fun b f _ => ?_⟩
  have refused := Channel.pollSend_of_deaf (balanced.deaf _ ended b) f.place
  exact (Sending.poll_of_refused refused).1

/-- Two channels of one effect, a send that is given up with its slot, and one that is left behind
with a slot. -/
theorem counts_acknowledged_of_cancelled :
    let given : Lines :=
      { first :=
          { channel :=
              { capacity := 1, buffered := 1, waiting := [0], senders := 2, nextTicket := 1 }
            pending := [⟨"early", some 0⟩] }
        second := { channel := .create 0 }
        completions := { channel := .create 0 }
        firstEffect := .decrement }
    let deeds : List Deed :=
      [.turn, .client .completions (.poll 0), .client .completions (.begin "next"),
        .client (.signals .first) (.poll 0), .client (.signals .first) (.begin "last"),
        .client (.signals .first) (.poll 0), .client (.signals .first) (.cancel 0), .turn,
        .client (.signals .first) (.poll 1), .client (.signals .first) (.begin "next")]
    ∃ s l, Walk Coordinator.State.Paused (start 5 1 given true) deeds s ∧
      s.coordinator.answer = .counted l ∧ l.decrements = 2 ∧ l.value = 5 + l.increments - 2 ∧
      s.lines.first.pending = [⟨"last", some 2⟩] ∧
      ((⟨"last", some 2⟩ : Sending).poll (.signals .first) s.lines.first.channel).producer.verdict
        = some (.failed ⟨"last", "signal"⟩) := by
  intro given deeds
  have performed : ((start 5 1 given true).performAll Coordinator.State.preference deeds).map
      (fun s => (s.coordinator.stage, s.lines.acknowledged .decrement, s.lines.first.pending))
      = some (.ended (.counted { value := 3, decrements := 2, completions := 1 }), 1,
          [⟨"last", some 2⟩]) := by decide +kernel
  obtain ⟨s, hs, facts⟩ := Option.map_eq_some_iff.mp performed
  obtain ⟨ended, acknowledged, pending⟩ : _ ∧ _ ∧ _ := by simpa using facts
  have walk : Walk Coordinator.State.Paused (start 5 1 given true) deeds s :=
    (walk_of_performAll Coordinator.State.mem_preference hs).mono fun _ waits => waits.paused
  have counted := Coordinator.answer_eq_counted_iff.mpr ended
  have sound : given.Sound := by rintro ((_ | _) | _) <;> rfl
  obtain ⟨signals, value, fails⟩ := counts_acknowledged sound walk counted
  have decrements := signals .decrement
  rw [acknowledged] at decrements
  have still : (⟨"last", some 2⟩ : Sending) ∈ s.lines.first.pending := by simp [pending]
  exact ⟨s, _, walk, counted, decrements, value, pending, fails (.signals .first) _ still⟩

end Service

end SharedCounter
