import SharedCounter.Proofs.Team.Change

/-!
# A team of orderly producers

* `Orderly n initial sent completed s` : both producers of the team `s` keep to the plan of `n`
  signals, the books of the coordinator balance with what they have sent, and no end is lost track
  of;
* `Orderly.producer`, `Orderly.coordinator` : every step of every party keeps it, in any order;
* `Orderly.running` : as long as a completion is still to be sent, the coordinator is running. So a
  signal is never sent to a coordinator that drains, and no send is ever refused;
* `Orderly.outcome` : the only outcome is a count of all that was to be sent.
-/

namespace SharedCounter.Team

open Coordinator.State (Books Emptied Change)

/-- A team of two producers that keep to the plan of `n` signals. -/
structure Orderly (n : Nat) (initial : Int) (sent completed : Effect → Nat) (s : Team) : Prop where
  producers : ∀ e, (s.producer e).Orderly n (sent e) (completed e)
  books : Books (intake initial sent completed) s.coordinatorState
  emptied : Emptied (intake initial sent completed) s.coordinatorState
  effect : ∀ e, s.coordinator.effect (side e) = e
  fine : s.coordinator.outcome? ≠ some .overflowed
  signalsListening : s.coordinator.Receiving → ∀ e, (s.inlets.signals (side e)).listening = true
  completionsListening : s.coordinator.Receiving → s.inlets.completions.listening = true
  ends : s.inlets.completions.senders
    = s.incrementer.holdsCompletion.toNat + s.decrementer.holdsCompletion.toNat

variable {n : Nat} {initial : Int} {sent completed : Effect → Nat} {s : Team}

theorem Orderly.start {c : Config} :
    Orderly c.iterations c.initial (fun _ => 0) (fun _ => 0) (Team.start c (orderlyActs c)) where
  producers e := by cases e <;> exact Producer.Orderly.start _ _
  books := Books.create (a := intake c.initial (fun _ => 0) (fun _ => 0))
    (fun g => by cases g <;> rfl) rfl
  emptied := .of_running rfl
  effect e := by cases e <;> rfl
  fine := by rintro ⟨⟩
  signalsListening _ e := by cases e <;> rfl
  completionsListening _ := rfl
  ends := rfl

/-- No completion is lost: an end is only let go after its completion is sent. -/
theorem Orderly.not_lost (h : Orderly n initial sent completed s) (r : Nat) :
    s.coordinator.outcome? ≠ some (.lost r) := by
  intro lost
  obtain ⟨hr, positive, completions, gone⟩ := h.books.lost r lost
  have ends := h.ends
  rw [show s.inlets.completions.senders = 0 from gone] at ends
  have up_gone : s.incrementer.holdsCompletion = false := Bool.toNat_eq_zero.mp (by omega)
  have down_gone : s.decrementer.holdsCompletion = false := Bool.toNat_eq_zero.mp (by omega)
  have up := (h.producers .increment).completed_of_gone up_gone
  have down := (h.producers .decrement).completed_of_gone down_gone
  have countdown := h.books.countdown
  rw [completions, ← hr] at countdown
  simp only [intake, up, down] at countdown
  exact absurd countdown (by simp [Effect.all]; omega)

theorem Orderly.running (h : Orderly n initial sent completed s) {e : Effect}
    (owed : completed e = 0) : s.coordinator.stage = .running := by
  have up := (h.producers .increment).station.completed_le
  have down := (h.producers .decrement).station.completed_le
  have bound : completed .increment + completed .decrement ≤ 1 := by cases e <;> omega
  have booked : s.coordinator.ledger.completions ≤ completed .increment + completed .decrement :=
    h.books.completions_le h.fine
  have countdown : s.coordinator.remaining + s.coordinator.ledger.completions = 2 :=
    h.books.countdown
  have missing : s.coordinator.remaining ≠ 0 := by omega
  rcases h.books.running_or_lost h.fine missing with running | ⟨r, lost⟩
  · exact running
  · exact absurd lost (h.not_lost r)

/-- A producer that has sent its completion sends nothing any more. -/
theorem still_of_completed {p q : Producer} {sent completed k m : Nat}
    (h : p.Orderly n sent completed) (h' : q.Orderly n (sent + k) (completed + m))
    (complete : completed = 1) : k = 0 ∧ m = 0 := by
  have := h.station.sent_eq complete
  have := h'.station.sent_le
  have := h'.station.completed_le
  omega

/-! ## Steps of the producers -/

variable {s' : Team} {e : Effect} {k m : Nat}

theorem Orderly.let_go (orderly : Orderly n initial sent completed s)
    (moved : (s'.producer e).Orderly n (sent e + k) (completed e + m))
    (gone : (s.producer e).holdsCompletion = false) : m = 0 := by
  have complete := (orderly.producers e).completed_of_gone gone
  exact (still_of_completed (orderly.producers e) moved complete).2

theorem Orderly.quiet (orderly : Orderly n initial sent completed s)
    (moved : (s'.producer e).Orderly n (sent e + k) (completed e + m)) :
    s.coordinator.stage = .running ∨ k = 0 := by
  have le := (orderly.producers e).station.completed_le
  by_cases owed : completed e = 0
  · exact .inl (orderly.running owed)
  · exact .inr (still_of_completed (orderly.producers e) moved (by omega)).1

theorem Orderly.advance (orderly : Orderly n initial sent completed s)
    (h : Advances e s s' k m) (moved : (s'.producer e).Orderly n (sent e + k) (completed e + m)) :
    Orderly n initial (Function.update sent e (sent e + k))
      (Function.update completed e (completed e + m)) s' where
  producers f := by
    by_cases hf : f = e
    · subst hf
      simpa using moved
    · rw [Function.update_of_ne hf, Function.update_of_ne hf, h.producers f hf]
      exact orderly.producers f
  books := h.books orderly.books orderly.effect orderly.ends (orderly.let_go moved)
  emptied := h.emptied orderly.emptied (orderly.quiet moved)
  effect f := by rw [h.coordinator]; exact orderly.effect f
  fine := by rw [h.coordinator]; exact orderly.fine
  signalsListening receiving f := by
    rw [h.coordinator] at receiving
    by_cases hf : f = e
    · subst hf
      exact h.moves.signalsListening.trans (orderly.signalsListening receiving f)
    · rw [h.channels f hf]
      exact orderly.signalsListening receiving f
  completionsListening receiving := by
    rw [h.coordinator] at receiving
    exact h.moves.completionsListening.trans (orderly.completionsListening receiving)
  ends := h.ends orderly.ends

theorem Orderly.listening (h : Orderly n initial sent completed s) (owed : completed e = 0) :
    (s.producerState e).outlets.signals.listening = true ∧
      (s.producerState e).outlets.completions.listening = true := by
  have receiving := Coordinator.receiving_of_running (h.running owed)
  exact ⟨h.signalsListening receiving e, h.completionsListening receiving⟩

theorem Orderly.producer {t u : Producer.State}
    (h : Orderly n initial sent completed (s.putProducer e t))
    (change : Producer.State.Change t u) :
    ∃ sent' completed', Orderly n initial sent' completed' (s.putProducer e u) := by
  have state := producerState_putProducer s e t
  have orderly : t.producer.Orderly n (sent e) (completed e) := by
    have := h.producers e
    cases e <;> exact this
  have listening : completed e = 0 →
      t.outlets.signals.listening = true ∧ t.outlets.completions.listening = true := by
    intro owed
    have := h.listening owed
    rwa [state] at this
  obtain ⟨k, m, moved, moves⟩ := orderly.step change listening
  exact ⟨_, _, h.advance (.putProducer moves) (by cases e <;> exact moved)⟩

theorem Orderly.takePlace {t : Producer.State}
    (h : Orderly n initial sent completed (s.putProducer e t)) :
    ∃ sent' completed', Orderly n initial sent' completed' (s.putProducer e t.takePlace) := by
  have orderly : t.producer.Orderly n (sent e) (completed e) := by
    have := h.producers e
    cases e <;> exact this
  obtain ⟨moved, moves⟩ := orderly.takePlace
  exact ⟨_, _, h.advance (.putProducer moves) (by cases e <;> exact moved)⟩

/-! ## Steps of the coordinator -/

/-- What two orderly producers send fits when `n` signals up and `n` signals down do. -/
theorem Orderly.inRange (h : Orderly n initial sent completed s) (up : initial + n ≤ counterMax)
    (down : counterMin ≤ initial - n) : (intake initial sent completed).InRange := by
  have hi := (h.producers .increment).station.sent_le
  have hd := (h.producers .decrement).station.sent_le
  unfold counterMax at up
  unfold counterMin at down
  refine ⟨?_, ?_, ?_⟩ <;> simp only [intake, counterMax, counterMin, countMax] <;> omega

theorem Orderly.coordinator {t : Coordinator.State} (h : Orderly n initial sent completed s)
    (up : initial + n ≤ counterMax) (down : counterMin ≤ initial - n)
    (change : Change s.coordinatorState t) :
    Orderly n initial sent completed (s.putCoordinator t) := by
  have fine := h.books.not_overflowed (h.inRange up down) change h.fine
  have books := h.books.step change fine
  have receiving : s.coordinator.Receiving := change.not_ended
  have senders : t.inlets.completions.senders = s.inlets.completions.senders := by
    rcases change.inlets fine with ⟨-, drawn⟩ | ⟨-, hung⟩
    · exact drawn.completions.senders_eq
    · rw [hung]
      rfl
  refine ⟨h.producers, books.withEvents [], (h.emptied.step h.books change).withEvents [],
    fun e => ?_, fine, fun still e => ?_, fun still => ?_, senders.trans h.ends⟩
  · exact (change.effect_eq fine (side e)).trans (h.effect e)
  · rcases change.inlets fine with ⟨-, drawn⟩ | ⟨⟨o, ended⟩, -⟩
    · cases e
      · exact drawn.first.listening_eq.trans (h.signalsListening receiving .increment)
      · exact drawn.second.listening_eq.trans (h.signalsListening receiving .decrement)
    · exact absurd ended (still o)
  · rcases change.inlets fine with ⟨-, drawn⟩ | ⟨⟨o, ended⟩, -⟩
    · exact drawn.completions.listening_eq.trans (h.completionsListening receiving)
    · exact absurd ended (still o)

/-! ## Outcomes -/

/-- The ledger of a full count. -/
structure Full (n : Nat) (initial : Int) (l : Ledger) : Prop where
  value : l.value = initial
  increments : l.increments = n
  decrements : l.decrements = n
  completions : l.completions = Effect.all.length
  drained : l.drained ≤ 2 * n

theorem Orderly.outcome (h : Orderly n initial sent completed s) {o : Outcome}
    (stands : s.coordinator.outcome? = some o) : ∃ l, o = .counted l ∧ Full n initial l := by
  cases o with
  | overflowed => exact absurd stands h.fine
  | lost r => exact absurd stands (h.not_lost r)
  | counted l =>
    obtain ⟨hl, value, -, le, drained⟩ := h.books.counted l stands
    have all := h.books.completions_eq stands
    simp only [intake, Effect.all, List.length_cons, List.length_nil] at all le
    have up := (h.producers .increment).station.completed_le
    have down := (h.producers .decrement).station.completed_le
    have sent_up := (h.producers .increment).station.sent_eq (by omega)
    have sent_down := (h.producers .decrement).station.sent_eq (by omega)
    have increments : l.increments = n := (h.emptied.counted l stands .increment).trans sent_up
    have decrements : l.decrements = n := (h.emptied.counted l stands .decrement).trans sent_down
    have counter := h.books.counter
    rw [← hl, ← value, increments, decrements] at counter
    refine ⟨l, rfl, ?_, increments, decrements, all, ?_⟩
    · simp only [intake] at counter
      omega
    · unfold Ledger.applied at drained
      omega

end SharedCounter.Team
