import SharedCounter.Proofs.Coordinator.Change

/-!
# The books of a coordinator balance

* `Intake` : what has been sent to a count, and what the count began with;
* `Books a s` : every signal and every completion of the intake is either booked or still buffered,
  the counter is what the books say, and an outcome is what the books allow. Steps keep it
  (`Books.step`), and so does whatever is sent in the meantime (`Books.deposit`);
* `Emptied a s` : no signal is left behind. Steps keep it (`Emptied.step`), but a signal that is sent
  after the last completion may break it (`Emptied.deposit`);
* `Intake.InRange` : no order of the signals can take a sum out of its range, and then no step does
  (`Books.not_overflowed`).
-/

namespace SharedCounter.Coordinator

/-- What a count began with, and what has been sent to it since. -/
structure Intake where
  initial : Int
  /-- The completions that are waited for. -/
  producers : Nat
  signals : Effect → Nat
  completions : Nat

/-- No order of these signals takes a sum out of its range. -/
structure Intake.InRange (a : Intake) : Prop where
  up : a.initial + a.signals .increment ≤ counterMax
  down : counterMin ≤ a.initial - a.signals .decrement
  total : a.signals .increment + a.signals .decrement ≤ countMax

theorem Intake.InRange.mono {a b : Intake} (range : b.InRange) (initial : a.initial = b.initial)
    (le : ∀ e, a.signals e ≤ b.signals e) : a.InRange := by
  have up := le .increment
  have down := le .decrement
  have hu := range.up
  have hd := range.down
  have ht := range.total
  refine ⟨?_, ?_, ?_⟩ <;> (try rw [initial]) <;> omega

theorem buffered_le_signalsOf (c : Coordinator) (i : Inlets) (side : Side) :
    (i.signals side).buffered ≤ c.signalsOf i (c.effect side) := by
  cases side <;> simp [signalsOf, effect, Inlets.signals]

namespace State

/-- Everything sent is booked or still buffered, and the rest agrees with the books. -/
structure Books (a : Intake) (s : State) : Prop where
  counter : s.coordinator.counter
    = a.initial + s.coordinator.ledger.increments - s.coordinator.ledger.decrements
  countdown : s.coordinator.remaining + s.coordinator.ledger.completions = a.producers
  signals : s.coordinator.Receiving → ∀ e,
    s.coordinator.ledger.of e + s.coordinator.signalsOf s.inlets e = a.signals e
  completions : s.coordinator.Receiving →
    s.coordinator.ledger.completions + s.inlets.completions.buffered = a.completions
  draining : ∀ before side progressed, s.coordinator.stage = .draining before side progressed →
    s.coordinator.remaining = 0
  counted : ∀ l, s.coordinator.outcome? = some (.counted l) →
    l = s.coordinator.ledger ∧ l.value = s.coordinator.counter ∧ s.coordinator.remaining = 0 ∧
      l.completions ≤ a.completions ∧ l.drained ≤ l.applied
  lost : ∀ n, s.coordinator.outcome? = some (.lost n) →
    n = s.coordinator.remaining ∧ 0 < n ∧ s.coordinator.ledger.completions = a.completions ∧
      s.inlets.completions.senders = 0

theorem Books.create {a : Intake} {e f : Effect} {i : Inlets} {es : List Event}
    (signals : ∀ g, (Coordinator.create a.initial a.producers e f).signalsOf i g = a.signals g)
    (completions : i.completions.buffered = a.completions) :
    Books a ⟨.create a.initial a.producers e f, i, es⟩ where
  counter := by simp [Coordinator.create]
  countdown := rfl
  signals _ g := by
    rw [← signals g]
    cases g <;> simp [Coordinator.create, Ledger.of]
  completions _ := by simp [Coordinator.create, completions]
  draining := by rintro _ _ _ ⟨⟩
  counted := by rintro _ ⟨⟩
  lost := by rintro _ ⟨⟩

theorem Books.withEvents {a : Intake} {s : State} (books : Books a s) (es : List Event) :
    Books a { s with events := es } :=
  ⟨books.counter, books.countdown, books.signals, books.completions, books.draining, books.counted,
    books.lost⟩

/-! ## Steps -/

theorem Books.credit {a : Intake} {s : State} {side : Side} {ch : Channel} {stage : Stage}
    (books : Books a s) (receiving : s.coordinator.Receiving)
    (going : stage = .running ∨ ∃ before side' progressed,
      stage = .draining before side' progressed ∧ s.coordinator.remaining = 0)
    (taken : (s.inlets.signals side).take? = some ch) :
    Books a { s with
      coordinator := { s.coordinator.credit (s.coordinator.effect side) with stage }
      inlets := s.inlets.setSignals side ch } := by
  have outcome : ∀ o, outcome? { s.coordinator.credit (s.coordinator.effect side) with stage }
      ≠ some o := by
    intro o
    rcases going with rfl | ⟨_, _, _, rfl, _⟩ <;> simp [outcome?]
  refine ⟨?_, ?_, fun _ e => ?_, fun _ => ?_, fun _ _ _ h => ?_, fun l h => absurd h (outcome _),
    fun n h => absurd h (outcome _)⟩
  · have h := books.counter
    cases he : s.coordinator.effect side <;>
      simp only [Coordinator.credit, Effect.delta, Ledger.booked] <;> omega
  · simpa [Coordinator.credit] using books.countdown
  · have h := books.signals receiving e
    rw [signalsOf_setSignals taken e] at h
    simp only [Coordinator.credit, Ledger.of_booked]
    have hs : signalsOf
        { s.coordinator with
          counter := s.coordinator.counter + (s.coordinator.effect side).delta
          ledger := s.coordinator.ledger.booked (s.coordinator.effect side)
          stage } (s.inlets.setSignals side ch) e
        = s.coordinator.signalsOf (s.inlets.setSignals side ch) e := rfl
    rw [hs]
    omega
  · have h := books.completions receiving
    have hi : (s.inlets.setSignals side ch).completions = s.inlets.completions := by
      cases side <;> rfl
    simpa [Coordinator.credit, hi] using h
  · rcases going with rfl | ⟨_, _, _, rfl, complete⟩
    · cases h
    · exact complete

/-- Draining begins, or its turn passes on. -/
theorem Books.turn {a : Intake} {s : State} {before : Nat} {side : Side} {progressed : Bool}
    {es : List Event} (books : Books a s) (receiving : s.coordinator.Receiving)
    (complete : s.coordinator.remaining = 0) :
    Books a ⟨{ s.coordinator with stage := .draining before side progressed }, s.inlets, es⟩ :=
  ⟨books.counter, books.countdown, fun _ e => books.signals receiving e,
    fun _ => books.completions receiving, fun _ _ _ _ => complete, by rintro _ ⟨⟩,
    by rintro _ ⟨⟩⟩

theorem Books.close {a : Intake} {s : State} {side : Side} (books : Books a s)
    (running : s.coordinator.stage = .running) :
    Books a { s with coordinator := s.coordinator.close side } := by
  have receiving := receiving_of_running running
  cases side <;>
    exact ⟨books.counter, books.countdown, fun _ e => books.signals receiving e,
      fun _ => books.completions receiving, books.draining, books.counted, books.lost⟩

theorem Books.countDown {a : Intake} {s : State} {ch : Channel} {es : List Event}
    (books : Books a s) (running : s.coordinator.stage = .running)
    (missing : s.coordinator.remaining ≠ 0) (taken : s.inlets.completions.take? = some ch) :
    Books a ⟨s.coordinator.countDown, { s.inlets with completions := ch }, es⟩ := by
  have receiving := receiving_of_running running
  have buffered := Channel.buffered_of_take? taken
  refine ⟨books.counter, ?_, fun _ e => books.signals receiving e, fun _ => ?_, fun _ _ _ h => ?_,
    fun _ h => ?_, fun _ h => ?_⟩
  · have h := books.countdown
    simp only [Coordinator.countDown]
    omega
  · have h := books.completions receiving
    simp only [Coordinator.countDown]
    omega
  · simp [Coordinator.countDown, running] at h
  · simp [Coordinator.countDown, outcome?, running] at h
  · simp [Coordinator.countDown, outcome?, running] at h

theorem Books.lose {a : Intake} {s : State} (books : Books a s)
    (running : s.coordinator.stage = .running) (missing : s.coordinator.remaining ≠ 0)
    (empty : s.inlets.completions.buffered = 0) (gone : s.inlets.completions.senders = 0) :
    Books a (s.leave (.lost s.coordinator.remaining)) := by
  have receiving := receiving_of_running running
  refine ⟨books.counter, books.countdown, fun _ e => books.signals receiving e,
    fun _ => books.completions receiving, by rintro _ _ _ ⟨⟩, by rintro _ ⟨⟩,
    fun n h => ?_⟩
  have completions := books.completions receiving
  rw [empty] at completions
  cases h
  exact ⟨rfl, Nat.pos_of_ne_zero missing, completions, gone⟩

theorem Books.finish {a : Intake} {s : State} {before : Nat} {progressed : Bool} {side : Side}
    {es : List Event} (books : Books a s)
    (draining : s.coordinator.stage = .draining before side progressed) :
    Books a ⟨{ s.coordinator with
        ledger := s.coordinator.closing before
        stage := .leaving (.counted (s.coordinator.closing before)) }, s.inlets, es⟩ := by
  have receiving := receiving_of_draining draining
  have completions := books.completions receiving
  refine ⟨books.counter, books.countdown, fun _ e => ?_, fun _ => completions,
    by rintro _ _ _ ⟨⟩, fun l h => ?_, by rintro _ ⟨⟩⟩
  · have h := books.signals receiving e
    cases e <;> exact h
  · cases h
    refine ⟨rfl, rfl, books.draining _ _ _ draining, ?_, Nat.sub_le _ _⟩
    show s.coordinator.ledger.completions ≤ a.completions
    omega

theorem Books.depart {a : Intake} {s : State} {o : Outcome} (books : Books a s)
    (leaving : s.coordinator.stage = .leaving o) :
    Books a { s with coordinator := { s.coordinator with stage := .ended o },
                     inlets := s.inlets.hangUp } := by
  have same := outcome?_of_leaving leaving
  refine ⟨books.counter, books.countdown, fun h => absurd rfl (h o), fun h => absurd rfl (h o),
    by rintro _ _ _ ⟨⟩, fun l h => ?_, fun n h => ?_⟩
  · cases h
    exact books.counted l same
  · cases h
    exact books.lost n same

/-- Every step keeps the books, unless a sum leaves its range. -/
theorem Books.step {a : Intake} {s t : State} (books : Books a s) (change : Change s t)
    (fine : t.coordinator.outcome? ≠ some .overflowed) : Books a t := by
  cases change with
  | @signal side ch running missing isOpen taken fits =>
    have h : Books a { s with
        coordinator := { s.coordinator.credit (s.coordinator.effect side) with stage := .running }
        inlets := s.inlets.setSignals side ch } :=
      books.credit (receiving_of_running running) (.inl rfl) taken
    rw [← running] at h
    exact h
  | close running => exact books.close running
  | completion running missing taken => exact books.countDown running missing taken
  | lose running missing empty gone => exact books.lose running missing empty gone
  | begin running complete => exact books.turn (receiving_of_running running) complete
  | @drain before side progressed ch draining taken =>
    refine books.credit (receiving_of_draining draining) (.inr ?_) taken
    have complete := books.draining _ _ _ draining
    cases side
    · exact ⟨_, _, _, rfl, complete⟩
    · exact ⟨_, _, _, rfl, complete⟩
  | pass draining | again draining =>
    exact books.turn (receiving_of_draining draining) (books.draining _ _ _ draining)
  | finish draining => exact books.finish draining
  | depart leaving => exact books.depart leaving
  | overflow _ _ left => exact absurd (outcome?_of_leaving left) fine

/-! ## What the books tell -/

theorem Books.completions_le {a : Intake} {s : State} (books : Books a s)
    (fine : s.coordinator.outcome? ≠ some .overflowed) :
    s.coordinator.ledger.completions ≤ a.completions := by
  rcases receiving_or_ended s.coordinator with receiving | ⟨o, ended⟩
  · exact Nat.le.intro (books.completions receiving)
  · have outcome := outcome?_of_ended ended
    cases o with
    | counted l =>
      obtain ⟨rfl, -, -, completions, -⟩ := books.counted l outcome
      exact completions
    | lost n =>
      obtain ⟨-, -, completions, -⟩ := books.lost n outcome
      exact Nat.le_of_eq completions
    | overflowed => exact absurd outcome fine

/-- A count has as many completions as were waited for. -/
theorem Books.completions_eq {a : Intake} {s : State} {l : Ledger} (books : Books a s)
    (counted : s.coordinator.outcome? = some (.counted l)) : l.completions = a.producers := by
  obtain ⟨rfl, -, complete, -⟩ := books.counted l counted
  have countdown := books.countdown
  rwa [complete, Nat.zero_add] at countdown

/-- A coordinator that misses completions waits for them, unless they are lost. -/
theorem Books.running_or_lost {a : Intake} {s : State} (books : Books a s)
    (fine : s.coordinator.outcome? ≠ some .overflowed) (missing : s.coordinator.remaining ≠ 0) :
    s.coordinator.stage = .running ∨ ∃ n, s.coordinator.outcome? = some (.lost n) := by
  cases hs : s.coordinator.stage with
  | running => exact .inl rfl
  | draining => exact absurd (books.draining _ _ _ hs) missing
  | leaving o | ended o =>
    have outcome : s.coordinator.outcome? = some o := by rw [outcome?, hs]
    cases o with
    | counted l => exact absurd (books.counted l outcome).2.2.1 missing
    | lost n => exact .inr ⟨n, outcome⟩
    | overflowed => exact absurd outcome fine

/-! ## Sending in the meantime -/

/-- Whatever is sent goes to the buffers, as long as there are ends to send with. -/
theorem Books.deposit {a b : Intake} {s : State} {i : Inlets} (books : Books a s)
    (initial : b.initial = a.initial) (producers : b.producers = a.producers)
    (signals : s.coordinator.Receiving → ∀ e, s.coordinator.signalsOf i e + a.signals e
      = s.coordinator.signalsOf s.inlets e + b.signals e)
    (completions : s.coordinator.Receiving → i.completions.buffered + a.completions
      = s.inlets.completions.buffered + b.completions)
    (more : a.completions ≤ b.completions)
    (gone : s.inlets.completions.senders = 0 →
      i.completions.senders = 0 ∧ b.completions = a.completions) :
    Books b { s with inlets := i } := by
  refine ⟨by rw [initial]; exact books.counter, by rw [producers]; exact books.countdown,
    fun receiving e => ?_, fun receiving => ?_, books.draining, fun l h => ?_, fun n h => ?_⟩
  · have h := books.signals receiving e
    have hd := signals receiving e
    show s.coordinator.ledger.of e + s.coordinator.signalsOf i e = b.signals e
    omega
  · have h := books.completions receiving
    have hd := completions receiving
    show s.coordinator.ledger.completions + i.completions.buffered = b.completions
    omega
  · obtain ⟨hl, hv, hr, hc, hd⟩ := books.counted l h
    exact ⟨hl, hv, hr, Nat.le_trans hc more, hd⟩
  · obtain ⟨hn, hp, hc, hs⟩ := books.lost n h
    obtain ⟨still, same⟩ := gone hs
    exact ⟨hn, hp, hc.trans same.symm, still⟩

/-! ## No signal is left behind -/

/-- A round of draining that finds nothing has found both channels empty. -/
structure Emptied (a : Intake) (s : State) : Prop where
  first : ∀ before, s.coordinator.stage = .draining before .second false →
    s.inlets.first.buffered = 0
  counted : ∀ l, s.coordinator.outcome? = some (.counted l) → ∀ e, l.of e = a.signals e

theorem Emptied.withEvents {a : Intake} {s : State} (emptied : Emptied a s) (es : List Event) :
    Emptied a { s with events := es } :=
  ⟨emptied.first, emptied.counted⟩

theorem Emptied.of_running {a : Intake} {s : State} (running : s.coordinator.stage = .running) :
    Emptied a s := by
  refine ⟨fun before h => ?_, fun l h => ?_⟩
  · rw [running] at h
    cases h
  · simp [outcome?, running] at h

/-- A coordinator that misses completions has not begun to drain. -/
theorem Emptied.of_missing {a b : Intake} {s : State} (books : Books a s)
    (missing : s.coordinator.remaining ≠ 0) : Emptied b s := by
  refine ⟨fun before draining => ?_, fun l counted => ?_⟩
  · exact absurd (books.draining _ _ _ draining) missing
  · exact absurd (books.counted l counted).2.2.1 missing

/-- Every step keeps it. The round ends with the second channel, when the first was empty before. -/
theorem Emptied.step {a : Intake} {s t : State} (emptied : Emptied a s) (books : Books a s)
    (change : Change s t) : Emptied a t := by
  cases change with
  | signal running | completion running | close running => exact .of_running (by simpa using running)
  | lose | begin | again => exact ⟨by rintro _ ⟨⟩, by rintro _ ⟨⟩⟩
  | @drain before side =>
    cases side <;> exact ⟨by rintro _ ⟨⟩, by rintro _ ⟨⟩⟩
  | pass draining empty => exact ⟨fun _ _ => empty, by rintro _ ⟨⟩⟩
  | @finish before draining empty =>
    refine ⟨by rintro _ ⟨⟩, fun l h e => ?_⟩
    have signals := books.signals (receiving_of_draining draining) e
    have none_left : s.coordinator.signalsOf s.inlets e = 0 := by
      simp [signalsOf, empty, emptied.first before draining]
    cases h
    simpa [none_left] using signals
  | @depart o leaving =>
    refine ⟨by rintro _ ⟨⟩, fun l h => ?_⟩
    cases h
    exact emptied.counted l (outcome?_of_leaving leaving)
  | overflow _ _ left =>
    refine ⟨fun _ h => ?_, fun l h => ?_⟩
    · rw [left] at h
      cases h
    · simp [outcome?, left] at h

/-- Signals may only be sent while completions are missing. -/
theorem Emptied.deposit {a b : Intake} {s : State} {i : Inlets} (emptied : Emptied a s)
    (quiet : s.coordinator.stage = .running ∨
      (b.signals = a.signals ∧ i.first.buffered = s.inlets.first.buffered)) :
    Emptied b { s with inlets := i } := by
  rcases quiet with running | ⟨signals, first⟩
  · exact .of_running running
  · refine ⟨fun before h => ?_, fun l h e => ?_⟩
    · exact first.trans (emptied.first before h)
    · rw [signals]
      exact emptied.counted l h e

/-! ## Ranges -/

/-- The next signal of a buffer fits, when all that was sent fits in any order. -/
theorem Books.fits {a : Intake} {s : State} (books : Books a s) (range : a.InRange)
    (receiving : s.coordinator.Receiving) {side : Side}
    (found : 0 < (s.inlets.signals side).buffered) :
    s.coordinator.Fits (s.coordinator.effect side) := by
  have := range.up
  have := range.down
  have := range.total
  have counter := books.counter
  have up := books.signals receiving .increment
  have down := books.signals receiving .decrement
  have buffered := buffered_le_signalsOf s.coordinator s.inlets side
  simp only [Ledger.of] at up down
  cases he : s.coordinator.effect side <;> rw [he] at buffered <;>
    refine ⟨?_, ?_, ?_⟩ <;> simp only [Effect.delta, Ledger.of] <;> omega

/-- A step out of range needs an intake out of range. -/
theorem Books.not_overflowed {a : Intake} {s t : State} (books : Books a s) (range : a.InRange)
    (change : Change s t) (fine : s.coordinator.outcome? ≠ some .overflowed) :
    t.coordinator.outcome? ≠ some .overflowed := by
  cases change with
  | signal running | completion running | close running => simp [outcome?, running]
  | lose | begin | pass | again | finish => simp [outcome?, leave, note]
  | @drain before side => cases side <;> simp [outcome?, found]
  | @depart o leaving =>
    rw [outcome?_of_leaving leaving] at fine
    exact fine
  | overflow going overflows =>
    have receiving : s.coordinator.Receiving := by
      intro o ho
      simp [outcome?, ho] at going
    rcases overflows with ⟨side, found, out⟩ | out
    · exact absurd (books.fits range receiving found) out
    · have := range.total
      have up := books.signals receiving .increment
      have down := books.signals receiving .decrement
      simp only [Ledger.of] at up down
      simp only [Ledger.applied] at out
      omega

end State

end SharedCounter.Coordinator
