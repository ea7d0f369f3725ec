import SharedCounter.Proofs.Producer.Change

/-!
# Orderly producers keep to their plan

* `Station n acts sent completed` : the places in the plan of `n` signals, with what has been sent
  before each of them;
* `Orderly n p sent completed` : the producer `p` stands at such a place, and neither fails nor lets
  go of an end before it has finished;
* `Moves s t signals completions` : what a step puts into the two channels;
* `Orderly.step` : an orderly producer stays orderly, and what it puts into the channels is what it
  has come forward. `Orderly.takePlace` : so does one that takes a place in a queue.
-/

namespace SharedCounter.Producer

/-- The acts that an orderly producer of `n` signals has before it when it has sent `sent` signals
and `completed` completions. -/
inductive Station (n : Nat) : List Act → Nat → Nat → Prop where
  | starting : Station n [.announce .producerStarting (some n), .send n, .complete,
      .announce .producerFinished (some n)] 0 0
  | sending {sent left : Nat} (h : sent + left = n) :
      Station n [.send left, .complete, .announce .producerFinished (some n)] sent 0
  | completing : Station n [.complete, .announce .producerFinished (some n)] n 0
  | finishing : Station n [.announce .producerFinished (some n)] n 1
  | finished : Station n [] n 1

/-- A producer that keeps to the plan of `n` signals, of which it has sent `sent`. -/
structure Orderly (n : Nat) (p : Producer) (sent completed : Nat) : Prop where
  station : Station n p.acts sent completed
  verdict : p.verdict = none ∨ p.verdict = some .finished ∧ p.acts = []
  holds : p.verdict = none → p.holdsSignals = true ∧ p.holdsCompletion = true

variable {n sent completed : Nat}

theorem Orderly.start (name : String) (n : Nat) : Orderly n { name, acts := Act.plan n } 0 0 :=
  ⟨.starting, .inl rfl, fun _ => ⟨rfl, rfl⟩⟩

theorem Station.sent_le {acts : List Act} (h : Station n acts sent completed) : sent ≤ n := by
  cases h <;> omega

theorem Station.completed_le {acts : List Act} (h : Station n acts sent completed) :
    completed ≤ 1 := by
  cases h <;> omega

/-- The completion comes after the last signal. -/
theorem Station.sent_eq {acts : List Act} (h : Station n acts sent completed)
    (complete : completed = 1) : sent = n := by
  cases h <;> simp_all

/-- A producer that has let go of its completion end has sent its completion. -/
theorem Orderly.completed_of_gone {p : Producer} (h : Orderly n p sent completed)
    (gone : p.holdsCompletion = false) : completed = 1 := by
  rcases h.verdict with going | ⟨-, none_left⟩
  · have := (h.holds going).2
    simp [gone] at this
  · have station := h.station
    rw [none_left] at station
    cases station
    rfl

/-- Only orderly verdicts. -/
theorem Orderly.verdict_eq {p : Producer} {v : Verdict} (h : Orderly n p sent completed)
    (hv : p.verdict = some v) : v = .finished := by
  rcases h.verdict with going | ⟨judged, -⟩
  · rw [going] at hv
    cases hv
  · rw [judged] at hv
    exact (Option.some.inj hv).symm

/-- What a producer still does does not hang on where its send waits. -/
theorem Orderly.wait {p : Producer} (h : Orderly n p sent completed) (place : Option Ticket) :
    Orderly n { p with place } sent completed :=
  ⟨h.station, h.verdict, h.holds⟩

theorem Orderly.next {p : Producer} {acts : List Act} {sent' completed' : Nat}
    (h : Orderly n p sent completed) (going : p.verdict = none)
    (station : Station n acts sent' completed') : Orderly n (p.next acts) sent' completed' :=
  ⟨station, .inl going, h.holds⟩

/-- What a step puts into the channels, and the ends that it lets go. -/
structure Moves (s t : State) (signals completions : Nat) : Prop where
  signals : t.outlets.signals.buffered = s.outlets.signals.buffered + signals
  completions : t.outlets.completions.buffered = s.outlets.completions.buffered + completions
  signalsListening : t.outlets.signals.listening = s.outlets.signals.listening
  completionsListening : t.outlets.completions.listening = s.outlets.completions.listening
  ends : t.outlets.completions.senders
    = s.outlets.completions.senders
      - (s.producer.holdsCompletion.toNat - t.producer.holdsCompletion.toNat)
  holds : t.producer.holdsCompletion = true → s.producer.holdsCompletion = true

theorem Moves.still {s t : State} (outlets : t.outlets = s.outlets)
    (holds : t.producer.holdsCompletion = s.producer.holdsCompletion) : Moves s t 0 0 := by
  constructor <;> simp [outlets, holds]

theorem Moves.onSignals {s t : State} {c : Channel} {k : Nat}
    (outlets : t.outlets = { s.outlets with signals := c })
    (holds : t.producer.holdsCompletion = s.producer.holdsCompletion)
    (buffered : c.buffered = s.outlets.signals.buffered + k)
    (listening : c.listening = s.outlets.signals.listening) : Moves s t k 0 := by
  constructor <;> simp [outlets, holds, buffered, listening]

theorem Moves.onCompletions {s t : State} {c : Channel} {k : Nat}
    (outlets : t.outlets = { s.outlets with completions := c })
    (holds : t.producer.holdsCompletion = s.producer.holdsCompletion)
    (buffered : c.buffered = s.outlets.completions.buffered + k)
    (senders : c.senders = s.outlets.completions.senders)
    (listening : c.listening = s.outlets.completions.listening) : Moves s t 0 k := by
  constructor <;> simp [outlets, holds, buffered, senders, listening]

/-- An orderly producer stays orderly while the receivers are there, and a step brings it forward by
what it puts into the channels. -/
theorem Orderly.step {s t : State} (h : Orderly n s.producer sent completed)
    (change : State.Change s t)
    (listening : completed = 0 →
      s.outlets.signals.listening = true ∧ s.outlets.completions.listening = true) :
    ∃ k m, Orderly n t.producer (sent + k) (completed + m) ∧ Moves s t k m := by
  have station := h.station
  cases change with
  | announce going acts =>
    rw [acts] at station
    cases station with
    | starting => exact ⟨0, 0, h.next going (.sending (Nat.zero_add n)), .still rfl rfl⟩
    | finishing => exact ⟨0, 0, h.next going .finished, .still rfl rfl⟩
  | skip going acts idle =>
    obtain ⟨signals, completion⟩ := h.holds going
    rw [acts] at station
    cases idle with
    | nothing =>
      cases station with
      | sending left => exact ⟨0, 0, h.next going (left ▸ .completing), .still rfl rfl⟩
    | signals n gone | dropSignals gone => simp [gone] at signals
    | completion gone | dropCompletion gone => simp [gone] at completion
  | signal going acts holds poll =>
    obtain ⟨-, buffered, -, hl⟩ := Channel.buffered_of_sent poll
    rw [acts] at station
    cases station with
    | sending left =>
      exact ⟨1, 0, h.next going (.sending (by omega)), .onSignals rfl rfl buffered hl⟩
  | signalWaits going acts holds poll =>
    have quiet := Channel.quiet_of_waiting poll
    exact ⟨0, 0, h.wait _, .onSignals rfl rfl quiet.buffered quiet.listening⟩
  | signalRefused going acts holds poll =>
    obtain ⟨deaf, -⟩ := Channel.eq_of_refused poll
    rw [acts] at station
    cases station with
    | sending => simp [deaf] at listening
  | completion going acts holds poll =>
    obtain ⟨-, buffered, senders, hl⟩ := Channel.buffered_of_sent poll
    rw [acts] at station
    cases station with
    | completing =>
      exact ⟨0, 1, h.next going .finishing, .onCompletions rfl rfl buffered senders hl⟩
  | completionWaits going acts holds poll =>
    have quiet := Channel.quiet_of_waiting poll
    exact ⟨0, 0, h.wait _, .onCompletions rfl rfl quiet.buffered quiet.senders quiet.listening⟩
  | completionRefused going acts holds poll =>
    obtain ⟨deaf, -⟩ := Channel.eq_of_refused poll
    rw [acts] at station
    cases station with
    | completing => simp [deaf] at listening
  | dropSignals going acts | dropCompletion going acts | fail going acts | crash going acts
  | produce going acts =>
    rw [acts] at station
    cases station
  | finish going acts =>
    refine ⟨0, 0, ⟨station, .inr ⟨rfl, acts⟩, by rintro ⟨⟩⟩, .still rfl rfl⟩
  | letGoSignals judged holds =>
    refine ⟨0, 0, ⟨station, h.verdict, fun hv => ?_⟩, .onSignals rfl rfl rfl rfl⟩
    exact absurd (hv.symm.trans judged) (by simp)
  | letGoCompletion judged gone holds =>
    refine ⟨0, 0, ⟨station, h.verdict, fun hv => ?_⟩, rfl, rfl, rfl, rfl, ?_, fun _ => holds⟩
    · exact absurd (hv.symm.trans judged) (by simp)
    · simp [State.letGoCompletion, holds, Channel.dropSender]

/-- A place in a queue puts nothing into the channels. -/
theorem Moves.takePlace (s : State) : Moves s s.takePlace 0 0 := by
  unfold State.takePlace
  dsimp only
  split
  · have quiet := Channel.Quiet.takePlace s.outlets.completions
    exact .onCompletions rfl rfl quiet.buffered quiet.senders quiet.listening
  · have quiet := Channel.Quiet.takePlace s.outlets.signals
    exact .onSignals rfl rfl quiet.buffered quiet.listening

/-- Taking a place brings a producer no further. -/
theorem Orderly.takePlace {s : State} (h : Orderly n s.producer sent completed) :
    Orderly n s.takePlace.producer sent completed ∧ Moves s s.takePlace 0 0 := by
  refine ⟨?_, .takePlace s⟩
  unfold State.takePlace
  dsimp only
  split <;> exact h.wait _

end SharedCounter.Producer
