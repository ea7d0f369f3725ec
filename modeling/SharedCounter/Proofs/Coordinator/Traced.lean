import SharedCounter.Proofs.Bus
import SharedCounter.Proofs.Coordinator.Trace
import SharedCounter.Proofs.Schedule

/-!
# A coordinator on a bus

* `TracedCoordinator`, `TracedCoordinator.act` : a coordinator that publishes on a bus. Between its
  steps anybody may do anything to its channels, publish on the same bus, and begin or end to
  listen;
* `TracedCoordinator.Published`, `TracedCoordinator.Told` : what it has published is numbered upwards,
  and is the trace of its account. Every act keeps both (`Published.act`, `Told.act`);
* `TracedCoordinator.tells_exactly` : what was told, by what the coordinator has come to.
-/

namespace SharedCounter

open Coordinator

/-- A coordinator and the bus that it publishes on. -/
structure TracedCoordinator where
  coordinator : Coordinator
  inlets : Inlets
  bus : Bus
  /-- The number of the next event, whoever makes it. -/
  seq : Nat := 0
  /-- The events that the coordinator has published, in order. -/
  told : List Stamped := []
  /-- The completions that the coordinator has taken out of their channel. -/
  collected : Nat := 0
  /-- Whether there was a time when nobody listened. -/
  deserted : Bool := false
  deriving DecidableEq, Repr

namespace TracedCoordinator

/-- What can happen to a coordinator on a bus. -/
inductive Act where
  /-- A step of the coordinator, which serves `b` while it runs. -/
  | step (b : Branch)
  /-- The channels are left as they are in `i`. -/
  | become (i : Inlets)
  /-- Somebody else publishes. -/
  | publish (es : List Event)
  | subscribe
  | unsubscribe
  deriving DecidableEq, Repr

/-- The coordinator has moved to `t`, and publishes what it made on the way. -/
def tell (s : TracedCoordinator) (t : State) : TracedCoordinator where
  coordinator := t.coordinator
  inlets := t.inlets
  bus := s.bus.publishAll s.seq t.events
  seq := s.seq + t.events.length
  told := s.told ++ stampFrom s.seq t.events
  collected := s.collected + Coordinator.collected ⟨s.coordinator, s.inlets, []⟩ t
  deserted := s.deserted

/-- One act, undefined where the coordinator waits or has ended. -/
def act (s : TracedCoordinator) : Act → Option TracedCoordinator
  | .step b => (State.step ⟨s.coordinator, s.inlets, []⟩ b).map s.tell
  | .become inlets => some { s with inlets }
  | .publish es =>
    some { s with bus := s.bus.publishAll s.seq es, seq := s.seq + es.length }
  | .subscribe => some { s with bus := s.bus.subscribe.1 }
  | .unsubscribe =>
    some { s with bus := s.bus.unsubscribe
                  deserted := s.deserted || s.bus.unsubscribe.listeners = 0 }

/-- A coordinator of `p` completions before its first step, on a bus of any age. -/
def start (initial : Int) (p : Nat) (e f : Effect) (inlets : Inlets) (bus : Bus) (seq : Nat) :
    TracedCoordinator where
  coordinator := .create initial p e f
  inlets := inlets
  bus := bus
  seq := seq
  deserted := bus.listeners = 0

variable {p : Nat} {counts : List Nat} {s t : TracedCoordinator} {a : Act}

/-! ## What every act keeps -/

/-- What was published is numbered upwards, and it has entered the history of the bus if somebody
has listened all the time. -/
structure Published (s : TracedCoordinator) : Prop where
  sorted : s.told.Pairwise (·.seq < ·.seq)
  numbered : ∀ e ∈ s.told, e.seq < s.seq
  listened : s.deserted = false → 0 < s.bus.listeners
  entered : s.deserted = false → s.told.Sublist s.bus.history.toList

theorem Published.start {initial : Int} {e f : Effect} {i : Inlets} {bus : Bus} {seq : Nat} :
    (start initial p e f i bus seq).Published := by
  refine ⟨.nil, by rintro _ ⟨⟩, fun listened => ?_, fun _ => List.nil_sublist _⟩
  exact Nat.pos_of_ne_zero (of_decide_eq_false listened)

/-- The events `es` take the next numbers, and those of them that the coordinator has made are
`told`. -/
theorem Published.publish (h : s.Published) (es : List Event) {new : List Stamped}
    (told : new.Sublist (stampFrom s.seq es)) :
    { s with bus := s.bus.publishAll s.seq es, seq := s.seq + es.length,
             told := s.told ++ new }.Published := by
  refine ⟨?_, fun e he => ?_, fun listened => ?_, fun listened => ?_⟩
  · refine List.pairwise_append.mpr ⟨h.sorted, (pairwise_stampFrom _ _).sublist told, ?_⟩
    intro e he f hf
    have before := h.numbered e he
    have after := (seq_of_mem_stampFrom (told.subset hf)).1
    omega
  · rcases List.mem_append.mp he with old | made
    · have before := h.numbered e old
      show e.seq < s.seq + es.length
      omega
    · exact (seq_of_mem_stampFrom (told.subset made)).2
  · rw [show Bus.listeners _ = s.bus.listeners from Bus.listeners_publishAll _ _ _]
    exact h.listened listened
  · show (s.told ++ new).Sublist (s.bus.publishAll s.seq es).history.toList
    rw [Bus.publishAll, (Bus.foldl_publish (h.listened listened) _).1]
    exact (h.entered listened).append told

theorem Published.act (h : s.Published) (act : s.act a = some t) : t.Published := by
  cases a with
  | step b =>
    obtain ⟨u, -, rfl⟩ := Option.map_eq_some_iff.mp act
    have published := h.publish u.events (List.Sublist.refl _)
    exact ⟨published.sorted, published.numbered, published.listened, published.entered⟩
  | become i =>
    cases act
    exact ⟨h.sorted, h.numbered, h.listened, h.entered⟩
  | publish es =>
    cases act
    have published := h.publish es (List.nil_sublist _)
    rw [List.append_nil] at published
    exact published
  | subscribe =>
    cases act
    exact ⟨h.sorted, h.numbered, fun _ => Nat.succ_pos _, h.entered⟩
  | unsubscribe =>
    cases act
    refine ⟨h.sorted, h.numbered, fun listened => ?_, fun listened => ?_⟩
    · exact Nat.pos_of_ne_zero (of_decide_eq_false (Bool.or_eq_false_iff.mp listened).2)
    · exact h.entered (Bool.or_eq_false_iff.mp listened).1

/-- As long as no sum has left its range, what was told is the trace of the completions that were
taken. -/
def Told (p : Nat) (s : TracedCoordinator) : Prop :=
  s.coordinator.outcome? ≠ some .overflowed →
    ∃ counts, Account p counts s.coordinator ∧ counts.length = s.collected ∧
      s.told.map Stamped.event = trace p counts s.coordinator

theorem Told.act (h : s.Told p) (act : s.act a = some t) : t.Told p := by
  cases a with
  | step b =>
    obtain ⟨u, hu, rfl⟩ := Option.map_eq_some_iff.mp act
    intro fine
    have change := State.Change.of_step hu
    obtain ⟨counts, account, length, told⟩ := h (change.fine fine)
    obtain ⟨counts', account', more⟩ := account.step change fine rfl
    refine ⟨counts', account', ?_, ?_⟩
    · have taken := Change.collected change fine
      rw [account'.completions, account.completions, length] at taken
      exact taken
    · show (s.told ++ stampFrom s.seq u.events).map Stamped.event = _
      rw [List.map_append, told, map_event_stampFrom]
      exact more.symm
  | become i =>
    cases act
    exact h
  | publish es =>
    cases act
    exact h
  | subscribe =>
    cases act
    exact h
  | unsubscribe =>
    cases act
    exact h

/-! ## Whole schedules -/

/-- With increasing numbers the coordinator has told of each of the `k` completions that it has taken,
counting down from `p - 1`, with counts that never fall. While it runs, and when completions are
lost, it has told nothing else; when it has counted, all `p` completions were taken, and two more
events tell how many signals had been applied by the last of them and how many were drained, which
are all. Only between these two events has it told of the beginning of the drain alone. -/
theorem tells_exactly {initial : Int} {e f : Effect} {i : Inlets} {bus : Bus} {seq : Nat}
    {acts : List Act} (h : follow act (start initial p e f i bus seq) acts = some s)
    (fine : s.coordinator.outcome? ≠ some .overflowed) :
    s.told.Pairwise (·.seq < ·.seq) ∧
    (s.deserted = false → s.told.Sublist s.bus.history.toList) ∧
    ∃ counts : List Nat, counts.length = s.collected ∧ s.collected ≤ p ∧
      counts.Pairwise (· ≤ ·) ∧
      (s.coordinator.stage = .running → s.told.map Stamped.event = observed p counts) ∧
      (∀ n, s.coordinator.outcome? = some (.lost n) →
        s.told.map Stamped.event = observed p counts ∧ s.collected = p - n ∧ 0 < n ∧ n ≤ p) ∧
      (∀ before side progressed, s.coordinator.stage = .draining before side progressed →
        s.told.map Stamped.event = observed p counts ++ [.draining (counts.getLastD 0)] ∧
          s.collected = p) ∧
      ∀ l, s.coordinator.outcome? = some (.counted l) →
        s.told.map Stamped.event
          = observed p counts ++ [.draining (counts.getLastD 0), .drained l.drained] ∧
        s.collected = p ∧ l.applied? = some (counts.getLastD 0 + l.drained) := by
  have published : s.Published := follow_invariant (fun _ _ _ act h => h.act act) h .start
  have told : s.Told p :=
    follow_invariant (fun _ _ _ act h => h.act act) h fun _ =>
      ⟨[], .create initial p e f, rfl, rfl⟩
  obtain ⟨counts, account, length, told⟩ := told fine
  have countdown := account.countdown
  refine ⟨published.sorted, published.entered, counts, length, by omega, account.sorted, ?_, ?_,
    ?_, ?_⟩
  · intro running
    rw [told, trace_of_running running]
  · intro n lost
    obtain ⟨missing, pos⟩ := account.lost n lost
    rw [told, trace, epilogue_of_lost lost, List.append_nil]
    exact ⟨rfl, by omega, by omega, by omega⟩
  · intro before side progressed draining
    obtain ⟨complete, rfl⟩ := account.draining _ _ _ draining
    rw [told, trace, epilogue_of_draining draining]
    exact ⟨rfl, by omega⟩
  · intro l counted
    obtain ⟨complete, sum, le⟩ := account.counted l counted
    rw [told, trace, epilogue_of_counted counted, sum, Ledger.applied?_of_le le]
    exact ⟨rfl, by omega, rfl⟩

/-- One signal is applied before both completions, and one that is sent between them is drained.
Somebody else publishes in the meantime. -/
theorem tells_exactly_of_drained :
    let full : Channel := { capacity := 1, buffered := 1 }
    let empty : Channel := { capacity := 1 }
    let done : Channel := { capacity := 2, senders := 0 }
    let acts : List Act := [.step (.signals .first), .step .completions,
      .publish [.panicked "other" ""], .become ⟨empty, full, { done with buffered := 1 }⟩,
      .step .completions, .step .completions, .step .completions, .step .completions,
      .step .completions, .step .completions, .step .completions]
    let given : TracedCoordinator := start 5 2 .increment .decrement
      ⟨full, empty, { done with buffered := 2 }⟩ { capacity := 1, listeners := 1 } 3
    let books : Ledger :=
      { value := 5, increments := 1, decrements := 1, drained := 1, completions := 2 }
    ∃ s, follow act given acts = some s ∧ s.coordinator.outcome? = some (.counted books) ∧
      s.told = [⟨3, .completed 1 1⟩, ⟨5, .completed 0 1⟩, ⟨6, .draining 1⟩, ⟨7, .drained 1⟩] ∧
      s.told.Sublist s.bus.history.toList ∧ s.collected = 2 ∧
      ∃ counts : List Nat, counts.length = 2 ∧ books.applied? = some (counts.getLastD 0 + 1) := by
  intro full empty done acts given books
  have seen : (follow act given acts).map (fun s => (s.coordinator.outcome?, s.told, s.deserted))
      = some (some (.counted books), [⟨3, .completed 1 1⟩, ⟨5, .completed 0 1⟩,
          ⟨6, .draining 1⟩, ⟨7, .drained 1⟩], false) := by decide +kernel
  obtain ⟨s, h, facts⟩ := Option.map_eq_some_iff.mp seen
  obtain ⟨counted, told, listened⟩ : _ ∧ _ ∧ _ := by simpa using facts
  have fine : s.coordinator.outcome? ≠ some .overflowed := by
    rw [counted]
    rintro ⟨⟩
  obtain ⟨-, entered, counts, length, -, -, -, -, -, ended⟩ := tells_exactly h fine
  obtain ⟨-, collected, applied⟩ := ended _ counted
  exact ⟨s, h, counted, told, entered listened, collected, counts, length.trans collected, applied⟩

end TracedCoordinator

end SharedCounter
