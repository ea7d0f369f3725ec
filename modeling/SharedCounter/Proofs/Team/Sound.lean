import SharedCounter.Proofs.Producer.Places
import SharedCounter.Proofs.Team.Change

/-!
# Who waits in a team, and for whom

* `Team.Deed`, `Team.act` : one step of one party, or a send that takes its place when a turn ends;
* `Team.place` : who waits at which channel;
* `Team.Sound` : every queue is in order, every sending end is held by a producer, a side that is
  closed has no ends, and a coordinator that has ended listens no more. Every deed keeps it
  (`Sound.act`).
-/

namespace SharedCounter.Team

open Producer (State)

/-- What can happen next in a team. -/
inductive Deed where
  | step (party : Party)
  /-- The turn of a producer ends before a send, which keeps its place. -/
  | takePlace (effect : Effect)
  deriving DecidableEq, Repr

/-- One deed, undefined where its party waits or has ended. -/
def act (s : Team) : Deed → Option Team
  | .step p => (s.step p).map Prod.fst
  | .takePlace e =>
    if (s.producer e).sends && (s.producer e).place.isNone then
      some (s.putProducer e (s.producerState e).takePlace)
    else none

/-- Where the producers wait at a channel. -/
def place (s : Team) (b : Branch) (e : Effect) : Option Ticket :=
  match b with
  | .signals side' => if side e = side' then (s.producer e).placeOn .signal else none
  | .completions => (s.producer e).placeOn .completion

variable {s t : Team} {e f : Effect} {i : Item} {b : Branch} {u : State}

/-! ## Places -/

@[simp]
theorem place_branch (s : Team) (e : Effect) (i : Item) :
    s.place (branch e i) e = (s.producer e).placeOn i := by
  cases i with
  | signal => exact if_pos rfl
  | completion => rfl

theorem place_putProducer (s : Team) (e : Effect) (u : State) (i : Item) :
    (s.putProducer e u).place (branch e i)
      = Function.update (s.place (branch e i)) e (u.producer.placeOn i) := by
  funext f
  by_cases same : f = e
  · rw [same, Function.update_self, place_branch, producer_putProducer_self]
  · rw [Function.update_of_ne same]
    unfold place
    rw [producer_putProducer_of_ne s u same]

theorem place_putProducer_of_ne (s : Team) (u : State) (h : ∀ i, b ≠ branch e i) :
    (s.putProducer e u).place b = s.place b := by
  funext f
  by_cases same : f = e
  · subst same
    rcases b with side' | _
    · have other : side f ≠ side' := fun eq => h .signal (by rw [branch, eq])
      exact (if_neg other).trans (if_neg other).symm
    · exact absurd rfl (h .completion)
  · unfold place
    rw [producer_putProducer_of_ne s u same]

/-- Whoever waits at a channel sends on it. -/
theorem exists_item_of_place {k : Ticket} (h : s.place b e = some k) :
    ∃ i, b = branch e i ∧ (s.producer e).placeOn i = some k := by
  rcases b with side' | _
  · obtain ⟨rfl, placed⟩ := Option.ite_none_right_eq_some.mp h
    exact ⟨.signal, rfl, placed⟩
  · exact ⟨.completion, rfl, h⟩

/-! ## What every deed keeps -/

/-- Queues are in order, every sending end is held by a producer, and a coordinator that has ended
listens no more. -/
structure Sound (s : Team) : Prop where
  tended : ∀ b, (s.inlets.channel b).Tended (s.place b)
  signalEnds : ∀ e, (s.inlets.signals (side e)).senders = (s.producer e).holdsSignals.toNat
  completionEnds : s.inlets.completions.senders
    = s.incrementer.holdsCompletion.toNat + s.decrementer.holdsCompletion.toNat
  closed : s.coordinator.stage = .running → ∀ side, s.coordinator.isOpen side = false →
    (s.inlets.signals side).senders = 0
  deaf : ∀ o, s.coordinator.stage = .ended o → ∀ b, (s.inlets.channel b).listening = false

theorem place_start (c : Config) (acts : Effect → List Act) (b : Branch) :
    (start c acts).place b = fun _ => none := by
  have unplaced : ∀ e i, ((start c acts).producer e).placeOn i = none := by
    intro e i
    refine Producer.placeOn_of_idle (.inl ?_) i
    cases e <;> rfl
  funext e
  rcases b with side' | _
  · unfold place
    rw [unplaced]
    exact ite_self _
  · exact unplaced e .completion

theorem Sound.start (c : Config) (acts : Effect → List Act) : (start c acts).Sound where
  tended b := by
    rw [place_start]
    rcases b with (_ | _) | _
    · exact .create _
    · exact .create _
    · exact (Channel.Tended.create c.completionSlots).withSenders _
  signalEnds e := by cases e <;> rfl
  completionEnds := rfl
  closed _ side closed := by cases side <;> cases closed
  deaf := by rintro _ ⟨⟩

/-- The ends that a producer has let go of, or not, in a step. -/
def EndsKept (s : Team) (e : Effect) (u : State) (i : Item) : Prop :=
  (i.channel u.outlets).senders = (s.inlets.channel (branch e i)).senders ∧
      u.producer.holds i = (s.producer e).holds i ∨
    (i.channel u.outlets).senders = (s.inlets.channel (branch e i)).senders - 1 ∧
      (s.producer e).holds i = true ∧ u.producer.holds i = false

/-- A producer moves on, and its channels with it. -/
theorem Sound.putProducer (h : s.Sound)
    (tended : ∀ i : Item, (i.channel u.outlets).Tended
      (Function.update (s.place (branch e i)) e (u.producer.placeOn i)))
    (listening : ∀ i : Item, (i.channel u.outlets).listening
      = (s.inlets.channel (branch e i)).listening)
    (ends : ∀ i, EndsKept s e u i) : (s.putProducer e u).Sound where
  tended b := by
    by_cases own : ∃ i, b = branch e i
    · obtain ⟨i, rfl⟩ := own
      rw [channel_putProducer, place_putProducer]
      exact tended i
    · have foreign : ∀ i, b ≠ branch e i := fun i same => own ⟨i, same⟩
      rw [channel_putProducer_of_ne s u foreign, place_putProducer_of_ne s u foreign]
      exact h.tended b
  signalEnds f := by
    by_cases same : f = e
    · subst same
      have before := h.signalEnds f
      rw [signals_putProducer_self, producer_putProducer_self]
      rcases ends .signal with ⟨senders, holds⟩ | ⟨senders, held, gone⟩
      · exact senders.trans (before.trans (congrArg Bool.toNat holds.symm))
      · simp only [Producer.holds] at held gone
        rw [held] at before
        rw [gone]
        exact senders.trans (congrArg (· - 1) before)
    · rw [signals_putProducer_of_ne s u same, producer_putProducer_of_ne s u same]
      exact h.signalEnds f
  completionEnds := by
    have before := h.completionEnds
    have after : (s.putProducer e u).inlets.completions.senders = u.outlets.completions.senders :=
      congrArg Channel.senders (channel_putProducer s e u .completion)
    rw [after]
    rcases ends .completion with ⟨senders, holds⟩ | ⟨senders, held, gone⟩
    · simp only [Item.channel, branch, Inlets.channel, Producer.holds] at senders holds
      rw [senders, before]
      cases e with
      | increment => exact congrArg (·.toNat + _) holds.symm
      | decrement => exact congrArg (_ + Bool.toNat ·) holds.symm
    · simp only [Item.channel, branch, Inlets.channel, Producer.holds] at senders held gone
      cases e with
      | increment =>
        show _ = u.producer.holdsCompletion.toNat + s.decrementer.holdsCompletion.toNat
        simp only [producer] at held
        rw [senders, before, held, gone, Bool.toNat_true, Bool.toNat_false]
        omega
      | decrement =>
        show _ = s.incrementer.holdsCompletion.toNat + u.producer.holdsCompletion.toNat
        simp only [producer] at held
        rw [senders, before, held, gone, Bool.toNat_true, Bool.toNat_false]
        omega
  closed running side' closed := by
    rw [coordinator_putProducer] at running closed
    have before := h.closed running side' closed
    obtain ⟨f, rfl⟩ := exists_side side'
    by_cases same : f = e
    · subst same
      rw [signals_putProducer_self]
      rcases ends .signal with ⟨senders, -⟩ | ⟨senders, -, -⟩
      · exact senders.trans before
      · exact senders.trans (congrArg (· - 1) before)
    · rw [signals_putProducer_of_ne s u same]
      exact before
  deaf o ended b := by
    rw [coordinator_putProducer] at ended
    by_cases own : ∃ i, b = branch e i
    · obtain ⟨i, rfl⟩ := own
      rw [channel_putProducer, listening]
      exact h.deaf o ended _
    · have foreign : ∀ i, b ≠ branch e i := fun i same => own ⟨i, same⟩
      rw [channel_putProducer_of_ne s u foreign]
      exact h.deaf o ended b

theorem Sound.stepProducer (h : s.Sound) (change : State.Change (s.producerState e) u) :
    (s.putProducer e u).Sound := by
  refine h.putProducer (fun i => ?_) (fun i => ?_) fun i => ?_
  · refine change.tended i ?_ (place_branch s e i)
    rw [channel_producerState]
    exact h.tended _
  · rw [← channel_producerState]
    exact change.listening_eq i
  · unfold EndsKept
    rw [← channel_producerState]
    exact change.ends i

theorem Sound.takePlace (h : s.Sound) (sends : (s.producer e).sends = true)
    (unplaced : (s.producer e).place = none) :
    (s.putProducer e (s.producerState e).takePlace).Sound := by
  obtain ⟨j, sending⟩ := Producer.exists_sending? sends
  have calm := State.calm_takePlace (s := s.producerState e) sending
  obtain ⟨producer, -⟩ := State.channel_takePlace (s := s.producerState e) sending
  refine h.putProducer (fun i => ?_) (fun i => ?_) fun i => .inl ⟨?_, ?_⟩
  · refine State.tended_takePlace i sends unplaced ?_ (place_branch s e i)
    rw [channel_producerState]
    exact h.tended _
  · rw [← channel_producerState]
    exact (calm i).listening
  · rw [← channel_producerState]
    exact State.senders_takePlace (s := s.producerState e) sending i
  · rw [producer]
    cases i <;> rfl

theorem Sound.stepCoordinator {v : Coordinator.State} (h : s.Sound)
    (step : s.coordinatorState.step b = some v) : (s.putCoordinator v).Sound := by
  have change := Coordinator.State.Change.of_step step
  rcases Coordinator.State.drawn_or_hangUp_of_step step with
    ⟨drawn, receiving⟩ | ⟨⟨o, ended⟩, hung⟩
  · refine ⟨fun b => (h.tended b).drawn (drawn.channel b), fun e => ?_, ?_,
      fun running side' closed => ?_, fun o ended => absurd ended (receiving o)⟩
    · have senders := (drawn.channel (.signals (side e))).senders_eq
      exact senders.trans (h.signalEnds e)
    · exact drawn.completions.senders_eq.trans h.completionEnds
    · have senders := (drawn.channel (.signals side')).senders_eq
      obtain ⟨was_running, was_closed | gone⟩ := change.closed running closed
      · exact senders.trans (h.closed was_running side' was_closed)
      · exact senders.trans gone
  · refine ⟨fun b => ?_, fun e => ?_, ?_, fun running => ?_, fun o _ b => ?_⟩
    · show (v.inlets.channel b).Tended (s.place b)
      rw [hung, Inlets.channel_hangUp]
      exact (h.tended b).hangUp
    · show (v.inlets.signals (side e)).senders = _
      rw [hung]
      have kept : ((s.inlets.hangUp).channel (.signals (side e))).senders
          = (s.inlets.signals (side e)).senders := by
        rw [Inlets.channel_hangUp]
        rfl
      exact kept.trans (h.signalEnds e)
    · show v.inlets.completions.senders = _
      rw [hung]
      exact h.completionEnds
    · cases ended.symm.trans running
    · show (v.inlets.channel b).listening = false
      rw [hung, Inlets.channel_hangUp]
      rfl

theorem Sound.act {d : Deed} (h : s.Sound) (act : s.act d = some t) : t.Sound := by
  rcases d with (e | b) | e
  · obtain ⟨⟨t, es⟩, step, rfl⟩ := Option.map_eq_some_iff.mp act
    obtain ⟨u, hu, ⟨⟩⟩ := Option.map_eq_some_iff.mp step
    exact h.stepProducer (.of_step hu)
  · obtain ⟨⟨t, es⟩, step, rfl⟩ := Option.map_eq_some_iff.mp act
    obtain ⟨u, hu, ⟨⟩⟩ := Option.map_eq_some_iff.mp step
    exact h.stepCoordinator hu
  · obtain ⟨ready, ⟨⟩⟩ := Option.ite_none_right_eq_some.mp act
    rw [Bool.and_eq_true, Option.isNone_iff_eq_none] at ready
    exact h.takePlace ready.1 ready.2

end SharedCounter.Team
