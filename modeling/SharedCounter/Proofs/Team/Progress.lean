import SharedCounter.Proofs.Schedule
import SharedCounter.Proofs.Team.Sound

/-!
# A team is never stuck

* `Team.effort` : every deed lowers it (`effort_act`). An item that is sent costs its producer more
  than it costs the coordinator to take it;
* `Sound.progress` : a team that has not finished can take a step. If everybody else waits, the
  completion channel is still held, its holder waits at an empty channel, and somebody has a slot;
* `Awaits`, `Releases` : whoever is blocked waits for a step of the coordinator, which releases it
  (`Sound.awaits`, `Sound.releases`);
* `Team.never_stuck` : all this for every wiring, all acts and every schedule.
-/

namespace SharedCounter.Team

open Producer (State)

/-- Both producers and the coordinator have ended. -/
structure Finished (s : Team) : Prop where
  coordinator : ∃ o, s.coordinator.stage = .ended o
  producers : ∀ e, (s.producer e).ended = true

/-- A bound on the deeds that a team has before it. -/
def effort (s : Team) : Nat :=
  5 * (s.incrementer.effort + s.decrementer.effort) + s.coordinatorState.effort

variable {s t : Team} {e f : Effect} {i : Item} {b : Branch} {u : State}

/-! ## Every deed lowers the effort -/

theorem effort_putProducer (s : Team) (e : Effect) (u : State)
    (less : u.producer.effort < (s.producer e).effort)
    (more : u.outlets.signals.buffered + u.outlets.completions.buffered
      ≤ (s.inlets.signals (side e)).buffered + s.inlets.completions.buffered + 1) :
    (s.putProducer e u).effort < s.effort := by
  cases e with
  | increment =>
    simp only [effort, putProducer, setProducer, coordinatorState, Coordinator.State.effort,
      Inlets.buffered, Inlets.setSignals, Inlets.signals, side, producer] at *
    omega
  | decrement =>
    simp only [effort, putProducer, setProducer, coordinatorState, Coordinator.State.effort,
      Inlets.buffered, Inlets.setSignals, Inlets.signals, side, producer] at *
    omega

theorem count_delivers_le (u : State) :
    u.delivers?.toList.count .signal + u.delivers?.toList.count .completion ≤ 1 := by
  cases u.delivers? with
  | none => simp
  | some i => cases i <;> simp

theorem effort_place {p : Producer} (going : p.verdict = none) (unplaced : p.place = none)
    (k : Ticket) : { p with place := some k }.effort < p.effort := by
  simp only [Producer.effort, going, unplaced, Option.isSome_some, Option.isSome_none,
    Bool.toNat_true, Bool.toNat_false]
  omega

theorem effort_act {d : Deed} (h : s.act d = some t) : t.effort < s.effort := by
  rcases d with (e | b) | e
  · obtain ⟨⟨t, es⟩, step, rfl⟩ := Option.map_eq_some_iff.mp h
    obtain ⟨u, hu, ⟨⟩⟩ := Option.map_eq_some_iff.mp step
    have moves := (State.Change.of_step hu).moves
    have one := count_delivers_le (s.producerState e)
    have signals : u.outlets.signals.buffered = (s.inlets.signals (side e)).buffered
        + (s.producerState e).delivers?.toList.count .signal := moves.signals
    have completions : u.outlets.completions.buffered = s.inlets.completions.buffered
        + (s.producerState e).delivers?.toList.count .completion := moves.completions
    exact effort_putProducer s e u (State.effort_step hu) (by omega)
  · obtain ⟨⟨t, es⟩, step, rfl⟩ := Option.map_eq_some_iff.mp h
    obtain ⟨u, hu, ⟨⟩⟩ := Option.map_eq_some_iff.mp step
    exact Nat.add_lt_add_left (Coordinator.State.effort_step hu) _
  · obtain ⟨ready, ⟨⟩⟩ := Option.ite_none_right_eq_some.mp h
    rw [Bool.and_eq_true, Option.isNone_iff_eq_none] at ready
    obtain ⟨i, sending⟩ := Producer.exists_sending? ready.1
    obtain ⟨going, -⟩ := Producer.of_sending? sending
    obtain ⟨producer, -⟩ := State.channel_takePlace (s := s.producerState e) sending
    have calm := State.calm_takePlace (s := s.producerState e) sending
    refine effort_putProducer s e _ ?_ ?_
    · rw [producer]
      exact effort_place going ready.2 _
    · have signals := (calm .signal).buffered
      have completions := (calm .completion).buffered
      exact Nat.le_succ_of_le (Nat.le_of_eq (congrArg₂ (· + ·) signals completions))

/-! ## Somebody can go on -/

theorem exists_step_of_granted {k : Ticket} (placed : s.place b e = some k)
    (listening : (s.inlets.channel b).listening = true)
    (granted : k ∈ (s.inlets.channel b).granted) : ∃ u, (s.producerState e).step = some u := by
  obtain ⟨i, rfl, waits⟩ := exists_item_of_place placed
  obtain ⟨sending, place⟩ := Option.ite_none_right_eq_some.mp waits
  obtain ⟨c, poll⟩ := Channel.pollSend_of_granted listening granted
  have sent : (s.producerState e).poll i = (.sent, c) := by
    rw [State.poll, channel_producerState]
    show (s.inlets.channel (branch e i)).pollSend (s.producer e).place = _
    rw [place]
    exact poll
  obtain ⟨u, step, -⟩ := State.step_of_sent (s := s.producerState e) sending sent
  exact ⟨u, step⟩

/-- If a producer is blocked at a channel that is empty, then another one can go on. -/
theorem Sound.exists_step_of_empty (h : s.Sound) (blocked : (s.producerState e).Blocked i)
    (empty : (s.inlets.channel (branch e i)).buffered = 0) :
    ∃ f u, (s.producerState f).step = some u := by
  obtain ⟨sending, k, place, listening, -⟩ := State.blocked_iff.mp blocked
  rw [channel_producerState] at listening
  have placed : s.place (branch e i) e = some k := by
    rw [place_branch]
    exact (Producer.placeOn_of_some sending).trans place
  obtain ⟨f, k', placed', granted⟩ := (h.tended _).exists_granted listening empty placed
  exact ⟨f, exists_step_of_granted placed' listening granted⟩

/-- A coordinator that waits has emptied every channel that somebody can send on. -/
theorem Sound.empty_of_waits (h : s.Sound) (waits : s.coordinatorState.Waits)
    (running : s.coordinator.stage = .running) (held : (s.producer e).holds i = true) :
    (s.inlets.channel (branch e i)).buffered = 0 := by
  obtain ⟨-, serves⟩ := waits.serve_eq_none running
  cases i with
  | signal =>
    have ends := h.signalEnds e
    simp only [Producer.holds] at held
    rw [held] at ends
    have isOpen : s.coordinator.isOpen (side e) = true := by
      by_contra closed
      rw [h.closed running (side e) (by simpa using closed)] at ends
      cases ends
    have nothing := Coordinator.State.receive_of_serve_signals isOpen (serves (.signals (side e)))
    exact (Channel.receive_fst_eq_empty_iff.mp nothing).1
  | completion =>
    have nothing := Coordinator.State.receive_of_serve_completions (serves .completions)
    exact (Channel.receive_fst_eq_empty_iff.mp nothing).1

/-- While the coordinator waits, somebody still holds an end for completions. -/
theorem Sound.exists_holder (h : s.Sound) (waits : s.coordinatorState.Waits)
    (running : s.coordinator.stage = .running) : ∃ e, (s.producer e).holdsCompletion = true := by
  obtain ⟨-, serves⟩ := waits.serve_eq_none running
  have nothing := Coordinator.State.receive_of_serve_completions (serves .completions)
  have alive : s.inlets.completions.senders ≠ 0 :=
    (Channel.receive_fst_eq_empty_iff.mp nothing).2
  by_contra nobody
  have gone : ∀ e, (s.producer e).holdsCompletion = false := by
    intro e
    by_contra held
    exact nobody ⟨e, by simpa using held⟩
  have up : s.incrementer.holdsCompletion = false := gone .increment
  have down : s.decrementer.holdsCompletion = false := gone .decrement
  have ends := h.completionEnds
  rw [up, down] at ends
  exact alive ends

theorem Sound.progress (h : s.Sound) : s.Finished ∨ ∃ p t, s.step p = some t := by
  by_cases moves : ∃ p t, s.step p = some t
  · exact .inr moves
  have stuck : ∀ p, s.step p = none := by
    intro p
    by_contra goes
    exact moves ⟨p, Option.ne_none_iff_exists'.mp goes⟩
  have producers : ∀ e, (s.producerState e).step = none := by
    intro e
    exact Option.map_eq_none_iff.mp (stuck (.producer e))
  have waits : s.coordinatorState.Waits := by
    intro b
    exact Option.map_eq_none_iff.mp (stuck (.coordinator b))
  refine .inl ?_
  rcases waits.paused with running | ⟨o, ended⟩
  · -- The holder of an end for completions has not ended, so it is blocked, at an empty channel.
    obtain ⟨e, held⟩ := h.exists_holder waits running
    rcases State.step_eq_none_iff.mp (producers e) with done | ⟨i, blocked⟩
    · have gone := (Bool.and_eq_true_iff.mp done).2
      rw [Bool.not_eq_true'] at gone
      cases held.symm.trans gone
    · have empty := h.empty_of_waits waits running (Producer.holds_of_sending? blocked.1)
      obtain ⟨f, u, step⟩ := h.exists_step_of_empty blocked empty
      rw [producers f] at step
      cases step
  · refine ⟨⟨o, ended⟩, fun e => ?_⟩
    rcases State.step_eq_none_iff.mp (producers e) with done | ⟨i, blocked⟩
    · exact done
    · obtain ⟨-, k, -, listening, -⟩ := State.blocked_iff.mp blocked
      rw [channel_producerState, h.deaf o ended] at listening
      cases listening

/-! ## Whoever is blocked is released -/

/-- A deed that takes the team from `s` to `t` releases the send of an item: the coordinator takes an
item from that channel, and the send comes through, or the coordinator ends, and the send fails. -/
inductive Releases (e : Effect) (i : Item) (s : Team) : Deed → Team → Prop where
  | received {b : Branch} {t : Team} {u : State}
      (taken : (t.inlets.channel (branch e i)).buffered
        < (s.inlets.channel (branch e i)).buffered)
      (step : (t.producerState e).step = some u)
      (sent : (t.producerState e).delivers? = some i) :
      Releases e i s (.step (.coordinator b)) t
  | ended {b : Branch} {o : Outcome} {t : Team} {u : State}
      (ended : t.coordinator.stage = .ended o) (step : (t.producerState e).step = some u)
      (failed : u.producer.verdict = some (.failed ⟨(s.producer e).name, i.channelName⟩)) :
      Releases e i s (.step (.coordinator b)) t

/-- There is a next deed, and whatever it is, it releases the send of an item or the send goes on
waiting for that. -/
inductive Awaits (e : Effect) (i : Item) : Team → Prop where
  | intro {s : Team} (blocked : (s.producerState e).Blocked i) (goes : ∃ p t, s.step p = some t)
      (next : ∀ d t, s.act d = some t → ¬ Releases e i s d t → Awaits e i t) : Awaits e i s

theorem blocked_of_channel {k : Ticket} (producer : t.producer e = s.producer e)
    (sending : (s.producer e).sending? = some i) (place : (s.producer e).place = some k)
    (listening : (t.inlets.channel (branch e i)).listening = true)
    (not_granted : k ∉ (t.inlets.channel (branch e i)).granted) :
    (t.producerState e).Blocked i := by
  have same : (t.producerState e).producer = s.producer e := producer
  rw [State.blocked_iff, channel_producerState, same]
  exact ⟨sending, k, place, listening, not_granted⟩

theorem sends_of_granted {k : Ticket} (sending : (s.producer e).sending? = some i)
    (place : (s.producer e).place = some k)
    (listening : (s.inlets.channel (branch e i)).listening = true)
    (granted : k ∈ (s.inlets.channel (branch e i)).granted) :
    ∃ u, (s.producerState e).step = some u ∧ (s.producerState e).delivers? = some i := by
  obtain ⟨c, sent⟩ := Channel.pollSend_of_granted listening granted
  have poll : (s.producerState e).poll i = (.sent, c) := by
    rw [State.poll, channel_producerState]
    show (s.inlets.channel (branch e i)).pollSend (s.producer e).place = _
    rw [place]
    exact sent
  exact State.step_of_sent (s := s.producerState e) sending poll

theorem Sound.blocked_or_releases {v : Coordinator.State} (h : s.Sound)
    (step : s.coordinatorState.step b = some v) (blocked : (s.producerState e).Blocked i) :
    ((s.putCoordinator v).producerState e).Blocked i ∨
      Releases e i s (.step (.coordinator b)) (s.putCoordinator v) := by
  obtain ⟨sending, k, place, listening, not_granted⟩ := State.blocked_iff.mp blocked
  rw [channel_producerState] at listening not_granted
  rcases Coordinator.State.drawn_or_hangUp_of_step step with ⟨drawn, -⟩ | ⟨⟨o, ended⟩, -⟩
  · have drawn' := drawn.channel (branch e i)
    have still : (v.inlets.channel (branch e i)).listening = true :=
      drawn'.listening_eq.trans listening
    by_cases granted : k ∈ (v.inlets.channel (branch e i)).granted
    · right
      obtain ⟨u, goes, sent⟩ :=
        sends_of_granted (s := s.putCoordinator v) sending place still granted
      refine .received ?_ goes sent
      rcases drawn'.eq_or_lt with same | less
      · rw [same] at granted
        exact absurd granted not_granted
      · exact less
    · left
      exact blocked_of_channel (s := s) rfl sending place still granted
  · right
    have deaf := (h.stepCoordinator step).deaf o ended (branch e i)
    rw [← channel_producerState] at deaf
    obtain ⟨u, goes, failed⟩ := State.step_of_refused
      (s := (s.putCoordinator v).producerState e) sending (Channel.pollSend_of_deaf deaf _)
    exact .ended ended goes failed

theorem blocked_putProducer (other : f ≠ e) (blocked : (s.producerState e).Blocked i)
    (listening : ∀ j : Item, (j.channel u.outlets).listening
      = (s.inlets.channel (branch f j)).listening)
    (granted : ∀ (j : Item) (k : Ticket), branch e i = branch f j →
      (s.producer e).place = some k → k ∉ (s.inlets.channel (branch e i)).granted →
      k ∉ (j.channel u.outlets).granted) :
    ((s.putProducer f u).producerState e).Blocked i := by
  obtain ⟨sending, k, place, listens, not_granted⟩ := State.blocked_iff.mp blocked
  rw [channel_producerState] at listens not_granted
  refine blocked_of_channel (producer_putProducer_of_ne s u (Ne.symm other)) sending place ?_ ?_
  · by_cases shared : ∃ j, branch e i = branch f j
    · obtain ⟨j, hj⟩ := shared
      rw [hj, channel_putProducer, listening, ← hj]
      exact listens
    · rw [channel_putProducer_of_ne s u fun j hj => shared ⟨j, hj⟩]
      exact listens
  · by_cases shared : ∃ j, branch e i = branch f j
    · obtain ⟨j, hj⟩ := shared
      rw [hj, channel_putProducer]
      exact granted j k hj place not_granted
    · rw [channel_putProducer_of_ne s u fun j hj => shared ⟨j, hj⟩]
      exact not_granted

theorem blocked_stepProducer (blocked : (s.producerState e).Blocked i)
    (step : (s.producerState f).step = some u) :
    ((s.putProducer f u).producerState e).Blocked i := by
  have change := State.Change.of_step step
  have other : f ≠ e := by
    rintro rfl
    cases step.symm.trans (State.step_of_blocked blocked)
  refine blocked_putProducer other blocked (fun j => ?_) fun j k hj _ not_granted granted => ?_
  · rw [← channel_producerState]
    exact change.listening_eq j
  · rw [hj, ← channel_producerState] at not_granted
    exact not_granted (change.granted_subset j granted)

theorem Sound.blocked_takePlace (h : s.Sound) (blocked : (s.producerState e).Blocked i)
    (sends : (s.producer f).sends = true) (unplaced : (s.producer f).place = none) :
    ((s.putProducer f (s.producerState f).takePlace).producerState e).Blocked i := by
  obtain ⟨sending, k, place, listening, not_granted⟩ := State.blocked_iff.mp blocked
  rw [channel_producerState] at listening not_granted
  have other : f ≠ e := by
    rintro rfl
    cases unplaced.symm.trans place
  obtain ⟨i', sending'⟩ := Producer.exists_sending? sends
  obtain ⟨-, channel⟩ := State.channel_takePlace (s := s.producerState f) sending'
  have waits : s.place (branch e i) e = some k := by
    rw [place_branch]
    exact (Producer.placeOn_of_some sending).trans place
  have granted := (h.tended _).granted_takePlace listening waits not_granted
  refine blocked_putProducer other blocked (fun j => ?_) fun j k' hj place' not_granted' => ?_
  · rw [← channel_producerState]
    exact (State.calm_takePlace (s := s.producerState f) sending' j).listening
  · rw [channel, channel_producerState, ← hj]
    split
    · rw [granted]
      exact not_granted'
    · exact not_granted'

theorem not_ended_of_blocked (blocked : (s.producerState e).Blocked i) :
    (s.producer e).ended = false := by
  have going : (s.producer e).verdict = none := (Producer.of_sending? blocked.1).1
  simp [Producer.ended, going]

theorem Sound.awaits (h : s.Sound) (blocked : (s.producerState e).Blocked i) : Awaits e i s := by
  -- Every deed lowers the effort, so nobody stays blocked for ever.
  induction hn : s.effort using Nat.strongRecOn generalizing s with
  | _ n ih =>
    refine .intro blocked ?_ fun d t act unreleased => ?_
    · rcases h.progress with finished | goes
      · cases (finished.producers e).symm.trans (not_ended_of_blocked blocked)
      · exact goes
    · refine ih t.effort (hn ▸ effort_act act) (h.act act) ?_ rfl
      rcases d with (f | b) | f
      · obtain ⟨⟨t', es⟩, step, rfl⟩ := Option.map_eq_some_iff.mp act
        obtain ⟨u, hu, ⟨⟩⟩ := Option.map_eq_some_iff.mp step
        exact blocked_stepProducer blocked hu
      · obtain ⟨⟨t', es⟩, step, rfl⟩ := Option.map_eq_some_iff.mp act
        obtain ⟨v, hv, ⟨⟩⟩ := Option.map_eq_some_iff.mp step
        exact (h.blocked_or_releases hv blocked).resolve_right unreleased
      · obtain ⟨ready, ⟨⟩⟩ := Option.ite_none_right_eq_some.mp act
        rw [Bool.and_eq_true, Option.isNone_iff_eq_none] at ready
        exact h.blocked_takePlace blocked ready.1 ready.2

/-! ## Every run -/

/-- A blocked signal is alone at its channel, so it is the first in line. -/
theorem Sound.first_of_signal (h : s.Sound) (blocked : (s.producerState e).Blocked .signal) :
    (s.inlets.signals (side e)).waiting.head? = (s.producer e).place := by
  obtain ⟨sending, k, place, listening, not_granted⟩ := State.blocked_iff.mp blocked
  rw [channel_producerState] at listening not_granted
  have waits : s.place (branch e .signal) e = some k := by
    rw [place_branch]
    exact (Producer.placeOn_of_some sending).trans place
  rw [show (s.producer e).place = some k from place]
  refine ((h.tended _).attended listening).first_of_alone waits (fun f other => ?_) not_granted
  exact if_neg fun same => other (side_injective same)

/-- When an item is taken from its channel, the first in line is released, and when the coordinator
ends, everybody is. -/
theorem Sound.releases (h : s.Sound) (blocked : (s.producerState e).Blocked i)
    (act : s.act (.step (.coordinator b)) = some t)
    (turn : (∃ o, t.coordinator.stage = .ended o) ∨
      (s.inlets.channel (branch e i)).waiting.head? = (s.producer e).place ∧
        (t.inlets.channel (branch e i)).buffered < (s.inlets.channel (branch e i)).buffered) :
    Releases e i s (.step (.coordinator b)) t := by
  obtain ⟨⟨t', es⟩, step, rfl⟩ := Option.map_eq_some_iff.mp act
  obtain ⟨v, hv, ⟨⟩⟩ := Option.map_eq_some_iff.mp step
  rcases h.blocked_or_releases hv blocked with still | releases
  · exfalso
    obtain ⟨-, k, place, listening, not_granted⟩ := State.blocked_iff.mp still
    rw [channel_producerState] at listening not_granted
    rcases Coordinator.State.drawn_or_hangUp_of_step hv with ⟨drawn, receiving⟩ | ⟨⟨o, ended⟩, -⟩
    · rcases turn with ⟨o, ended⟩ | ⟨first, taken⟩
      · exact receiving o ended
      · rw [show (s.producer e).place = some k from place] at first
        exact not_granted (Channel.mem_granted_of_drawn (h.tended _).sound first
          (drawn.channel (branch e i)) taken)
    · rw [(h.stepCoordinator hv).deaf o ended] at listening
      cases listening
  · exact releases

/-- Whatever the producers do, with all capacities and under every schedule: the deeds of a run are
bounded by an effort that each of them lowers; as long as not everybody has ended, some party can
take a step; and a producer that neither has ended nor can take a step is blocked by a send, which
the coordinator releases in every run, at once if it takes the item before which nobody else waits
or if it ends. -/
theorem never_stuck {c : Config} {acts : Effect → List Act} {deeds : List Deed}
    (h : follow act (start c acts) deeds = some s) :
    deeds.length + s.effort ≤ (start c acts).effort ∧
    (∀ d t, s.act d = some t → t.effort < s.effort) ∧
    (s.Finished ∨ ∃ p t, s.step p = some t) ∧
    (∀ e, (s.producerState e).step = none →
      (s.producer e).ended = true ∨ ∃ i, (s.producerState e).Blocked i) ∧
    ∀ e i, (s.producerState e).Blocked i → Awaits e i s ∧
      ∀ b t, s.act (.step (.coordinator b)) = some t →
        ((∃ o, t.coordinator.stage = .ended o) ∨
          (i = .completion →
            (s.inlets.channel (branch e i)).waiting.head? = (s.producer e).place) ∧
          (t.inlets.channel (branch e i)).buffered
            < (s.inlets.channel (branch e i)).buffered) →
        Releases e i s (.step (.coordinator b)) t := by
  have sound : s.Sound := follow_invariant (fun _ _ _ act h => h.act act) h (.start c acts)
  refine ⟨length_add_le_of_follow (fun _ _ _ => effort_act) h, fun _ _ => effort_act,
    sound.progress, fun e => State.step_eq_none_iff.mp, fun e i blocked =>
      ⟨sound.awaits blocked, fun b t act turn => sound.releases blocked act ?_⟩⟩
  rcases turn with ended | ⟨first, taken⟩
  · exact .inl ended
  · refine .inr ⟨?_, taken⟩
    cases i with
    | signal => exact sound.first_of_signal blocked
    | completion => exact first rfl

/-- One producer is blocked by its second signal, the other by a completion too many. -/
theorem never_stuck_of_blocked :
    let c : Config := { signalCapacity := 1, completionCapacity := 0 }
    let acts : Effect → List Act
      | .increment => [.send 2, .complete]
      | .decrement => [.complete, .complete, .crash none]
    let deeds : List Deed := [.step (.producer .increment), .step (.producer .decrement),
      .takePlace .increment, .step (.producer .decrement)]
    ∃ s, follow act (start c acts) deeds = some s ∧ Awaits .increment .signal s ∧
      Awaits .decrement .completion s := by
  intro c acts deeds
  have seen : (follow act (start c acts) deeds).map (fun s =>
      ((s.producer .increment).sending?, (s.producer .decrement).sending?,
        (s.producerState .increment).step, (s.producerState .decrement).step))
      = some (some .signal, some .completion, none, none) := by decide +kernel
  obtain ⟨s, h, same⟩ := Option.map_eq_some_iff.mp seen
  obtain ⟨up, down, up_stuck, down_stuck⟩ : (s.producer .increment).sending? = some .signal ∧
      (s.producer .decrement).sending? = some .completion ∧
      (s.producerState .increment).step = none ∧ (s.producerState .decrement).step = none := by
    simpa using same
  obtain ⟨-, -, -, -, released⟩ := never_stuck h
  have up_blocked := State.blocked_of_step (s := s.producerState .increment) up up_stuck
  have down_blocked := State.blocked_of_step (s := s.producerState .decrement) down down_stuck
  exact ⟨s, h, (released _ _ up_blocked).1, (released _ _ down_blocked).1⟩

end SharedCounter.Team
