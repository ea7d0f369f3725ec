import SharedCounter.Proofs.Channel.Order
import SharedCounter.Proofs.Producer.Stream
import SharedCounter.Proofs.Team.Accounts

/-!
# Producers that never have to wait

* `Channel.Vacant c` : no send is in the queue of `c`; `Channel.Relieved c d` : the receiver of `c`
  takes items or goes, which makes no queue;
* `Team.Interference`, `Team.interfere` : the parties of a team move, while anything is done at the
  receiving ends;
* `Team.Roomy n s log` : no producer waits, and what is missing of its plan of `n` signals fits into
  its channels. Every move keeps it (`Roomy.interfere`);
* `Team.never_waits` : with buffers for all iterations, a poll of a producer ends it.
-/

namespace SharedCounter

open Producer (State)

namespace Channel

variable {c d e : Channel}

/-- No send is in the queue. -/
def Vacant (c : Channel) : Prop := c.granted = [] ∧ c.waiting = []

theorem Vacant.free (h : c.Vacant) : c.free = c.capacity - c.buffered := by
  rw [Channel.free, h.1]
  rfl

/-- The receiver takes items or goes. -/
structure Relieved (c d : Channel) : Prop where
  capacity : d.capacity = c.capacity
  buffered : d.buffered ≤ c.buffered
  deaf : c.listening = false → d.listening = false
  vacant : c.Vacant → d.Vacant

theorem Relieved.refl (c : Channel) : Relieved c c := ⟨rfl, Nat.le_refl _, id, id⟩

theorem Relieved.trans (h : Relieved c d) (h' : Relieved d e) : Relieved c e :=
  ⟨h'.capacity.trans h.capacity, Nat.le_trans h'.buffered h.buffered,
    fun deaf => h'.deaf (h.deaf deaf), fun vacant => h'.vacant (h.vacant vacant)⟩

theorem Relieved.take (h : c.take? = some d) : Relieved c d where
  capacity := capacity_of_take? h
  buffered := by
    have := buffered_of_take? h
    omega
  deaf := (listening_of_take? h).trans
  vacant vacant := by
    obtain ⟨rfl, -⟩ := of_take? h
    unfold grant
    split
    next waiting => exact nomatch vacant.2.symm.trans waiting
    next => exact vacant

theorem Relieved.drawn (h : Drawn c d) : Relieved c d := by
  induction h with
  | refl => exact .refl c
  | tail _ taken ih => exact ih.trans (.take taken)

theorem Relieved.hangUp (c : Channel) : Relieved c c.hangUp :=
  ⟨rfl, Nat.zero_le _, fun _ => rfl, fun _ => ⟨rfl, rfl⟩⟩

/-- A send that comes through at once makes no queue. -/
theorem Vacant.sent {place : Option Ticket} (h : c.Vacant) (poll : c.pollSend place = (.sent, d)) :
    d.Vacant := by
  have granted := granted_pollSend_subset c place
  rw [poll, h.1] at granted
  exact ⟨List.eq_nil_of_subset_nil granted, (waiting_of_sent poll).trans h.2⟩

end Channel

namespace Producer.State

variable {n : Nat} {s t : State} {log : List Item} {i : Item}

/-- With free slots for what it sends, a producer goes on without waiting. -/
theorem Change.unplaced (change : Change s t) (unplaced : s.producer.place = none)
    (room : ∀ i, s.producer.sending? = some i → 0 < (i.channel s.outlets).free)
    (vacant : ∀ i : Item, (i.channel s.outlets).Vacant) :
    t.producer.place = none ∧ ∀ i : Item, (i.channel t.outlets).Vacant := by
  cases change with
  | signal going acts holds poll =>
    refine ⟨rfl, fun i => ?_⟩
    cases i with
    | signal => exact (vacant .signal).sent poll
    | completion => exact vacant .completion
  | completion going acts holds poll =>
    refine ⟨rfl, fun i => ?_⟩
    cases i with
    | signal => exact vacant .signal
    | completion => exact (vacant .completion).sent poll
  | signalWaits going acts holds poll =>
    have free : 0 < s.outlets.signals.free := room .signal (sending?_signal going acts holds)
    rw [unplaced] at poll
    have full := (Channel.of_new_waiting poll).1
    omega
  | completionWaits going acts holds poll =>
    have free : 0 < s.outlets.completions.free :=
      room .completion (sending?_completion going acts holds)
    rw [unplaced] at poll
    have full := (Channel.of_new_waiting poll).1
    omega
  | signalRefused going acts holds poll =>
    obtain ⟨-, rfl⟩ := Channel.eq_of_refused poll
    exact ⟨rfl, vacant⟩
  | completionRefused going acts holds poll =>
    obtain ⟨-, rfl⟩ := Channel.eq_of_refused poll
    exact ⟨rfl, vacant⟩
  | dropSignals =>
    refine ⟨rfl, fun i => ?_⟩
    cases i with
    | signal => exact vacant .signal
    | completion => exact vacant .completion
  | dropCompletion =>
    refine ⟨rfl, fun i => ?_⟩
    cases i with
    | signal => exact vacant .signal
    | completion => exact vacant .completion
  | letGoSignals =>
    refine ⟨unplaced, fun i => ?_⟩
    cases i with
    | signal => exact vacant .signal
    | completion => exact vacant .completion
  | letGoCompletion =>
    refine ⟨unplaced, fun i => ?_⟩
    cases i with
    | signal => exact vacant .signal
    | completion => exact vacant .completion
  | _ => exact ⟨rfl, vacant⟩

/-- A producer in its plan finishes, or fails at a receiver that is gone. -/
theorem Change.excused (change : Change s t) (inPlan : s.producer.InPlan n log)
    (excused : ∀ v, s.producer.verdict = some v →
      v = .finished ∨ ∃ i : Item, (i.channel s.outlets).listening = false) :
    ∀ v, t.producer.verdict = some v →
      v = .finished ∨ ∃ i : Item, (i.channel t.outlets).listening = false := by
  intro v judged
  have same : s.producer.verdict = some v →
      v = .finished ∨ ∃ i : Item, (i.channel t.outlets).listening = false := by
    intro before
    refine (excused v before).imp_right fun ⟨i, deaf⟩ => ⟨i, ?_⟩
    rw [change.listening_eq]
    exact deaf
  cases change with
  | finish going acts =>
    cases judged
    exact .inl rfl
  | signalRefused going acts holds poll =>
    obtain ⟨deaf, rfl⟩ := Channel.eq_of_refused poll
    exact .inr ⟨.signal, deaf⟩
  | completionRefused going acts holds poll =>
    obtain ⟨deaf, rfl⟩ := Channel.eq_of_refused poll
    exact .inr ⟨.completion, deaf⟩
  | fail going acts | crash going acts =>
    have plain := inPlan.plain going
    rw [acts] at plain
    exact absurd (plain _ List.mem_cons_self) (by simp [Act.plain])
  | _ => exact same judged

end Producer.State

namespace Team

/-! ## Parties and meddlers -/

/-- What can happen in a team when anything is done at the receiving ends. -/
inductive Interference where
  | party (p : Party)
  /-- An item is taken from a channel. -/
  | take (b : Branch)
  | hangUp (b : Branch)
  deriving DecidableEq, Repr

/-- The team with another channel. -/
def setChannel (s : Team) (b : Branch) (c : Channel) : Team :=
  match b with
  | .signals side' => { s with inlets := s.inlets.setSignals side' c }
  | .completions => { s with inlets := { s.inlets with completions := c } }

/-- One move, undefined where a party waits or has ended, or where there is nothing to take. -/
def interfere (s : Team) : Interference → Option Team
  | .party p => (s.step p).map Prod.fst
  | .take b => (s.inlets.channel b).take?.map (s.setChannel b)
  | .hangUp b => some (s.setChannel b (s.inlets.channel b).hangUp)

variable {n : Nat} {s s' : Team} {e : Effect} {t u : State} {log : Effect → List Item}

/-- No producer waits, and what is missing of its plan fits into its channels. -/
structure Roomy (n : Nat) (s : Team) (log : Effect → List Item) : Prop where
  inPlan : ∀ e, (s.producer e).InPlan n (log e)
  unplaced : ∀ e, (s.producer e).place = none
  vacant : ∀ b, (s.inlets.channel b).Vacant
  signals : ∀ e, (s.inlets.signals (side e)).buffered ≤ (log e).count .signal ∧
    n ≤ (s.inlets.signals (side e)).capacity
  completions : s.inlets.completions.buffered
      ≤ (log .increment).count .completion + (log .decrement).count .completion ∧
    Effect.all.length ≤ s.inlets.completions.capacity
  excused : ∀ e v, (s.producer e).verdict = some v →
    v = .finished ∨ ∃ i, (s.inlets.channel (branch e i)).listening = false

theorem Roomy.start (fits : n ≤ slotMax) :
    Roomy n (start (.ofIterations n) (orderlyActs (.ofIterations n))) fun _ => [] where
  inPlan e := by
    cases e <;> exact .orderly _ n
  unplaced e := by cases e <;> rfl
  vacant b := by rcases b with (_ | _) | _ <;> exact ⟨rfl, rfl⟩
  signals e := by
    have roomy : n ≤ clampSlots (Config.ofIterations n).signalSlots := by
      show n ≤ min (max (max n 1) 1) slotMax
      omega
    cases e <;> exact ⟨Nat.zero_le _, roomy⟩
  completions := by
    refine ⟨Nat.zero_le _, ?_⟩
    show Effect.all.length ≤ clampSlots (max 2 1)
    decide
  excused e v judged := by cases e <;> cases judged

/-- What a producer sends next has a free slot. -/
theorem Roomy.room (h : Roomy n s log) {i : Item} (sending : (s.producer e).sending? = some i) :
    0 < (i.channel (s.producerState e).outlets).free := by
  have missing := (h.inPlan e).count_lt sending
  rw [channel_producerState, (h.vacant _).free]
  cases i with
  | signal =>
    obtain ⟨buffered, capacity⟩ := h.signals e
    have planned := Item.count_signal_le (List.prefix_refl (Act.items (Act.plan n)))
    show 0 < (s.inlets.signals (side e)).capacity - (s.inlets.signals (side e)).buffered
    omega
  | completion =>
    obtain ⟨buffered, capacity⟩ := h.completions
    have planned := Item.count_completion_le (List.prefix_refl (Act.items (Act.plan n)))
    have incrementer := Item.count_completion_le (h.inPlan .increment).sent
    have decrementer := Item.count_completion_le (h.inPlan .decrement).sent
    have two : Effect.all.length = 2 := rfl
    show 0 < s.inlets.completions.capacity - s.inlets.completions.buffered
    cases e <;> omega

/-- What holds of the channels of one producer and of the others holds of all. -/
theorem forall_channel_putProducer {P : Branch → Channel → Prop}
    (own : ∀ i, P (branch e i) (Item.channel t.outlets i))
    (others : ∀ b, (∀ i, b ≠ branch e i) → P b (s.inlets.channel b)) (b : Branch) :
    P b ((s.putProducer e t).inlets.channel b) := by
  by_cases mine : ∃ i, b = branch e i
  · obtain ⟨i, rfl⟩ := mine
    rw [channel_putProducer]
    exact own i
  · have other : ∀ i, b ≠ branch e i := fun i same => mine ⟨i, same⟩
    rw [channel_putProducer_of_ne s t other]
    exact others b other

/-- The next step of a producer comes through, or fails for want of a receiver. -/
theorem Roomy.change (h : Roomy n s log) (change : State.Change (s.producerState e) t) :
    Roomy n (s.putProducer e t)
      (Function.update log e (log e ++ (s.producerState e).delivers?.toList)) := by
  have inPlan := (h.inPlan e).step change
  obtain ⟨unplaced, vacant⟩ := change.unplaced (h.unplaced e) (fun _ => h.room)
    fun i => by rw [channel_producerState]; exact h.vacant _
  have moves := change.moves
  have listening : ∀ b, ((s.putProducer e t).inlets.channel b).listening
      = (s.inlets.channel b).listening :=
    forall_channel_putProducer (P := fun b c => c.listening = (s.inlets.channel b).listening)
      (fun i => (change.listening_eq i).trans (by rw [channel_producerState])) fun _ _ => rfl
  refine ⟨fun f => ?_, fun f => ?_, ?_, fun f => ?_, ?_, fun f v judged => ?_⟩
  · by_cases same : f = e
    · subst same
      rw [producer_putProducer_self, Function.update_self]
      exact inPlan
    · rw [producer_putProducer_of_ne s t same, Function.update_of_ne same]
      exact h.inPlan f
  · by_cases same : f = e
    · subst same
      rw [producer_putProducer_self]
      exact unplaced
    · rw [producer_putProducer_of_ne s t same]
      exact h.unplaced f
  · exact forall_channel_putProducer (P := fun _ c => c.Vacant) vacant fun b _ => h.vacant b
  · by_cases same : f = e
    · subst same
      obtain ⟨buffered, capacity⟩ := h.signals f
      have more : t.outlets.signals.buffered = (s.inlets.signals (side f)).buffered + _ :=
        moves.signals
      have size : t.outlets.signals.capacity = (s.inlets.signals (side f)).capacity :=
        change.capacity_eq .signal
      rw [signals_putProducer_self, Function.update_self, List.count_append]
      omega
    · rw [signals_putProducer_of_ne s t same, Function.update_of_ne same]
      exact h.signals f
  · obtain ⟨buffered, capacity⟩ := h.completions
    have more : t.outlets.completions.buffered = s.inlets.completions.buffered + _ :=
      moves.completions
    have size : t.outlets.completions.capacity = s.inlets.completions.capacity :=
      change.capacity_eq .completion
    have counts := congrFun (count_update log e (s.producerState e).delivers?.toList .completion)
    have total := sum_update (fun f => (log f).count .completion) e
      ((s.producerState e).delivers?.toList.count .completion)
    rw [← counts, ← counts] at total
    show (Inlets.channel _ (branch e .completion)).buffered ≤ _
      ∧ _ ≤ (Inlets.channel _ (branch e .completion)).capacity
    rw [channel_putProducer, total]
    show t.outlets.completions.buffered ≤ _ ∧ _ ≤ t.outlets.completions.capacity
    omega
  · by_cases same : f = e
    · subst same
      rw [producer_putProducer_self] at judged
      have excused := change.excused (h.inPlan f)
        (fun v judged => (h.excused f v judged).imp_right fun ⟨i, deaf⟩ =>
          ⟨i, by rw [channel_producerState]; exact deaf⟩) v judged
      exact excused.imp_right fun ⟨i, deaf⟩ => ⟨i, by rw [channel_putProducer]; exact deaf⟩
    · rw [producer_putProducer_of_ne s t same] at judged
      exact (h.excused f v judged).imp_right fun ⟨i, deaf⟩ => ⟨i, (listening _).trans deaf⟩

/-! ## Receiving ends -/

@[simp]
theorem producer_setChannel (s : Team) (b : Branch) (c : Channel) :
    (s.setChannel b c).producer = s.producer := by
  funext e
  rcases b with (_ | _) | _ <;> cases e <;> rfl

@[simp]
theorem channel_setChannel_self (s : Team) (b : Branch) (c : Channel) :
    (s.setChannel b c).inlets.channel b = c := by
  rcases b with (_ | _) | _ <;> rfl

theorem channel_setChannel_of_ne (s : Team) {b b' : Branch} (c : Channel) (h : b' ≠ b) :
    (s.setChannel b c).inlets.channel b' = s.inlets.channel b' := by
  rcases b with (_ | _) | _ <;> rcases b' with (_ | _) | _ <;> first | rfl | exact absurd rfl h

/-- Nothing that is done at the receiving ends makes a producer wait. -/
theorem Roomy.relieved (h : Roomy n s log) (producers : ∀ e, s'.producer e = s.producer e)
    (relieved : ∀ b, (s.inlets.channel b).Relieved (s'.inlets.channel b)) : Roomy n s' log where
  inPlan e := by rw [producers]; exact h.inPlan e
  unplaced e := by rw [producers]; exact h.unplaced e
  vacant b := (relieved b).vacant (h.vacant b)
  signals e := by
    obtain ⟨buffered, capacity⟩ := h.signals e
    have less := relieved (.signals (side e))
    exact ⟨Nat.le_trans less.buffered buffered,
      Nat.le_trans capacity (Nat.le_of_eq less.capacity.symm)⟩
  completions := by
    obtain ⟨buffered, capacity⟩ := h.completions
    have less := relieved .completions
    exact ⟨Nat.le_trans less.buffered buffered,
      Nat.le_trans capacity (Nat.le_of_eq less.capacity.symm)⟩
  excused e v judged := by
    rw [producers] at judged
    exact (h.excused e v judged).imp_right fun ⟨i, deaf⟩ => ⟨i, (relieved _).deaf deaf⟩

theorem Roomy.setChannel {b : Branch} {c : Channel} (h : Roomy n s log)
    (relieved : (s.inlets.channel b).Relieved c) : Roomy n (s.setChannel b c) log := by
  refine h.relieved (fun e => congrFun (producer_setChannel s b c) e) fun b' => ?_
  by_cases same : b' = b
  · rw [same, channel_setChannel_self]
    exact relieved
  · rw [channel_setChannel_of_ne s c same]
    exact .refl _

theorem Roomy.interfere {i : Interference} (h : Roomy n s log) (moved : s.interfere i = some s') :
    ∃ log', Roomy n s' log' := by
  cases i with
  | take b =>
    obtain ⟨c, taken, rfl⟩ := Option.map_eq_some_iff.mp moved
    exact ⟨log, h.setChannel (.take taken)⟩
  | hangUp b =>
    cases moved
    exact ⟨log, h.setChannel (.hangUp _)⟩
  | party p =>
    obtain ⟨⟨_, es⟩, step, rfl⟩ := Option.map_eq_some_iff.mp moved
    cases p with
    | producer e =>
      obtain ⟨t, stepped, ⟨⟩⟩ := Option.map_eq_some_iff.mp step
      exact ⟨_, h.change (State.Change.of_step stepped)⟩
    | coordinator b =>
      obtain ⟨t, stepped, ⟨⟩⟩ := Option.map_eq_some_iff.mp step
      refine ⟨log, h.relieved (fun e => by cases e <;> rfl) fun b => ?_⟩
      rcases Coordinator.State.drawn_or_hangUp_of_step stepped with ⟨drawn, -⟩ | ⟨-, inlets⟩
      · exact .drawn (drawn.channel b)
      · show Channel.Relieved _ (t.inlets.channel b)
        rw [inlets, Inlets.channel_hangUp]
        exact .hangUp _

/-! ## Polls -/

/-- However far a poll of a producer has got, no producer waits. -/
theorem Roomy.poll (h : Roomy n s log) (e : Effect) :
    ∃ log', Roomy n (s.putProducer e ((s.producer e).run (s.producerState e).outlets)) log' := by
  refine advance_invariant (P := fun u => ∃ log', Roomy n (s.putProducer e u) log')
    (fun u v step going => ?_) _ ⟨log, ?_⟩
  · obtain ⟨log', roomy⟩ := going
    obtain ⟨p, o, es⟩ := u
    rw [Producer.step_events] at step
    obtain ⟨t, moved, rfl⟩ := Option.map_eq_some_iff.mp step
    have state : (s.putProducer e ⟨p, o, es⟩).producerState e = ⟨p, o, []⟩ :=
      producerState_putProducer ..
    rw [← state] at moved
    have after := roomy.change (State.Change.of_step moved)
    rw [putProducer_putProducer] at after
    exact ⟨_, after⟩
  · show Roomy n (s.putProducer e (s.producerState e)) log
    rw [putProducer_producerState]
    exact h

/-- A poll ends the producer, for the best if it still has receivers. -/
theorem Roomy.poll_ends (h : Roomy n s log) (e : Effect) :
    let t := (s.producer e).run (s.producerState e).outlets
    t.producer.ended = true ∧
      ((∀ i, (s.inlets.channel (branch e i)).listening = true) →
        t.producer.verdict = some .finished) := by
  intro t
  obtain ⟨log', roomy⟩ := h.poll e
  have unplaced := roomy.unplaced e
  rw [producer_putProducer_self] at unplaced
  have ended : t.producer.ended = true := by
    have rests := Producer.step_run (s.producer e) (s.producerState e).outlets
    rcases State.step_eq_none_iff.mp rests with ended | ⟨i, -, k, place, -⟩
    · exact ended
    · cases unplaced.symm.trans place
  refine ⟨ended, fun listening => ?_⟩
  obtain ⟨v, judged, -⟩ := Producer.of_ended ended
  rcases roomy.excused e v (by rw [producer_putProducer_self]; exact judged) with rfl | ⟨i, deaf⟩
  · exact judged
  · have same : ∀ i : Item, (i.channel t.outlets).listening
        = (i.channel (s.producerState e).outlets).listening :=
      advance_invariant (P := fun u : State => ∀ i : Item, (i.channel u.outlets).listening
          = (i.channel (s.producerState e).outlets).listening)
        (fun u v step kept i => ((State.Change.of_step step).listening_eq i).trans (kept i)) _
        fun _ => rfl
    rw [channel_putProducer] at deaf
    have hears := listening i
    rw [← channel_producerState, ← same] at hears
    cases hears.symm.trans deaf

/-- With buffers for all iterations no producer ever waits, whatever is done at the receiving ends,
and a poll ends it, for the best if it still has receivers. -/
theorem never_waits {moves : List Interference} (fits : n ≤ slotMax)
    (h : follow interfere (start (.ofIterations n) (orderlyActs (.ofIterations n))) moves = some s)
    (e : Effect) :
    let t := (s.producer e).run (s.producerState e).outlets
    (s.producer e).place = none ∧ t.producer.ended = true ∧
      ((∀ i, (s.inlets.channel (branch e i)).listening = true) →
        t.producer.verdict = some .finished) := by
  obtain ⟨log, roomy⟩ : ∃ log, Roomy n s log :=
    follow_invariant (P := fun s => ∃ log, Roomy n s log)
      (fun _ _ _ moved ⟨_, roomy⟩ => roomy.interfere moved) h ⟨_, .start fits⟩
  exact ⟨roomy.unplaced e, roomy.poll_ends e⟩

end Team

end SharedCounter
