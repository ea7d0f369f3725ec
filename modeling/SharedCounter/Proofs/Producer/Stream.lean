import SharedCounter.Proofs.Producer.Log
import SharedCounter.Proofs.Producer.Places
import SharedCounter.Proofs.Schedule
import SharedCounter.Proofs.Service.Line

/-!
# The completion of a producer comes last

* `Producer.InPlan n p log` : the producer `p`, which has sent the items of `log`, is at its plan of
  `n` signals, or has given it up. Every step keeps it (`InPlan.step`), whatever the receivers do;
* `Stream`, `Stream.act` : an orderly producer among the receivers of its channels and the other
  users of its completion channel, who may do anything in any order; `Stream.Change` : what a deed
  comes to;
* `Stream.Sound` : all that was sent was received, is buffered or was lost with a receiver;
* `Stream.completion_last` : no signal is sent after the completion, which is sent once and only
  when all signals are.
-/

namespace SharedCounter

/-! ## The plan as items -/

namespace Act

/-- An act that neither fails nor lets go of an end. -/
def plain : Act → Bool
  | .announce .. | .send _ | .complete => true
  | _ => false

end Act

namespace Item

variable {n : Nat} {log : List Item}

/-- What a beginning of the plan looks like. -/
theorem prefix_plan (h : log <+: Act.items (Act.plan n)) :
    (∃ k ≤ n, log = List.replicate k .signal) ∨ log = List.replicate n .signal ++ [.completion] := by
  rw [Act.items_plan] at h
  rcases List.prefix_concat_iff.mp h with all | early
  · exact .inr all
  · obtain ⟨le, same⟩ := List.prefix_replicate_iff.mp early
    exact .inl ⟨_, le, same⟩

theorem count_signal_le (h : log <+: Act.items (Act.plan n)) : log.count .signal ≤ n := by
  rcases prefix_plan h with ⟨k, le, rfl⟩ | rfl
  · rw [List.count_replicate_self]
    exact le
  · simp

theorem count_completion_le (h : log <+: Act.items (Act.plan n)) : log.count .completion ≤ 1 := by
  rcases prefix_plan h with ⟨k, -, rfl⟩ | rfl
  · simp [List.count_replicate]
  · simp [List.count_replicate]

theorem count_signal_of_completion (h : log <+: Act.items (Act.plan n)) (mem : .completion ∈ log) :
    log.count .signal = n := by
  rcases prefix_plan h with ⟨k, -, rfl⟩ | rfl
  · simp at mem
  · simp

/-- Nothing comes after a completion. -/
theorem eq_nil_of_completion (h : log <+: Act.items (Act.plan n)) {before after : List Item}
    (split : log = before ++ .completion :: after) : after = [] := by
  rcases prefix_plan h with ⟨k, -, rfl⟩ | rfl
  · have mem : Item.completion ∈ List.replicate k Item.signal := by
      rw [split]
      simp
    simp at mem
  · by_contra more
    have front := congrArg List.dropLast split
    rw [List.dropLast_concat, List.dropLast_append_cons, List.dropLast_cons_of_ne_nil more] at front
    have mem : Item.completion ∈ List.replicate n Item.signal := by
      rw [front]
      simp
    simp at mem

end Item

namespace Producer

variable {n : Nat} {p : Producer} {log : List Item} {s t : State}

/-- What a producer has sent is a beginning of its plan, and while it has no verdict the rest of
the plan lies before it. -/
structure InPlan (n : Nat) (p : Producer) (log : List Item) : Prop where
  sent : log <+: Act.items (Act.plan n)
  rest : p.verdict = none → log ++ Act.items p.acts = Act.items (Act.plan n)
  plain : p.verdict = none → ∀ a ∈ p.acts, a.plain = true
  holds : p.verdict = none → p.holdsSignals = true ∧ p.holdsCompletion = true

theorem InPlan.orderly (name : String) (n : Nat) : (orderly name n).InPlan n [] where
  sent := List.nil_prefix
  rest _ := rfl
  plain _ a ha := by
    simp only [Producer.orderly, Act.plan, List.mem_cons, List.not_mem_nil, or_false] at ha
    rcases ha with rfl | rfl | rfl | rfl <;> rfl
  holds _ := ⟨rfl, rfl⟩

theorem InPlan.wait (h : p.InPlan n log) (place : Option Ticket) : { p with place }.InPlan n log :=
  ⟨h.sent, h.rest, h.plain, h.holds⟩

theorem InPlan.judged {q : Producer} {v : Verdict} (h : p.InPlan n log)
    (judged : p.verdict = some v) (same : q.verdict = p.verdict) : q.InPlan n log := by
  rw [judged] at same
  refine ⟨h.sent, ?_, ?_, ?_⟩ <;>
  · intro going
    rw [same] at going
    cases going

theorem InPlan.finish (h : p.InPlan n log) (v : Verdict) : (p.finish v).InPlan n log :=
  ⟨h.sent, by rintro ⟨⟩, by rintro ⟨⟩, by rintro ⟨⟩⟩

theorem InPlan.next {acts : List Act} {more : List Item} (h : p.InPlan n log)
    (going : p.verdict = none) (items : more ++ Act.items acts = Act.items p.acts)
    (plain : ∀ a ∈ acts, a.plain = true) : (p.next acts).InPlan n (log ++ more) := by
  have all : log ++ more ++ Act.items acts = Act.items (Act.plan n) := by
    rw [List.append_assoc, items]
    exact h.rest going
  exact ⟨⟨_, all⟩, fun _ => all, fun _ => plain, h.holds⟩

/-- Whether its sends come through or not, a producer stays in its plan. -/
theorem InPlan.step (h : s.producer.InPlan n log) (change : State.Change s t) :
    t.producer.InPlan n (log ++ s.delivers?.toList) := by
  have quiet : s.delivers? = none → t.producer.InPlan n log →
      t.producer.InPlan n (log ++ s.delivers?.toList) := by
    intro nothing kept
    rw [nothing, Option.toList_none, List.append_nil]
    exact kept
  have skips : ∀ {act rest}, s.producer.verdict = none → s.producer.acts = act :: rest →
      Act.items (act :: rest) = Act.items rest → (s.producer.next rest).InPlan n log := by
    intro act rest going acts items
    rw [← List.append_nil log]
    refine h.next going (by rw [acts, items, List.nil_append]) fun a ha => h.plain going a ?_
    rw [acts]
    exact List.mem_cons_of_mem _ ha
  cases change with
  | announce going acts =>
    exact quiet (State.delivers?_of_none (by rw [sending?, going, acts])) (skips going acts rfl)
  | skip going acts idle =>
    obtain ⟨signals, completion⟩ := h.holds going
    refine quiet (State.delivers?_of_none (idle.sending? acts)) (skips going acts ?_)
    cases idle with
    | nothing => rfl
    | signals _ gone | dropSignals gone => simp [gone] at signals
    | completion gone | dropCompletion gone => simp [gone] at completion
  | signal going acts holds poll =>
    rw [State.delivers?_of_sent (sending?_signal going acts holds) poll]
    refine h.next going (by rw [acts]; rfl) fun a ha => ?_
    rcases List.mem_cons.mp ha with rfl | later
    · rfl
    · exact h.plain going a (by rw [acts]; exact List.mem_cons_of_mem _ later)
  | signalWaits going acts holds poll =>
    have sending := sending?_signal going acts holds
    exact quiet (State.delivers?_of_not_sent sending poll (by simp)) (h.wait _)
  | signalRefused going acts holds poll =>
    have sending := sending?_signal going acts holds
    exact quiet (State.delivers?_of_not_sent sending poll (by simp)) (h.finish _)
  | completion going acts holds poll =>
    rw [State.delivers?_of_sent (sending?_completion going acts holds) poll]
    refine h.next going (by rw [acts]; rfl) fun a ha => h.plain going a ?_
    rw [acts]
    exact List.mem_cons_of_mem _ ha
  | completionWaits going acts holds poll =>
    have sending := sending?_completion going acts holds
    exact quiet (State.delivers?_of_not_sent sending poll (by simp)) (h.wait _)
  | completionRefused going acts holds poll =>
    have sending := sending?_completion going acts holds
    exact quiet (State.delivers?_of_not_sent sending poll (by simp)) (h.finish _)
  | dropSignals going acts | dropCompletion going acts | fail going acts | crash going acts
  | produce going acts =>
    have plain := h.plain going
    rw [acts] at plain
    exact absurd (plain _ List.mem_cons_self) (by simp [Act.plain])
  | finish going acts =>
    exact quiet (State.delivers?_of_none (by rw [sending?, going, acts])) (h.finish _)
  | letGoSignals judged =>
    exact quiet (State.delivers?_of_none (sending?_of_judged judged)) (h.judged judged rfl)
  | letGoCompletion judged =>
    exact quiet (State.delivers?_of_none (sending?_of_judged judged)) (h.judged judged rfl)

/-- What a producer is about to send has not all been sent. -/
theorem InPlan.count_lt {i : Item} (h : p.InPlan n log) (sending : p.sending? = some i) :
    log.count i < (Act.items (Act.plan n)).count i := by
  obtain ⟨going, next⟩ := of_sending? sending
  have due : i ∈ Act.items p.acts := by
    cases i with
    | signal =>
      obtain ⟨⟨k, acts, head⟩, -⟩ := next
      rw [head]
      exact List.mem_append_left _ List.mem_cons_self
    | completion =>
      obtain ⟨⟨acts, head⟩, -⟩ := next
      rw [head]
      exact List.mem_cons_self
  rw [← h.rest going, List.count_append]
  exact Nat.lt_add_of_pos_right (List.count_pos_iff.mpr due)

/-- Giving a producer up moves no items. -/
theorem calm_abandon (p : Producer) (o : Outlets) (i : Item) :
    Channel.Calm (i.channel o) (i.channel (p.abandon o)) := by
  have letGo : ∀ given : Outlets, Channel.Calm (i.channel o) (i.channel given) →
      Channel.Calm (i.channel o) (i.channel
        (let o := if p.holdsSignals then { given with signals := given.signals.dropSender }
          else given
        if p.holdsCompletion then { o with completions := o.completions.dropSender } else o)) := by
    intro given calm
    cases i with
    | signal =>
      cases p.holdsSignals <;> cases p.holdsCompletion
      · exact calm
      · exact calm
      · exact calm.dropSender
      · exact calm.dropSender
    | completion =>
      cases p.holdsSignals <;> cases p.holdsCompletion
      · exact calm
      · exact calm.dropSender
      · exact calm
      · exact calm.dropSender
  refine letGo _ ?_
  split
  · cases i with
    | signal => exact .refl _
    | completion => exact .withdraw _ _
  · cases i with
    | signal => exact .withdraw _ _
    | completion => exact .refl _
  · exact .refl _

end Producer

/-! ## Streams -/

/-- An orderly producer, the receivers of its channels, and the other users of its completion
channel. -/
structure Stream where
  /-- The producer, until it is cancelled. -/
  future : Option Producer
  signals : Channel
  /-- The completion channel with its other users. -/
  users : Line
  /-- What the producer has sent, in order. -/
  delivered : List Item := []
  received : Nat := 0
  /-- Signals that were buffered when their receiver went. -/
  lost : Nat := 0
  collected : Nat := 0
  lostCompletions : Nat := 0
  deriving DecidableEq, Repr

namespace Stream

/-- What can happen next. -/
inductive Deed where
  | step
  /-- A poll of the producer ends before a send, which keeps its place. -/
  | takePlace
  | cancel
  | receive
  | tryReceive
  | hangUp
  | user (act : Line.Act)
  | collect
  | hangUpCompletions
  deriving DecidableEq, Repr

/-- A producer is given a fresh signal channel and an end of a completion channel. -/
def start (name : String) (n capacity : Nat) (users : Line) : Stream where
  future := some (.orderly name n)
  signals := .create capacity
  users := { users with channel := users.channel.addSender }

def state (s : Stream) (p : Producer) : Producer.State := ⟨p, ⟨s.signals, s.users.channel⟩, []⟩

/-- The stream with other channels. -/
def setOutlets (s : Stream) (o : Outlets) : Stream :=
  { s with signals := o.signals, users := { s.users with channel := o.completions } }

/-- One deed, undefined where the party that it needs waits or is gone. -/
def act (s : Stream) : Deed → Option Stream
  | .step => s.future.bind fun p => (s.state p).step.map fun t =>
    { s.setOutlets t.outlets with
      future := some t.producer
      delivered := s.delivered ++ (s.state p).delivers?.toList }
  | .takePlace => s.future.bind fun p =>
    if p.sends && p.place.isNone then
      let t := (s.state p).takePlace
      some { s.setOutlets t.outlets with future := some t.producer }
    else none
  | .cancel => s.future.map fun p =>
    { s.setOutlets (p.abandon ⟨s.signals, s.users.channel⟩) with future := none }
  | .receive =>
    if s.signals.listening then
      match s.signals.receive with
      | (.item, c) => some { s with signals := c, received := s.received + 1 }
      | _ => some s
    else none
  | .tryReceive =>
    if s.signals.listening then
      match s.signals.take? with
      | some c => some { s with signals := c, received := s.received + 1 }
      | none => some s
    else none
  | .hangUp =>
    if s.signals.listening then
      some { s with signals := s.signals.hangUp, lost := s.lost + s.signals.buffered }
    else none
  | .user a => (s.users.act .completions a).map fun users => { s with users }
  | .collect =>
    if s.users.channel.listening then
      match s.users.channel.receive with
      | (.item, channel) =>
        some { s with users := { s.users with channel }, collected := s.collected + 1 }
      | _ => some s
    else none
  | .hangUpCompletions =>
    if s.users.channel.listening then
      some { s with users := { s.users with channel := s.users.channel.hangUp }
                    lostCompletions := s.lostCompletions + s.users.channel.buffered }
    else none

variable {n capacity : Nat} {given : Line} {s t : Stream}

/-- What a deed comes to. -/
inductive Change (s : Stream) : Deed → Stream → Prop where
  | step {p : Producer} {u : Producer.State} (future : s.future = some p)
      (step : (s.state p).step = some u) :
      Change s .step { s.setOutlets u.outlets with
        future := some u.producer
        delivered := s.delivered ++ (s.state p).delivers?.toList }
  | takePlace {p : Producer} {i : Item} (future : s.future = some p)
      (unplaced : p.place = none) (sending : p.sending? = some i) :
      Change s .takePlace { s.setOutlets (s.state p).takePlace.outlets with
        future := some (s.state p).takePlace.producer }
  | cancel {p : Producer} (future : s.future = some p) :
      Change s .cancel { s.setOutlets (p.abandon ⟨s.signals, s.users.channel⟩) with future := none }
  | receive {d : Deed} {c : Channel} (way : d = .receive ∨ d = .tryReceive)
      (taken : s.signals.take? = some c) :
      Change s d { s with signals := c, received := s.received + 1 }
  /-- There is nothing to receive. -/
  | nothing {d : Deed} (way : d = .receive ∨ d = .tryReceive ∨ d = .collect) : Change s d s
  | hangUp (listening : s.signals.listening = true) :
      Change s .hangUp { s with signals := s.signals.hangUp, lost := s.lost + s.signals.buffered }
  | user {a : Line.Act} {users : Line} (act : s.users.act .completions a = some users) :
      Change s (.user a) { s with users }
  | collect {channel : Channel} (taken : s.users.channel.take? = some channel) :
      Change s .collect { s with users := { s.users with channel }, collected := s.collected + 1 }
  | hangUpCompletions (listening : s.users.channel.listening = true) :
      Change s .hangUpCompletions { s with
        users := { s.users with channel := s.users.channel.hangUp }
        lostCompletions := s.lostCompletions + s.users.channel.buffered }

theorem Change.of_act {d : Deed} (act : s.act d = some t) : Change s d t := by
  cases d with
  | step =>
    obtain ⟨p, hp, act⟩ := Option.bind_eq_some_iff.mp act
    obtain ⟨u, hu, rfl⟩ := Option.map_eq_some_iff.mp act
    exact .step hp hu
  | takePlace =>
    obtain ⟨p, hp, act⟩ := Option.bind_eq_some_iff.mp act
    obtain ⟨ready, ⟨⟩⟩ := Option.ite_none_right_eq_some.mp act
    obtain ⟨sends, unplaced⟩ := Bool.and_eq_true_iff.mp ready
    obtain ⟨i, sending⟩ := Producer.exists_sending? sends
    exact .takePlace hp (Option.isNone_iff_eq_none.mp unplaced) sending
  | cancel =>
    obtain ⟨p, hp, rfl⟩ := Option.map_eq_some_iff.mp act
    exact .cancel hp
  | receive =>
    obtain ⟨-, act⟩ := Option.ite_none_right_eq_some.mp act
    split at act
    next c hr =>
      cases act
      exact .receive (.inl rfl) (Channel.take?_of_receive hr)
    next =>
      cases act
      exact .nothing (.inl rfl)
  | tryReceive =>
    obtain ⟨-, act⟩ := Option.ite_none_right_eq_some.mp act
    split at act
    next c taken =>
      cases act
      exact .receive (.inr rfl) taken
    next =>
      cases act
      exact .nothing (.inr (.inl rfl))
  | hangUp =>
    obtain ⟨listening, ⟨⟩⟩ := Option.ite_none_right_eq_some.mp act
    exact .hangUp listening
  | user a =>
    obtain ⟨users, hu, rfl⟩ := Option.map_eq_some_iff.mp act
    exact .user hu
  | collect =>
    obtain ⟨-, act⟩ := Option.ite_none_right_eq_some.mp act
    split at act
    next c hr =>
      cases act
      exact .collect (Channel.take?_of_receive hr)
    next =>
      cases act
      exact .nothing (.inr (.inr rfl))
  | hangUpCompletions =>
    obtain ⟨listening, ⟨⟩⟩ := Option.ite_none_right_eq_some.mp act
    exact .hangUpCompletions listening

/-- All that was sent was received, is buffered, or was lost with a receiver. -/
structure Sound (n capacity : Nat) (given : Line) (s : Stream) : Prop where
  sent : s.delivered <+: Act.items (Act.plan n)
  future : ∀ p, s.future = some p → p.InPlan n s.delivered
  slots : s.signals.Sound
  size : s.signals.capacity = clampSlots capacity
  signals : s.received + s.signals.buffered + s.lost = s.delivered.count .signal
  hearing : s.signals.listening = true → s.lost = 0
  deaf : s.signals.listening = false → s.signals.buffered = 0 ∧ s.lost ≤ clampSlots capacity
  completions : s.collected + s.users.channel.buffered + s.lostCompletions + given.acknowledged
    = given.channel.buffered + s.users.acknowledged + s.delivered.count .completion

theorem Sound.start (name : String) (n capacity : Nat) (given : Line) :
    Sound n capacity given (start name n capacity given) where
  sent := List.nil_prefix
  future p hp := by
    cases hp
    exact .orderly name n
  slots := .create capacity
  size := rfl
  signals := rfl
  hearing _ := rfl
  deaf := by rintro ⟨⟩
  completions := by
    show 0 + given.channel.buffered + 0 + given.acknowledged
      = given.channel.buffered + given.acknowledged + 0
    omega

theorem Sound.setOutlets {o : Outlets} {future : Option Producer} {more : List Item}
    (h : Sound n capacity given s) (sent : s.delivered ++ more <+: Act.items (Act.plan n))
    (inPlan : ∀ p, future = some p → p.InPlan n (s.delivered ++ more))
    (slots : o.signals.Sound) (same : o.signals.capacity = s.signals.capacity)
    (listening : o.signals.listening = s.signals.listening)
    (signals : o.signals.buffered = s.signals.buffered + more.count .signal)
    (deaf : s.signals.listening = false → more.count .signal = 0)
    (completions : o.completions.buffered = s.users.channel.buffered + more.count .completion) :
    Sound n capacity given
      { s.setOutlets o with future := future, delivered := s.delivered ++ more } := by
  have balance := h.signals
  have completion_balance := h.completions
  refine ⟨sent, inPlan, slots, same.trans h.size, ?_, fun hears => ?_, fun silent => ?_, ?_⟩
  · rw [List.count_append]
    show s.received + o.signals.buffered + s.lost = _
    omega
  · exact h.hearing (listening.symm.trans hears)
  · have was_deaf := listening.symm.trans silent
    obtain ⟨empty, lost⟩ := h.deaf was_deaf
    have nothing := deaf was_deaf
    refine ⟨?_, lost⟩
    show o.signals.buffered = 0
    omega
  · rw [List.count_append]
    show s.collected + o.completions.buffered + s.lostCompletions + given.acknowledged
      = given.channel.buffered + s.users.acknowledged + _
    omega

theorem Sound.still {o : Outlets} {future : Option Producer} (h : Sound n capacity given s)
    (inPlan : ∀ p, future = some p → p.InPlan n s.delivered)
    (calm : ∀ i : Item, Channel.Calm (i.channel ⟨s.signals, s.users.channel⟩) (i.channel o)) :
    Sound n capacity given { s.setOutlets o with future := future } := by
  have signals := calm .signal
  have kept : Sound n capacity given
      { s.setOutlets o with future := future, delivered := s.delivered ++ [] } :=
    h.setOutlets (by rw [List.append_nil]; exact h.sent) (by rw [List.append_nil]; exact inPlan)
      (signals.sound h.slots) signals.capacity signals.listening signals.buffered (fun _ => rfl)
      (calm .completion).buffered
  rw [List.append_nil] at kept
  exact kept

theorem Sound.receive {c : Channel} (h : Sound n capacity given s) (taken : s.signals.take? = some c) :
    Sound n capacity given { s with signals := c, received := s.received + 1 } := by
  have filled := Channel.buffered_of_take? taken
  have listening := Channel.listening_of_take? taken
  have balance := h.signals
  refine ⟨h.sent, h.future, h.slots.take? taken, (Channel.capacity_of_take? taken).trans h.size, ?_,
    fun hears => h.hearing (listening.symm.trans hears), fun silent => ?_, h.completions⟩
  · show s.received + 1 + c.buffered + s.lost = s.delivered.count .signal
    omega
  · have empty := (h.deaf (listening.symm.trans silent)).1
    omega

theorem Sound.act {d : Deed} (h : Sound n capacity given s) (act : s.act d = some t) :
    Sound n capacity given t := by
  cases Change.of_act act with
  | @step p u hp hu =>
    have change := Producer.State.Change.of_step hu
    have moves := change.moves
    have inPlan := (h.future p hp).step change
    refine h.setOutlets inPlan.sent ?_ (change.sound .signal h.slots)
      (change.capacity_eq .signal) moves.signalsListening moves.signals
      (fun deaf => Producer.State.count_of_deaf (i := .signal) deaf) moves.completions
    rintro _ ⟨⟩
    exact inPlan
  | @takePlace p i hp _ sending =>
    obtain ⟨producer, -⟩ := Producer.State.channel_takePlace (s := s.state p) sending
    refine h.still ?_ (Producer.State.calm_takePlace (s := s.state p) sending)
    rintro _ ⟨⟩
    rw [producer]
    exact (h.future p hp).wait _
  | cancel => exact h.still (by rintro _ ⟨⟩) (Producer.calm_abandon _ _)
  | receive _ taken => exact h.receive taken
  | nothing => exact h
  | hangUp listening =>
    have kept := h.hearing listening
    have used := h.slots.used_le
    have size := h.size
    have balance := h.signals
    refine ⟨h.sent, h.future, .hangUp, size, ?_, by rintro ⟨⟩, fun _ => ⟨rfl, ?_⟩, h.completions⟩
    · show s.received + 0 + (s.lost + s.signals.buffered) = s.delivered.count .signal
      omega
    · show s.lost + s.signals.buffered ≤ _
      omega
  | @user a users hu =>
    have keeps := (Line.keeps_of_act hu).buffered
    have balance := h.completions
    refine ⟨h.sent, h.future, h.slots, h.size, h.signals, h.hearing, h.deaf, ?_⟩
    show s.collected + users.channel.buffered + s.lostCompletions + given.acknowledged
      = given.channel.buffered + users.acknowledged + s.delivered.count .completion
    omega
  | @collect c taken =>
    have filled := Channel.buffered_of_take? taken
    have balance := h.completions
    refine ⟨h.sent, h.future, h.slots, h.size, h.signals, h.hearing, h.deaf, ?_⟩
    show s.collected + 1 + c.buffered + s.lostCompletions + given.acknowledged
      = given.channel.buffered + s.users.acknowledged + s.delivered.count .completion
    omega
  | hangUpCompletions =>
    have balance := h.completions
    refine ⟨h.sent, h.future, h.slots, h.size, h.signals, h.hearing, h.deaf, ?_⟩
    show s.collected + 0 + (s.lostCompletions + s.users.channel.buffered) + given.acknowledged
      = given.channel.buffered + s.users.acknowledged + s.delivered.count .completion
    omega

/-- No signal is sent after the completion, which is sent once and only when all signals are; the
signals that were sent are those that were received and those that are buffered, as long as somebody
receives them; and no more are sent than were received and fit into the buffer. -/
theorem completion_last {name : String} {deeds : List Deed}
    (h : follow act (start name n capacity given) deeds = some s) :
    s.received + s.signals.buffered + s.lost = s.delivered.count .signal ∧
    (s.signals.listening = true → s.lost = 0) ∧
    s.delivered.count .signal ≤ min n (s.received + clampSlots capacity) ∧
    s.collected + s.users.channel.buffered + s.lostCompletions + given.acknowledged
      = given.channel.buffered + s.users.acknowledged + s.delivered.count .completion ∧
    (.completion ∈ s.delivered → s.delivered.count .signal = n) ∧
    s.delivered.count .completion ≤ 1 ∧
    ∀ before after, s.delivered = before ++ .completion :: after → after = [] := by
  have sound : Sound n capacity given s :=
    follow_invariant (fun _ _ _ act h => h.act act) h (.start name n capacity given)
  have used := sound.slots.used_le
  have all := sound.signals
  refine ⟨all, sound.hearing, ?_, sound.completions, Item.count_signal_of_completion sound.sent,
    Item.count_completion_le sound.sent, fun _ _ => Item.eq_nil_of_completion sound.sent⟩
  have le := Item.count_signal_le sound.sent
  rw [sound.size] at used
  cases listening : s.signals.listening with
  | true =>
    have kept := sound.hearing listening
    omega
  | false =>
    have gone := sound.deaf listening
    omega

/-- The second signal waits for a slot, the completion for the completion of somebody else, and the
second signal is lost with its receiver. -/
theorem completion_last_of_contention :
    let deeds : List Deed := [.step, .step, .step, .user (.begin "other"), .user (.poll 0), .receive,
      .step, .step, .step, .collect, .hangUp, .step, .cancel]
    ∃ s, follow act (start "producer" 2 0 { channel := .create 0 }) deeds = some s ∧
      s.received = 1 ∧ s.lost = 1 ∧ .completion ∈ s.delivered ∧ s.delivered.count .signal = 2 := by
  intro deeds
  have seen : (follow act (start "producer" 2 0 { channel := .create 0 }) deeds).map
      (fun s => (s.received, s.lost, s.delivered))
      = some (1, 1, [.signal, .signal, .completion]) := by decide +kernel
  obtain ⟨s, h, same⟩ := Option.map_eq_some_iff.mp seen
  obtain ⟨received, lost, delivered⟩ : s.received = 1 ∧ s.lost = 1 ∧
      s.delivered = [.signal, .signal, .completion] := by simpa using same
  have mem : Item.completion ∈ s.delivered := by simp [delivered]
  obtain ⟨-, -, -, -, complete, -⟩ := completion_last h
  exact ⟨s, h, received, lost, mem, complete mem⟩

end Stream

end SharedCounter
