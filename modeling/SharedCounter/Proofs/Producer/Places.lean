import SharedCounter.Proofs.Channel.Queue
import SharedCounter.Proofs.Producer.Items

/-!
# Where a producer waits

* `SendPoll.place?` : where an attempt leaves a send;
* `Producer.placeOn i` : where the send of the item `i` waits, if that is what the producer waits
  for;
* `State.tended_of_send` : a send that is tried keeps the queue of its channel in order, and so does
  every step (`State.Change.tended`) and a place that is taken (`State.tended_takePlace`).
-/

namespace SharedCounter

/-- Where a send has to wait after an attempt. -/
def SendPoll.place? : SendPoll → Option Ticket
  | .waiting t => some t
  | _ => none

namespace Item

theorem channel_of_ne_signal {i : Item} (h : i ≠ .signal) (o : Outlets) (c : Channel) :
    i.channel { o with signals := c } = i.channel o := by
  cases i with
  | signal => exact absurd rfl h
  | completion => rfl

theorem channel_of_ne_completion {i : Item} (h : i ≠ .completion) (o : Outlets) (c : Channel) :
    i.channel { o with completions := c } = i.channel o := by
  cases i with
  | signal => rfl
  | completion => exact absurd rfl h

end Item

namespace Producer

/-- Where the send of an item waits, if it does. -/
def placeOn (p : Producer) (i : Item) : Option Ticket :=
  if p.sending? = some i then p.place else none

variable {p : Producer} {i : Item}

theorem placeOn_of_idle (h : p.place = none ∨ p.verdict ≠ none) (i : Item) :
    p.placeOn i = none := by
  unfold placeOn
  split
  next sending =>
    rcases h with unplaced | judged
    · exact unplaced
    · exact absurd (of_sending? sending).1 judged
  next => rfl

theorem placeOn_next (p : Producer) (acts : List Act) (i : Item) :
    (p.next acts).placeOn i = none := placeOn_of_idle (.inl rfl) i

theorem placeOn_finish (p : Producer) (v : Verdict) (i : Item) :
    (p.finish v).placeOn i = none := placeOn_of_idle (.inl rfl) i

theorem placeOn_of_none (h : p.sending? = none) (i : Item) : p.placeOn i = none := by
  simp [placeOn, h]

theorem placeOn_of_some (h : p.sending? = some i) : p.placeOn i = p.place := by
  simp [placeOn, h]

theorem placeOn_of_ne {j : Item} (h : p.sending? = some i) (ne : i ≠ j) : p.placeOn j = none := by
  simp [placeOn, h, ne]

theorem placeOn_wait (h : p.sending? = some i) (t : Ticket) (j : Item) :
    { p with place := some t }.placeOn j = if j = i then some t else none := by
  have sending : { p with place := some t }.sending? = some i := h
  split
  next same =>
    rw [same]
    exact placeOn_of_some sending
  next other => exact placeOn_of_ne sending (Ne.symm other)

namespace State

variable {s t : State}
variable {ι : Type} [DecidableEq ι] {place : ι → Option Ticket} {k : ι}

theorem tended_of_idle {c d : Channel} (tended : c.Tended place) (idle : place k = none)
    (same : d = c ∨ d = c.dropSender) : d.Tended (Function.update place k none) := by
  rw [← idle, Function.update_eq_self]
  rcases same with rfl | rfl
  · exact tended
  · exact tended.dropSender

/-- A send that is tried keeps the queue of its channel. -/
theorem tended_of_poll {c : Channel} {r : SendPoll}
    (tended : (i.channel s.outlets).Tended place) (waits : place k = s.producer.place)
    (poll : s.poll i = (r, c)) (fresh : ∀ u, r = .waiting u → s.producer.place ≠ some u) :
    c.Tended (Function.update place k r.place?) := by
  cases r with
  | sent =>
    rw [State.poll, ← waits] at poll
    exact tended.sent poll
  | refused =>
    obtain ⟨deaf, rfl⟩ := Channel.eq_of_refused poll
    exact tended.of_deaf deaf
  | waiting u =>
    rw [State.poll] at poll
    cases hp : s.producer.place with
    | none =>
      rw [hp] at poll waits
      exact tended.waits waits poll
    | some v =>
      rw [hp] at poll
      obtain ⟨rfl, -⟩ := Channel.eq_of_waiting poll
      exact absurd hp (fresh _ rfl)

/-- A producer that has tried to send `j` waits only where that send has left it. -/
theorem tended_of_send {j : Item} {r : SendPoll}
    (tended : (i.channel s.outlets).Tended place) (waits : place k = s.producer.placeOn i)
    (sending : s.producer.sending? = some j) (poll : s.poll j = (r, j.channel t.outlets))
    (fresh : ∀ u, r = .waiting u → s.producer.place ≠ some u)
    (after : ∀ i, t.producer.placeOn i = if i = j then r.place? else none)
    (other : ∀ i, i ≠ j → i.channel t.outlets = i.channel s.outlets) :
    (i.channel t.outlets).Tended (Function.update place k (t.producer.placeOn i)) := by
  rw [after]
  by_cases same : i = j
  · subst same
    rw [placeOn_of_some sending] at waits
    rw [if_pos rfl]
    exact tended_of_poll tended waits poll fresh
  · rw [if_neg same]
    rw [placeOn_of_ne sending (Ne.symm same)] at waits
    exact tended_of_idle tended waits (.inl (other i same))

/-- Every step keeps the queues of the channels. -/
theorem Change.tended (change : Change s t) (i : Item)
    (tended : (i.channel s.outlets).Tended place) (waits : place k = s.producer.placeOn i) :
    (i.channel t.outlets).Tended (Function.update place k (t.producer.placeOn i)) := by
  -- Without a send, the producer waits neither before nor after the step.
  have idle : s.producer.sending? = none →
      (t.producer.place = none ∨ t.producer.verdict ≠ none) →
      (i.channel t.outlets = i.channel s.outlets ∨
        i.channel t.outlets = (i.channel s.outlets).dropSender) →
      (i.channel t.outlets).Tended (Function.update place k (t.producer.placeOn i)) := by
    intro none_sent after same
    rw [placeOn_of_none none_sent] at waits
    rw [placeOn_of_idle after]
    exact tended_of_idle tended waits same
  cases change with
  | announce going acts | produce going acts | fail going acts | crash going acts
  | finish going acts => exact idle (by rw [sending?, going, acts]) (.inl rfl) (.inl rfl)
  | skip going acts none_sent => exact idle (none_sent.sending? acts) (.inl rfl) (.inl rfl)
  | signal going acts holds poll =>
    refine tended_of_send tended waits (sending?_signal going acts holds) poll (by simp)
      (fun i => ?_) fun i other => Item.channel_of_ne_signal other _ _
    rw [placeOn_next]
    exact (ite_self _).symm
  | signalWaits going acts holds poll fresh =>
    have sending := sending?_signal going acts holds
    exact tended_of_send tended waits sending poll (by rintro u ⟨⟩; exact fresh)
      (placeOn_wait sending _) fun i other => Item.channel_of_ne_signal other _ _
  | signalRefused going acts holds poll =>
    refine tended_of_send tended waits (sending?_signal going acts holds) poll (by simp)
      (fun i => ?_) fun i other => Item.channel_of_ne_signal other _ _
    rw [placeOn_finish]
    exact (ite_self _).symm
  | completion going acts holds poll =>
    refine tended_of_send tended waits (sending?_completion going acts holds) poll (by simp)
      (fun i => ?_) fun i other => Item.channel_of_ne_completion other _ _
    rw [placeOn_next]
    exact (ite_self _).symm
  | completionWaits going acts holds poll fresh =>
    have sending := sending?_completion going acts holds
    exact tended_of_send tended waits sending poll (by rintro u ⟨⟩; exact fresh)
      (placeOn_wait sending _) fun i other => Item.channel_of_ne_completion other _ _
  | completionRefused going acts holds poll =>
    refine tended_of_send tended waits (sending?_completion going acts holds) poll (by simp)
      (fun i => ?_) fun i other => Item.channel_of_ne_completion other _ _
    rw [placeOn_finish]
    exact (ite_self _).symm
  | dropSignals going acts =>
    refine idle (by rw [sending?, going, acts]) (.inl rfl) ?_
    cases i with
    | signal => exact .inr rfl
    | completion => exact .inl rfl
  | dropCompletion going acts =>
    refine idle (by rw [sending?, going, acts]) (.inl rfl) ?_
    cases i with
    | signal => exact .inl rfl
    | completion => exact .inr rfl
  | letGoSignals judged =>
    have ended : s.producer.verdict ≠ none := by simp [judged]
    refine idle (sending?_of_judged judged) (.inr ended) ?_
    cases i with
    | signal => exact .inr rfl
    | completion => exact .inl rfl
  | letGoCompletion judged =>
    have ended : s.producer.verdict ≠ none := by simp [judged]
    refine idle (sending?_of_judged judged) (.inr ended) ?_
    cases i with
    | signal => exact .inl rfl
    | completion => exact .inr rfl

/-- The place is taken on the channel of the send. -/
theorem channel_takePlace {j : Item} (sending : s.producer.sending? = some j) :
    s.takePlace.producer = { s.producer with place := some (j.channel s.outlets).nextTicket } ∧
      ∀ i, i.channel s.takePlace.outlets
        = if i = j then (i.channel s.outlets).takePlace else i.channel s.outlets := by
  rw [sending?_of_sends (sends_of_sending? sending)] at sending
  unfold State.takePlace
  split
  next completion =>
    rw [if_pos completion] at sending
    cases sending
    exact ⟨rfl, fun i => by cases i <;> rfl⟩
  next signal =>
    rw [if_neg signal] at sending
    cases sending
    exact ⟨rfl, fun i => by cases i <;> rfl⟩

theorem calm_takePlace {j : Item} (sending : s.producer.sending? = some j) (i : Item) :
    Channel.Calm (i.channel s.outlets) (i.channel s.takePlace.outlets) := by
  obtain ⟨-, channel⟩ := channel_takePlace sending
  rw [channel]
  split
  · exact .takePlace _
  · exact .refl _

theorem senders_takePlace {j : Item} (sending : s.producer.sending? = some j) (i : Item) :
    (i.channel s.takePlace.outlets).senders = (i.channel s.outlets).senders := by
  obtain ⟨-, channel⟩ := channel_takePlace sending
  rw [channel]
  split
  · exact (Channel.Quiet.takePlace _).senders
  · rfl

/-- So does a send that takes its place. -/
theorem tended_takePlace (i : Item) (sends : s.producer.sends = true)
    (unplaced : s.producer.place = none) (tended : (i.channel s.outlets).Tended place)
    (waits : place k = s.producer.placeOn i) :
    (i.channel s.takePlace.outlets).Tended
      (Function.update place k (s.takePlace.producer.placeOn i)) := by
  obtain ⟨j, sending⟩ := exists_sending? sends
  obtain ⟨producer, channel⟩ := channel_takePlace sending
  rw [placeOn_of_idle (.inl unplaced)] at waits
  rw [producer, channel, placeOn_wait sending]
  by_cases same : i = j
  · rw [if_pos same, if_pos same, same]
    rw [same] at tended
    exact tended.takePlace waits
  · rw [if_neg same, if_neg same]
    exact tended_of_idle tended waits (.inl rfl)

end State

end Producer

end SharedCounter
