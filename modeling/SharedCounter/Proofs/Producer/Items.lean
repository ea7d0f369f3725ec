import SharedCounter.Producer.Effort
import SharedCounter.Proofs.Channel.Queue
import SharedCounter.Proofs.Producer.Orderly

/-!
# What a producer sends, and what it waits for

* `Item` : a signal or a completion, and the channel that it is sent on;
* `Producer.sending?` : the item that the next act sends, and `State.poll` : what comes of trying;
* `State.delivers?` : the item that comes through in the next step. It is what the step puts into
  the channels (`Change.moves`), and it needs an end to send with (`holds_of_sending?`);
* `State.Blocked s i` : the send of `i` waits and has no slot. A producer that has not ended takes a
  step unless it is blocked (`step_eq_none_iff`);
* `step_of_sent`, `step_of_refused` : with a slot the send comes through, and without a receiver it
  fails and ends the producer.
-/

namespace SharedCounter

/-- What producers send. -/
inductive Item where
  | signal
  | completion
  deriving DecidableEq, Repr

namespace Item

/-- The channel that an item is sent on. -/
def channel (o : Outlets) : Item → Channel
  | .signal => o.signals
  | .completion => o.completions

/-- What the failure of a send calls the channel. -/
def channelName : Item → String
  | .signal => "signal"
  | .completion => "completion"

end Item

namespace Producer

/-- The item that the next act sends. -/
def sending? (p : Producer) : Option Item :=
  match p.verdict, p.acts with
  | none, .send (_ + 1) :: _ => if p.holdsSignals then some .signal else none
  | none, .complete :: _ => if p.holdsCompletion then some .completion else none
  | _, _ => none

/-- Whether the end for an item is held. -/
def holds (p : Producer) : Item → Bool
  | .signal => p.holdsSignals
  | .completion => p.holdsCompletion

variable {p : Producer} {i : Item}

/-- A producer that has ended has a verdict and no ends. -/
theorem of_ended (ended : p.ended = true) :
    ∃ v, p.verdict = some v ∧ p.holdsSignals = false ∧ p.holdsCompletion = false := by
  simp only [Producer.ended, Bool.and_eq_true, Bool.not_eq_true', Option.isSome_iff_exists] at ended
  obtain ⟨⟨⟨v, judged⟩, signals⟩, completion⟩ := ended
  exact ⟨v, judged, signals, completion⟩

theorem sending?_of_judged {v : Verdict} (judged : p.verdict = some v) : p.sending? = none := by
  rw [sending?, judged]

theorem sending?_signal {n : Nat} {rest : List Act} (going : p.verdict = none)
    (acts : p.acts = .send (n + 1) :: rest) (holds : p.holdsSignals = true) :
    p.sending? = some .signal := by
  rw [sending?, going, acts]
  exact if_pos holds

theorem sending?_completion {rest : List Act} (going : p.verdict = none)
    (acts : p.acts = .complete :: rest) (holds : p.holdsCompletion = true) :
    p.sending? = some .completion := by
  rw [sending?, going, acts]
  exact if_pos holds

theorem Idle.sending? {act : Act} {rest : List Act} (idle : p.Idle act)
    (acts : p.acts = act :: rest) : p.sending? = none := by
  unfold Producer.sending?
  rw [acts]
  cases idle with
  | signals n gone => cases p.verdict <;> cases n <;> simp [gone]
  | completion gone => cases p.verdict <;> simp [gone]
  | _ => cases p.verdict <;> rfl

/-- A send of this kind is the next act of a producer that holds the end for it. -/
theorem of_sending? (h : p.sending? = some i) :
    p.verdict = none ∧
      match i with
      | .signal => (∃ n rest, p.acts = .send (n + 1) :: rest) ∧ p.holdsSignals = true
      | .completion => (∃ rest, p.acts = .complete :: rest) ∧ p.holdsCompletion = true := by
  unfold sending? at h
  split at h
  next n rest going acts =>
    obtain ⟨holds, ⟨⟩⟩ := Option.ite_none_right_eq_some.mp h
    exact ⟨going, ⟨n, rest, acts⟩, holds⟩
  next rest going acts =>
    obtain ⟨holds, ⟨⟩⟩ := Option.ite_none_right_eq_some.mp h
    exact ⟨going, ⟨rest, acts⟩, holds⟩
  next => cases h

theorem holds_of_sending? (h : p.sending? = some i) : p.holds i = true := by
  obtain ⟨-, next⟩ := of_sending? h
  cases i with
  | signal => exact next.2
  | completion => exact next.2

theorem sends_of_sending? (h : p.sending? = some i) : p.sends = true := by
  obtain ⟨going, next⟩ := of_sending? h
  cases i with
  | signal =>
    obtain ⟨⟨n, rest, acts⟩, holds⟩ := next
    simp [sends, acts, going, holds]
  | completion =>
    obtain ⟨⟨rest, acts⟩, holds⟩ := next
    simp [sends, sendsCompletion, acts, going, holds]

theorem sending?_of_sends (h : p.sends = true) :
    p.sending? = some (if p.sendsCompletion then .completion else .signal) := by
  unfold sends at h
  split at h
  next n rest acts =>
    rw [Bool.and_eq_true, Option.isNone_iff_eq_none] at h
    rw [sending?_signal h.1 acts h.2, sendsCompletion, acts]
    rfl
  next =>
    rw [h]
    unfold sendsCompletion at h
    split at h
    next rest acts =>
      rw [Bool.and_eq_true, Option.isNone_iff_eq_none] at h
      exact sending?_completion h.1 acts h.2
    next => cases h

theorem exists_sending? (h : p.sends = true) : ∃ i, p.sending? = some i :=
  ⟨_, sending?_of_sends h⟩

namespace State

/-- What comes of trying to send an item. -/
def poll (s : State) (i : Item) : SendPoll × Channel :=
  (i.channel s.outlets).pollSend s.producer.place

/-- The item that comes through in the next step. -/
def delivers? (s : State) : Option Item := s.producer.sending?.filter fun i => (s.poll i).1 = .sent

/-- The send of an item waits for a slot. -/
def Blocked (s : State) (i : Item) : Prop :=
  s.producer.sending? = some i ∧
    ∃ t, s.producer.place = some t ∧ s.poll i = (.waiting t, i.channel s.outlets)

variable {s t : State}

/-! ## What comes through -/

theorem delivers?_of_none (h : s.producer.sending? = none) : s.delivers? = none := by
  rw [delivers?, h, Option.filter_none]

theorem delivers?_of_sent {c : Channel} (h : s.producer.sending? = some i)
    (poll : s.poll i = (.sent, c)) : s.delivers? = some i := by
  rw [delivers?, h, Option.filter_some, poll]
  rfl

theorem delivers?_of_not_sent {r : SendPoll} {c : Channel} (h : s.producer.sending? = some i)
    (poll : s.poll i = (r, c)) (not_sent : r ≠ .sent) : s.delivers? = none := by
  rw [delivers?, h, Option.filter_some, poll]
  exact if_neg (by simpa using not_sent)

theorem sending?_of_delivers? (h : s.delivers? = some i) : s.producer.sending? = some i :=
  (Option.filter_eq_some_iff.mp h).1

theorem poll_of_delivers? (h : s.delivers? = some i) : (s.poll i).1 = .sent := by
  simpa using (Option.filter_eq_some_iff.mp h).2

/-- Without a receiver nothing comes through. -/
theorem count_of_deaf (deaf : (i.channel s.outlets).listening = false) :
    s.delivers?.toList.count i = 0 := by
  rw [List.count_eq_zero, Option.mem_toList]
  intro h
  have refused := Channel.pollSend_of_deaf deaf s.producer.place
  have sent := poll_of_delivers? h
  rw [State.poll, refused] at sent
  cases sent

/-- Without an end for completions, none comes through. -/
theorem count_completion_of_gone (gone : s.producer.holdsCompletion = false) :
    s.delivers?.toList.count .completion = 0 := by
  rw [List.count_eq_zero, Option.mem_toList]
  intro h
  obtain ⟨-, -, holds⟩ := of_sending? (sending?_of_delivers? h)
  rw [gone] at holds
  cases holds

theorem moves_of_letGo {c : Channel} (outlets : t.outlets = { s.outlets with completions := c })
    (dropped : c = s.outlets.completions.dropSender) (holds : s.producer.holdsCompletion = true)
    (gone : t.producer.holdsCompletion = false) : Moves s t 0 0 := by
  subst dropped
  constructor <;> simp [outlets, holds, gone, Channel.dropSender]

/-- What comes through is what a step puts into the channels. -/
theorem Change.moves (change : Change s t) :
    Moves s t (s.delivers?.toList.count .signal) (s.delivers?.toList.count .completion) := by
  cases change with
  | announce going acts | fail going acts | crash going acts | produce going acts
  | finish going acts =>
    rw [delivers?_of_none (by rw [sending?, going, acts])]
    exact .still rfl rfl
  | skip going acts idle =>
    rw [delivers?_of_none (idle.sending? acts)]
    exact .still rfl rfl
  | signal going acts holds poll =>
    obtain ⟨-, buffered, -, listening⟩ := Channel.buffered_of_sent poll
    rw [delivers?_of_sent (sending?_signal going acts holds) poll]
    exact .onSignals rfl rfl buffered listening
  | signalWaits going acts holds poll =>
    have quiet := Channel.quiet_of_waiting poll
    rw [delivers?_of_not_sent (sending?_signal going acts holds) poll (by simp)]
    exact .onSignals rfl rfl quiet.buffered quiet.listening
  | signalRefused going acts holds poll =>
    obtain ⟨-, rfl⟩ := Channel.eq_of_refused poll
    rw [delivers?_of_not_sent (sending?_signal going acts holds) poll (by simp)]
    exact .still rfl rfl
  | completion going acts holds poll =>
    obtain ⟨-, buffered, senders, listening⟩ := Channel.buffered_of_sent poll
    rw [delivers?_of_sent (sending?_completion going acts holds) poll]
    exact .onCompletions rfl rfl buffered senders listening
  | completionWaits going acts holds poll =>
    have quiet := Channel.quiet_of_waiting poll
    rw [delivers?_of_not_sent (sending?_completion going acts holds) poll (by simp)]
    exact .onCompletions rfl rfl quiet.buffered quiet.senders quiet.listening
  | completionRefused going acts holds poll =>
    obtain ⟨-, rfl⟩ := Channel.eq_of_refused poll
    rw [delivers?_of_not_sent (sending?_completion going acts holds) poll (by simp)]
    exact .still rfl rfl
  | dropSignals going acts =>
    rw [delivers?_of_none (by rw [sending?, going, acts])]
    exact .onSignals rfl rfl rfl rfl
  | dropCompletion going acts holds =>
    rw [delivers?_of_none (by rw [sending?, going, acts])]
    exact moves_of_letGo rfl rfl holds rfl
  | letGoSignals judged =>
    rw [delivers?_of_none (sending?_of_judged judged)]
    exact .onSignals rfl rfl rfl rfl
  | letGoCompletion judged _ holds =>
    rw [delivers?_of_none (sending?_of_judged judged)]
    exact moves_of_letGo rfl rfl holds rfl

/-! ## Channels -/

/-- What a step makes of a channel: a send is tried, or an end is let go. -/
theorem Change.channel (change : Change s t) (i : Item) :
    i.channel t.outlets = i.channel s.outlets ∨ i.channel t.outlets = (s.poll i).2 ∨
      i.channel t.outlets = (i.channel s.outlets).dropSender := by
  cases change with
  | signal going acts holds poll | signalWaits going acts holds poll
  | signalRefused going acts holds poll =>
    cases i with
    | signal => exact .inr (.inl (congrArg Prod.snd poll).symm)
    | completion => exact .inl rfl
  | completion going acts holds poll | completionWaits going acts holds poll
  | completionRefused going acts holds poll =>
    cases i with
    | signal => exact .inl rfl
    | completion => exact .inr (.inl (congrArg Prod.snd poll).symm)
  | dropSignals | letGoSignals =>
    cases i with
    | signal => exact .inr (.inr rfl)
    | completion => exact .inl rfl
  | dropCompletion | letGoCompletion =>
    cases i with
    | signal => exact .inl rfl
    | completion => exact .inr (.inr rfl)
  | _ => exact .inl rfl

theorem Change.sound (change : Change s t) (i : Item) (sound : (i.channel s.outlets).Sound) :
    (i.channel t.outlets).Sound := by
  rcases change.channel i with same | polled | dropped
  · rw [same]
    exact sound
  · rw [polled]
    exact sound.pollSend _
  · rw [dropped]
    exact sound.dropSender

theorem Change.capacity_eq (change : Change s t) (i : Item) :
    (i.channel t.outlets).capacity = (i.channel s.outlets).capacity := by
  rcases change.channel i with same | polled | dropped
  · rw [same]
  · rw [polled]
    exact Channel.capacity_pollSend _ _
  · rw [dropped]
    rfl

/-- An end is held until it is let go. -/
theorem Change.ends (change : Change s t) (i : Item) :
    (i.channel t.outlets).senders = (i.channel s.outlets).senders ∧
        t.producer.holds i = s.producer.holds i ∨
      (i.channel t.outlets).senders = (i.channel s.outlets).senders - 1 ∧
        s.producer.holds i = true ∧ t.producer.holds i = false := by
  cases change with
  | signal going acts holds poll | signalWaits going acts holds poll
  | signalRefused going acts holds poll =>
    have senders := Channel.senders_pollSend s.outlets.signals s.producer.place
    rw [poll] at senders
    cases i with
    | signal => exact .inl ⟨senders, rfl⟩
    | completion => exact .inl ⟨rfl, rfl⟩
  | completion going acts holds poll | completionWaits going acts holds poll
  | completionRefused going acts holds poll =>
    have senders := Channel.senders_pollSend s.outlets.completions s.producer.place
    rw [poll] at senders
    cases i with
    | signal => exact .inl ⟨rfl, rfl⟩
    | completion => exact .inl ⟨senders, rfl⟩
  | dropSignals going acts holds | letGoSignals judged holds =>
    cases i with
    | signal => exact .inr ⟨rfl, holds, rfl⟩
    | completion => exact .inl ⟨rfl, rfl⟩
  | dropCompletion going acts holds | letGoCompletion judged gone holds =>
    cases i with
    | signal => exact .inl ⟨rfl, rfl⟩
    | completion => exact .inr ⟨rfl, holds, rfl⟩
  | _ => cases i <;> exact .inl ⟨rfl, rfl⟩

theorem Change.listening_eq (change : Change s t) (i : Item) :
    (i.channel t.outlets).listening = (i.channel s.outlets).listening := by
  rcases change.channel i with same | polled | dropped
  · rw [same]
  · rw [polled]
    exact Channel.listening_pollSend _ _
  · rw [dropped]
    rfl

theorem Change.granted_subset (change : Change s t) (i : Item) :
    (i.channel t.outlets).granted ⊆ (i.channel s.outlets).granted := by
  rcases change.channel i with same | polled | dropped
  · rw [same]
    exact List.Subset.refl _
  · rw [polled]
    exact Channel.granted_pollSend_subset _ _
  · rw [dropped]
    exact List.Subset.refl _

/-! ## Waiting -/

/-- A send is blocked as long as somebody listens and it has no slot. -/
theorem blocked_iff : s.Blocked i ↔ s.producer.sending? = some i ∧
    ∃ t, s.producer.place = some t ∧ (i.channel s.outlets).listening = true ∧
      t ∉ (i.channel s.outlets).granted := by
  constructor
  · rintro ⟨sending, t, place, poll⟩
    rw [State.poll, place] at poll
    exact ⟨sending, t, place, Channel.listening_of_waiting poll,
      Channel.not_granted_of_waiting poll⟩
  · rintro ⟨sending, t, place, listening, not_granted⟩
    refine ⟨sending, t, place, ?_⟩
    rw [State.poll, place]
    exact Channel.pollSend_of_not_granted listening not_granted

/-- A step that sends is the outcome of one poll. -/
theorem step_of_sending? (h : s.producer.sending? = some i) :
    ∃ acts outlets, s.step = s.sendTo acts i.channelName outlets (s.poll i) := by
  obtain ⟨going, next⟩ := of_sending? h
  cases i with
  | signal =>
    obtain ⟨⟨n, rest, acts⟩, holds⟩ := next
    exact ⟨_, _, by simp only [step, going, acts, perform, holds, if_true]; rfl⟩
  | completion =>
    obtain ⟨⟨rest, acts⟩, holds⟩ := next
    exact ⟨_, _, by simp only [step, going, acts, perform, holds, if_true]; rfl⟩

/-- With a slot the send comes through. -/
theorem step_of_sent {c : Channel} (h : s.producer.sending? = some i)
    (poll : s.poll i = (.sent, c)) : ∃ t, s.step = some t ∧ s.delivers? = some i := by
  obtain ⟨acts, outlets, step⟩ := step_of_sending? h
  rw [step, poll]
  exact ⟨_, rfl, delivers?_of_sent h poll⟩

/-- Without a receiver the send fails, and the producer with it. -/
theorem step_of_refused {c : Channel} (h : s.producer.sending? = some i)
    (poll : s.poll i = (.refused, c)) :
    ∃ t, s.step = some t ∧
      t.producer.verdict = some (.failed ⟨s.producer.name, i.channelName⟩) := by
  obtain ⟨acts, outlets, step⟩ := step_of_sending? h
  rw [step, poll]
  exact ⟨_, rfl, rfl⟩

theorem step_of_blocked (h : s.Blocked i) : s.step = none := by
  obtain ⟨sending, t, place, poll⟩ := h
  obtain ⟨acts, outlets, step⟩ := step_of_sending? sending
  rw [step, poll]
  exact if_pos place

theorem blocked_of_step (h : s.producer.sending? = some i) (stuck : s.step = none) :
    s.Blocked i := by
  obtain ⟨acts, outlets, step⟩ := step_of_sending? h
  rw [step] at stuck
  rcases poll : s.poll i with ⟨_ | t | _, c⟩
  · rw [poll] at stuck
    cases stuck
  · rw [poll] at stuck
    by_cases place : s.producer.place = some t
    · rw [State.poll, place] at poll
      obtain ⟨-, rfl⟩ := Channel.eq_of_waiting poll
      exact ⟨h, t, place, by rw [State.poll, place]; exact poll⟩
    · rw [sendTo, if_neg place] at stuck
      cases stuck
  · rw [poll] at stuck
    cases stuck

theorem ended_of_step (h : s.producer.sending? = none) (stuck : s.step = none) :
    s.producer.ended = true := by
  unfold step at stuck
  split at stuck
  next v judged =>
    split at stuck
    · cases stuck
    next signals =>
      split at stuck
      · cases stuck
      next completion => simp [Producer.ended, judged, signals, completion]
  next going =>
    split at stuck
    · cases stuck
    next act rest acts =>
      unfold sending? at h
      rw [going, acts] at h
      cases act with
      | send n =>
        cases n with
        | zero => cases stuck
        | succ n =>
          have gone : s.producer.holdsSignals = false := by simpa using h
          simp [perform, gone] at stuck
      | complete =>
        have gone : s.producer.holdsCompletion = false := by simpa using h
        simp [perform, gone] at stuck
      | _ => cases stuck

/-- A producer that has not ended takes a step, unless it is blocked. -/
theorem step_eq_none_iff : s.step = none ↔ s.producer.ended = true ∨ ∃ i, s.Blocked i := by
  constructor
  · intro stuck
    cases sending : s.producer.sending? with
    | none => exact .inl (ended_of_step sending stuck)
    | some i => exact .inr ⟨i, blocked_of_step sending stuck⟩
  · rintro (ended | ⟨i, blocked⟩)
    · obtain ⟨v, judged, signals, completion⟩ := of_ended ended
      simp [step, judged, signals, completion]
    · exact step_of_blocked blocked

end State

end Producer

end SharedCounter
