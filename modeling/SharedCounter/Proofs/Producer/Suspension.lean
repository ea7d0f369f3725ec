import SharedCounter.Proofs.Producer.Traced
import SharedCounter.Proofs.Service.Exchange
import SharedCounter.Proofs.Team.Roomy

/-!
# When a producer has to wait

* `Producer.Alone` : a producer that has been polled while nobody else has acted. It waits only at a
  full channel, and its completion gets a slot only if there was a free one (`Alone.step`);
* `TracedProducer.Fresh` : the notes of such a producer. The first poll leaves one
  (`TracedProducer.first_poll`), which has ended (`Fresh.at_end`) or waits (`Fresh.waits`);
* `Stream.Later` : receipts and receivers that are gone stay so;
* `Stream.Stuck` : a producer that waits goes on waiting until it is freed (`Stuck.act`), and is not
  heard of (`TracedProducer.stays`);
* `TracedProducer.waits_exactly` : when the first poll ends a producer, and how long one waits
  otherwise.
-/

namespace SharedCounter

/-- A new send comes through only on a free slot. -/
theorem Channel.free_of_new_sent {c d : Channel} (h : c.pollSend none = (.sent, d)) :
    0 < c.free := by
  unfold pollSend at h
  split at h
  · dsimp only at h
    split at h
    · assumption
    · simp at h
  · simp at h

namespace Producer

variable {n : Nat} {given : Line} {s t : State} {notes : List Note} {log : List Item}

/-- A producer that has been polled while nobody else has acted, and the notes of it. -/
structure Alone (given : Line) (s : State) (notes : List Note) : Prop where
  hears : s.outlets.signals.listening = true
  collects : s.outlets.completions.listening = true
  queue : s.outlets.completions.InLine
  unreserved : s.outlets.signals.granted = []
  full : s.producer.sending? = some .signal → s.producer.place ≠ none → s.outlets.signals.free = 0
  room : .sent .completion ∈ notes → 0 < given.channel.free
  untouched : .sent .completion ∉ notes →
    s.outlets.completions = given.channel.addSender ∧
        (s.producer.sending? = some .completion → s.producer.place = none) ∨
      s.Blocked .completion ∧ given.channel.free = 0

theorem Alone.orderly {name : String} {capacity : Nat} (listening : given.channel.listening = true)
    (queue : given.channel.InLine) : Alone given
      ⟨orderly name n, ⟨.create capacity, given.channel.addSender⟩, []⟩ [] where
  hears := rfl
  collects := listening
  queue := queue.congr rfl rfl rfl
  unreserved := rfl
  full := by rintro ⟨⟩
  room := by rintro ⟨⟩
  untouched _ := .inl ⟨rfl, fun _ => rfl⟩

theorem State.mem_told {i : Item} : .sent i ∈ s.told t ↔ s.delivers? = some i := by
  simp [told]

/-- A step keeps the queue of a channel in order. -/
theorem State.Change.inLine (change : State.Change s t) (i : Item)
    (inLine : (i.channel s.outlets).InLine) : (i.channel t.outlets).InLine := by
  rcases change.channel i with same | polled | dropped
  · rw [same]
    exact inLine
  · rw [polled]
    exact inLine.pollSend _
  · rw [dropped]
    exact inLine.congr rfl rfl rfl

/-- A producer that begins to wait for a slot has found none free. -/
theorem State.Change.full (change : State.Change s t)
    (sending : t.producer.sending? = some .signal) (waits : t.producer.place ≠ none) :
    t.outlets.signals.free = 0 := by
  cases change with
  | @signalWaits k rest u c going acts holds poll fresh =>
    cases place : s.producer.place with
    | none =>
      rw [place] at poll
      obtain ⟨full, -, rfl⟩ := Channel.of_new_waiting poll
      exact full
    | some v =>
      rw [place] at poll fresh
      obtain ⟨rfl, -⟩ := Channel.eq_of_waiting poll
      exact absurd rfl fresh
  | completionWaits going acts holds =>
    have completion := sending?_completion going acts holds
    cases completion.symm.trans sending
  | letGoSignals judged | letGoCompletion judged =>
    cases (of_sending? sending).1.symm.trans judged
  | _ => exact absurd rfl waits

/-- Until a completion is sent, its channel stays as it was given or has no free slot. -/
theorem Alone.waits_or_untouched (h : Alone given s notes) (inPlan : s.producer.InPlan n log)
    (going : s.producer.verdict = none) (change : State.Change s t)
    (still : s.outlets.completions = given.channel.addSender)
    (unplaced : s.producer.sending? = some .completion → s.producer.place = none)
    (nothing : s.delivers? ≠ some .completion) :
    t.outlets.completions = given.channel.addSender ∧
        (t.producer.sending? = some .completion → t.producer.place = none) ∨
      t.Blocked .completion ∧ given.channel.free = 0 := by
  cases change with
  | announce | skip | finish | signal => exact .inl ⟨still, fun _ => rfl⟩
  | signalRefused => exact .inl ⟨still, fun _ => rfl⟩
  | signalWaits going acts holds =>
    have signal := sending?_signal going acts holds
    refine .inl ⟨still, fun completion => ?_⟩
    cases signal.symm.trans completion
  | completion going acts holds poll =>
    exact absurd (State.delivers?_of_sent (sending?_completion going acts holds) poll) nothing
  | completionRefused going acts holds poll =>
    have deaf := (Channel.eq_of_refused poll).1
    rw [h.collects] at deaf
    cases deaf
  | @completionWaits rest u c going acts holds poll fresh =>
    have sending := sending?_completion going acts holds
    rw [unplaced sending] at poll
    obtain ⟨full, rfl, rfl⟩ := Channel.of_new_waiting poll
    have listening := h.collects
    rw [still] at full
    refine .inr ⟨State.blocked_iff.mpr ⟨sending, _, rfl, h.collects, fun granted => ?_⟩, full⟩
    exact Nat.lt_irrefl _ (h.queue.fresh _ (List.mem_append_left _ granted))
  | dropSignals going acts | dropCompletion going acts | fail going acts | crash going acts
  | produce going acts =>
    have plain := inPlan.plain going
    rw [acts] at plain
    exact absurd (plain _ List.mem_cons_self) (by simp [Act.plain])
  | letGoSignals judged | letGoCompletion judged => cases going.symm.trans judged

theorem Alone.step (h : Alone given s notes) (inPlan : s.producer.InPlan n log)
    (judged : s.producer.verdict ≠ none → .sent .completion ∈ notes) (step : s.step = some t) :
    Alone given t (notes ++ s.told t) := by
  have change := State.Change.of_step step
  have still : .sent .completion ∉ notes → s.outlets.completions = given.channel.addSender ∧
      (s.producer.sending? = some .completion → s.producer.place = none) := by
    intro fresh
    refine (h.untouched fresh).resolve_right fun stuck => ?_
    cases (State.step_of_blocked stuck.1).symm.trans step
  refine ⟨(change.listening_eq .signal).trans h.hears,
    (change.listening_eq .completion).trans h.collects, change.inLine .completion h.queue, ?_,
    change.full, fun mem => ?_, fun fresh => ?_⟩
  · have subset := change.granted_subset .signal
    rw [show (Item.signal.channel s.outlets).granted = [] from h.unreserved] at subset
    exact List.eq_nil_of_subset_nil subset
  · by_cases old : .sent .completion ∈ notes
    · exact h.room old
    · have delivers := State.mem_told.mp ((List.mem_append.mp mem).resolve_left old)
      obtain ⟨same, unplaced⟩ := still old
      have sent := State.poll_of_delivers? delivers
      rw [State.poll, unplaced (State.sending?_of_delivers? delivers)] at sent
      have free := Channel.free_of_new_sent (Prod.ext sent rfl)
      rw [show Item.completion.channel s.outlets = _ from same] at free
      exact free
  · have old : .sent .completion ∉ notes := fun old => fresh (List.mem_append_left _ old)
    obtain ⟨same, unplaced⟩ := still old
    have going : s.producer.verdict = none := by
      by_contra some_verdict
      exact old (judged some_verdict)
    refine h.waits_or_untouched inPlan going change same unplaced fun delivers => ?_
    exact fresh (List.mem_append_right _ (State.mem_told.mpr delivers))

/-- With receivers there is no other verdict than that all is sent. -/
theorem Course.finished {e : Effect} {p : Producer} {o : Outlets} {v : Verdict}
    (h : p.Course e n o notes) (hears : o.signals.listening = true)
    (collects : o.completions.listening = true) (judged : p.verdict = some v) :
    v = .finished ∧ notes = Note.story e n := by
  cases h.judged v judged with
  | finished => exact ⟨rfl, rfl⟩
  | signalLost less deaf => cases hears.symm.trans deaf
  | completionLost deaf => cases collects.symm.trans deaf

end Producer

namespace Note

variable {e : Effect} {n : Nat}

theorem completion_mem_story (e : Effect) (n : Nat) : .sent .completion ∈ story e n := by
  simp [story]

theorem count_signal_story (e : Effect) (n : Nat) : (story e n).count (.sent .signal) = n := by
  simp [story]

theorem count_signal_begun (e : Effect) (n k : Nat) :
    (published (.starting e n) :: List.replicate k (.sent .signal)).count (.sent .signal) = k := by
  simp

theorem completion_not_mem_begun (e : Effect) (n k : Nat) :
    .sent .completion ∉ published (.starting e n) :: List.replicate k (.sent .signal) := by
  simp

end Note

namespace TracedProducer

variable {e : Effect} {n capacity : Nat} {given : Line} {d d' : TracedProducer} {p : Producer}

/-! ## The first poll -/

/-- Nobody but the producer has acted. -/
structure Fresh (e : Effect) (n capacity : Nat) (given : Line) (d : TracedProducer) : Prop where
  sound : d.Sound e n capacity given
  alone : ∀ p, d.stream.future = some p → Producer.Alone given (d.stream.state p) d.notes
  received : d.stream.received = 0
  collected : d.stream.collected = 0

theorem Fresh.start (e : Effect) (n capacity : Nat) (users : given.Sound)
    (listening : given.channel.listening = true) (queue : given.channel.InLine) :
    (start e n capacity given).Fresh e n capacity given where
  sound := .start e n capacity users
  alone p hp := by
    cases hp
    exact .orderly listening queue
  received := rfl
  collected := rfl

theorem Fresh.step (h : d.Fresh e n capacity given) (move : d.move .step = some d') :
    d'.Fresh e n capacity given := by
  obtain ⟨p, t, hp, step, stream, notes⟩ := of_step move
  have alone := h.alone p hp
  refine ⟨h.sound.step move, fun q hq => ?_, ?_, ?_⟩
  · have judged : p.verdict ≠ none → .sent .completion ∈ d.notes := by
      intro some_verdict
      obtain ⟨v, judged⟩ := Option.ne_none_iff_exists'.mp some_verdict
      rw [((h.sound.course p hp).finished alone.hears alone.collects judged).2]
      exact Note.completion_mem_story e n
    have after := alone.step (h.sound.stream.future p hp) judged step
    rw [← notes] at after
    rw [stream] at hq ⊢
    obtain rfl := Option.some.inj hq
    exact ⟨after.hears, after.collects, after.queue, after.unreserved, after.full, after.room,
      after.untouched⟩
  · rw [stream]
    exact h.received
  · rw [stream]
    exact h.collected

/-- While nobody takes them, the signals that were sent are buffered. -/
theorem Sound.buffered (h : d.Sound e n capacity given) (received : d.stream.received = 0)
    (listening : d.stream.signals.listening = true) :
    d.stream.signals.buffered = d.notes.count (.sent .signal) := by
  have all := h.stream.signals
  have kept := h.stream.hearing listening
  rw [h.items]
  omega

theorem Fresh.buffered (h : d.Fresh e n capacity given) (hp : d.stream.future = some p) :
    d.stream.signals.buffered = d.notes.count (.sent .signal) :=
  h.sound.buffered h.received (h.alone p hp).hears

/-- A signal is blocked only when the buffer is full and not all signals are sent. -/
theorem Fresh.at_signals (h : d.Fresh e n capacity given) (hp : d.stream.future = some p)
    (blocked : (d.stream.state p).Blocked .signal) : clampSlots capacity < n ∧
      d.notes = .published (.starting e n) ::
        List.replicate (min n (clampSlots capacity)) (.sent .signal) := by
  have alone := h.alone p hp
  obtain ⟨sending, u, place, -⟩ := blocked
  obtain ⟨going, ⟨k, rest, acts⟩, -⟩ := Producer.of_sending? sending
  have story := (h.sound.course p hp).going going
  rw [show p.acts = _ from acts] at story
  obtain ⟨sent, less, notes⟩ := Note.eq_of_before_signal story
  have buffered := h.buffered hp
  rw [notes, Note.count_signal_begun] at buffered
  have full : d.stream.signals.free = 0 := alone.full sending (by rw [place]; simp)
  have conserved := h.sound.stream.slots.conserved
  have unreserved : d.stream.signals.granted = [] := alone.unreserved
  have size := h.sound.stream.size
  rw [unreserved, List.length_nil] at conserved
  have exact : sent = clampSlots capacity := by omega
  rw [exact] at less notes
  rw [Nat.min_eq_right (Nat.le_of_lt less)]
  exact ⟨less, notes⟩

theorem Fresh.sent_le (h : d.Fresh e n capacity given) (hp : d.stream.future = some p) :
    d.notes.count (.sent .signal) ≤ clampSlots capacity := by
  have used := h.sound.stream.slots.used_le
  rw [h.sound.stream.size, h.buffered hp] at used
  omega

/-- The completion is blocked only without a free slot, after all signals. -/
theorem Fresh.at_completion (h : d.Fresh e n capacity given) (hp : d.stream.future = some p)
    (blocked : (d.stream.state p).Blocked .completion) :
    n ≤ clampSlots capacity ∧ given.channel.free = 0 ∧
      d.notes = .published (.starting e n) ::
        List.replicate (min n (clampSlots capacity)) (.sent .signal) := by
  have sent_le := h.sent_le hp
  obtain ⟨sending, u, place, -⟩ := blocked
  obtain ⟨going, ⟨rest, acts⟩, -⟩ := Producer.of_sending? sending
  have story := (h.sound.course p hp).going going
  rw [show p.acts = _ from acts] at story
  have notes := Note.eq_of_before_completion story
  rw [notes, Note.count_signal_begun] at sent_le
  rw [Nat.min_eq_left sent_le]
  refine ⟨sent_le, ?_, notes⟩
  have fresh : .sent .completion ∉ d.notes := by
    rw [notes]
    exact Note.completion_not_mem_begun e n n
  rcases (h.alone p hp).untouched fresh with ⟨-, unplaced⟩ | ⟨-, full⟩
  · cases (unplaced sending).symm.trans place
  · exact full

/-- A producer ends only when all signals fit and there was a free slot for the completion. -/
theorem Fresh.at_end (h : d.Fresh e n capacity given) (hp : d.stream.future = some p)
    {v : Verdict} (judged : p.verdict = some v) :
    v = .finished ∧ n ≤ clampSlots capacity ∧ 0 < given.channel.free := by
  have alone := h.alone p hp
  have sent_le := h.sent_le hp
  obtain ⟨rfl, notes⟩ := (h.sound.course p hp).finished alone.hears alone.collects judged
  rw [notes, Note.count_signal_story] at sent_le
  refine ⟨rfl, sent_le, alone.room ?_⟩
  rw [notes]
  exact Note.completion_mem_story e n

theorem first_poll (e : Effect) (n capacity : Nat) (users : given.Sound)
    (listening : given.channel.listening = true) (queue : given.channel.InLine) :
    ∃ d p, (start e n capacity given).act .poll = some d ∧ d.stream.future = some p ∧
      d.Fresh e n capacity given ∧ d.Rests := by
  obtain ⟨d, polled, shows⟩ :=
    poll_eq_run (d := start e n capacity given) (p := .orderly e.name n) rfl
  refine ⟨d, _, polled, shows.future, ?_, rests_of_poll polled⟩
  have run : advance (·.move .step) (Producer.orderly e.name n).effort (start e n capacity given)
      = d := Option.some.inj polled
  rw [← run]
  exact advance_invariant (fun _ _ step h => h.step step) _
    (.start e n capacity users listening queue)

end TracedProducer

/-! ## Waiting -/

namespace Line

variable {b : Branch} {l m : Line} {a : Act}

/-- Nobody gets a slot unless somebody gives up a send. -/
theorem granted_of_act (inLine : l.channel.InLine) (act : l.act b a = some m)
    (kept : ∀ i, a ≠ .cancel i) : m.channel.granted ⊆ l.channel.granted := by
  cases a with
  | begin sender =>
    obtain ⟨-, ⟨⟩⟩ := Option.ite_none_right_eq_some.mp act
    exact List.Subset.refl _
  | poll i =>
    obtain ⟨f, -, rfl⟩ := Option.map_eq_some_iff.mp act
    have subset := Channel.granted_pollSend_subset l.channel f.place
    rcases poll : l.channel.pollSend f.place with ⟨_ | t | _, d⟩
    · rw [poll] at subset
      rw [settle_of_sent b i poll]
      exact subset
    · rw [poll] at subset
      rw [settle_of_waiting b i inLine poll]
      exact subset
    · rw [poll] at subset
      rw [settle_of_refused b i poll]
      exact subset
  | cancel i => exact absurd rfl (kept i)
  | clone =>
    obtain ⟨-, ⟨⟩⟩ := Option.ite_none_right_eq_some.mp act
    exact List.Subset.refl _
  | drop =>
    obtain ⟨-, ⟨⟩⟩ := Option.ite_none_right_eq_some.mp act
    exact List.Subset.refl _

end Line

namespace Stream

variable {s t u : Stream} {p : Producer} {i : Item} {deed : Deed}

/-- The items that the receiver has got. -/
def taken (s : Stream) : Item → Nat
  | .signal => s.received
  | .completion => s.collected

def channel (s : Stream) (i : Item) : Channel := i.channel ⟨s.signals, s.users.channel⟩

/-- Receipts, receivers that are gone and a producer that is gone stay so. -/
structure Later (s t : Stream) : Prop where
  taken : ∀ i, s.taken i ≤ t.taken i
  deaf : ∀ i, (s.channel i).listening = false → (t.channel i).listening = false
  gone : s.future = none → t.future = none

theorem Later.refl (s : Stream) : Later s s := ⟨fun _ => Nat.le_refl _, fun _ => id, id⟩

theorem Later.trans (h : Later s t) (h' : Later t u) : Later s u :=
  ⟨fun i => Nat.le_trans (h.taken i) (h'.taken i), fun i deaf => h'.deaf i (h.deaf i deaf),
    fun gone => h'.gone (h.gone gone)⟩

theorem Later.own {q : Option Producer} {o : Outlets} {delivered : List Item}
    (hp : s.future = some p)
    (listening : ∀ i : Item, (i.channel o).listening = (s.channel i).listening) :
    Later s { s.setOutlets o with future := q, delivered := delivered } :=
  ⟨fun i => by cases i <;> exact Nat.le_refl _, fun i deaf => (listening i).trans deaf,
    fun gone => nomatch gone.symm.trans hp⟩

theorem Later.signals (future : t.future = s.future) (users : t.users = s.users)
    (collected : t.collected = s.collected) (received : s.received ≤ t.received)
    (deaf : s.signals.listening = false → t.signals.listening = false) : Later s t := by
  refine ⟨fun i => ?_, fun i silent => ?_, future.trans⟩
  · cases i with
    | signal => exact received
    | completion => exact Nat.le_of_eq collected.symm
  · cases i with
    | signal => exact deaf silent
    | completion => exact (congrArg (·.channel.listening) users).trans silent

theorem Later.completions (future : t.future = s.future) (signals : t.signals = s.signals)
    (received : t.received = s.received) (collected : s.collected ≤ t.collected)
    (deaf : s.users.channel.listening = false → t.users.channel.listening = false) : Later s t := by
  refine ⟨fun i => ?_, fun i silent => ?_, future.trans⟩
  · cases i with
    | signal => exact Nat.le_of_eq received.symm
    | completion => exact collected
  · cases i with
    | signal => exact (congrArg (·.listening) signals).trans silent
    | completion => exact deaf silent

theorem Later.of_act (act : s.act deed = some t) : Later s t := by
  cases Change.of_act act with
  | step hp hu => exact .own hp (Producer.State.Change.of_step hu).listening_eq
  | @takePlace p i hp _ sending =>
    exact .own hp fun i => (Producer.State.calm_takePlace (s := s.state p) sending i).listening
  | @cancel p hp => exact .own hp fun i => (Producer.calm_abandon p _ i).listening
  | receive _ taken =>
    exact .signals rfl rfl rfl (Nat.le_succ _) (Channel.listening_of_take? taken).trans
  | nothing => exact .refl s
  | hangUp => exact .signals rfl rfl rfl (Nat.le_refl _) fun _ => rfl
  | user hu => exact .completions rfl rfl rfl (Nat.le_refl _) (Line.keeps_of_act hu).listening.trans
  | collect taken =>
    exact .completions rfl rfl rfl (Nat.le_succ _) (Channel.listening_of_take? taken).trans
  | hangUpCompletions => exact .completions rfl rfl rfl (Nat.le_refl _) fun _ => rfl

/-- The producer waits in the queue of a channel. -/
structure Stuck (i : Item) (p : Producer) (s : Stream) : Prop where
  future : s.future = some p
  blocked : (s.state p).Blocked i
  queue : s.users.channel.InLine

/-- An item has been taken since `s`, its receiver has gone, or the producer. -/
def Freed (i : Item) (s t : Stream) : Prop :=
  s.taken i < t.taken i ∨ (t.channel i).listening = false ∨ t.future = none

theorem Later.freed (h : Later t u) (freed : Freed i s t) : Freed i s u := by
  rcases freed with taken | deaf | gone
  · exact .inl (Nat.lt_of_lt_of_le taken (h.taken i))
  · exact .inr (.inl (h.deaf i deaf))
  · exact .inr (.inr (h.gone gone))

theorem Stuck.keeps (h : s.Stuck i p) (future : t.future = some p)
    (granted : (t.channel i).granted ⊆ (s.channel i).granted) (queue : t.users.channel.InLine) :
    t.Stuck i p ∨ Freed i s t := by
  cases listening : (t.channel i).listening with
  | false => exact .inr (.inr (.inl listening))
  | true =>
    obtain ⟨sending, k, place, -, not_granted⟩ := Producer.State.blocked_iff.mp h.blocked
    refine .inl ⟨future, Producer.State.blocked_iff.mpr ?_, queue⟩
    exact ⟨sending, k, place, listening, fun slot => not_granted (granted slot)⟩

/-- A producer that waits goes on waiting, unless an item is taken, the receiver goes or another
user gives up a completion. -/
theorem Stuck.act (h : s.Stuck i p) (act : s.act deed = some t)
    (kept : i = .completion → ∀ k, deed ≠ .user (.cancel k)) : t.Stuck i p ∨ Freed i s t := by
  cases Change.of_act act with
  | step hp hu =>
    obtain rfl := Option.some.inj (hp.symm.trans h.future)
    cases (Producer.State.step_of_blocked h.blocked).symm.trans hu
  | takePlace hp unplaced =>
    obtain rfl := Option.some.inj (hp.symm.trans h.future)
    obtain ⟨-, k, place, -⟩ := h.blocked
    cases unplaced.symm.trans place
  | cancel => exact .inr (.inr (.inr rfl))
  | receive =>
    cases i with
    | signal => exact .inr (.inl (Nat.lt_succ_self _))
    | completion => exact h.keeps h.future (List.Subset.refl _) h.queue
  | nothing => exact .inl h
  | hangUp =>
    cases i with
    | signal => exact .inr (.inr (.inl rfl))
    | completion => exact h.keeps h.future (List.Subset.refl _) h.queue
  | user hu =>
    refine h.keeps h.future ?_ ((Line.pushed_of_act h.queue hu).inLine h.queue)
    cases i with
    | signal => exact List.Subset.refl _
    | completion =>
      exact Line.granted_of_act h.queue hu fun k same => kept rfl k (congrArg _ same)
  | collect taken =>
    cases i with
    | signal => exact h.keeps h.future (List.Subset.refl _) (h.queue.take? taken)
    | completion => exact .inr (.inl (Nat.lt_succ_self _))
  | hangUpCompletions =>
    cases i with
    | signal => exact h.keeps h.future (List.Subset.refl _) h.queue.hangUp
    | completion => exact .inr (.inr (.inl rfl))

end Stream

namespace TracedProducer

variable {e : Effect} {n capacity : Nat} {given : Line} {d d' t : TracedProducer} {p : Producer}
  {i : Item}

/-- A producer that waits is polled in vain. -/
theorem poll_of_stuck (h : d.stream.Stuck i p) : d.act .poll = some d := by
  have stuck : d.move .step = none := by
    simp [move, Stream.act, h.future, Producer.State.step_of_blocked h.blocked]
  exact Option.map_eq_some_iff.mpr ⟨p, h.future, advance_of_none stuck _⟩

theorem tells_of_stuck (h : d.stream.Stuck i p) (deed : Stream.Deed) :
    d.stream.tells deed = [] := by
  cases deed with
  | step =>
    rw [Stream.tells, h.future]
    show (d.stream.state p).step.elim [] _ = []
    rw [Producer.State.step_of_blocked h.blocked]
    rfl
  | _ => rfl

theorem later_of_act {deed : Deed} (act : d.act deed = some d') : d.stream.Later d'.stream := by
  have moves : ∀ {d d' : TracedProducer} {deed},
      d.move deed = some d' → d.stream.Later d'.stream := by
    rintro d d' deed move
    obtain ⟨t, acted, rfl⟩ := Option.map_eq_some_iff.mp move
    exact .of_act acted
  cases deed with
  | poll =>
    obtain ⟨p, -, rfl⟩ := Option.map_eq_some_iff.mp act
    exact advance_invariant (P := fun u => d.stream.Later u.stream)
      (fun _ _ step h => h.trans (moves step)) _ (.refl _)
  | other deed => exact moves act

/-- Until it is freed, a producer that waits goes on waiting and is not heard of. -/
theorem stays {deeds : List Deed} (h : d.stream.Stuck i p) (later : follow act d deeds = some t)
    (kept : i = .completion → ∀ k, .other (.user (.cancel k)) ∉ deeds) :
    t.stream.Stuck i p ∧ t.notes = d.notes ∨ Stream.Freed i d.stream t.stream := by
  have stays := follow_invariant_of
    (P := fun u : TracedProducer => d.stream.Later u.stream ∧
      (u.stream.Stuck i p ∧ u.notes = d.notes ∨ Stream.Freed i d.stream u.stream))
    (q := fun deed => i = .completion → ∀ k, deed ≠ .other (.user (.cancel k)))
    (fun u deed v allowed act hu => ?_) later
    (fun deed mem completion k same => kept completion k (same ▸ mem))
    ⟨.refl _, .inl ⟨h, rfl⟩⟩
  · exact stays.2
  · obtain ⟨before, stuck | freed⟩ := hu
    · obtain ⟨stuck, notes⟩ := stuck
      refine ⟨before.trans (later_of_act act), ?_⟩
      cases deed with
      | poll =>
        obtain rfl := Option.some.inj ((poll_of_stuck stuck).symm.trans act)
        exact .inl ⟨stuck, notes⟩
      | other deed =>
        obtain ⟨w, acted, rfl⟩ := Option.map_eq_some_iff.mp act
        rcases stuck.act acted fun completion k same => allowed completion k (congrArg _ same) with
          still | taken | rest
        · refine .inl ⟨still, ?_⟩
          show u.notes ++ u.stream.tells deed = _
          rw [tells_of_stuck stuck, List.append_nil, notes]
        · exact .inr (.inl (Nat.lt_of_le_of_lt (before.taken i) taken))
        · exact .inr (.inr rest)
    · exact ⟨before.trans (later_of_act act), .inr ((later_of_act act).freed freed)⟩

/-- With nothing taken from the channel that has no slot, whoever is still there waits as before. -/
theorem eq_of_stuck {deeds : List Deed} {q : Producer} (h : d.stream.Stuck i p)
    (later : follow act d deeds = some t) (hq : t.stream.future = some q)
    (kept : i = .completion → ∀ k, .other (.user (.cancel k)) ∉ deeds)
    (taken : t.stream.taken i = 0) (listening : (t.stream.channel i).listening = true) :
    q = p ∧ t.notes = d.notes := by
  rcases stays h later kept with ⟨still, notes⟩ | more | deaf | gone
  · exact ⟨Option.some.inj (hq.symm.trans still.future), notes⟩
  · omega
  · cases listening.symm.trans deaf
  · cases gone.symm.trans hq

/-- A producer that waits after the first poll has sent all signals that fit, and no completion. -/
theorem Fresh.waits (h : d.Fresh e n capacity given) (hp : d.stream.future = some p)
    (blocked : (d.stream.state p).Blocked i) :
    (i = .signal ∧ clampSlots capacity < n ∨
      i = .completion ∧ n ≤ clampSlots capacity ∧ given.channel.free = 0) ∧
    p.verdict = none ∧ d.notes.count (.sent .signal) = min n (clampSlots capacity) ∧
    .sent .completion ∉ d.notes := by
  have going : p.verdict = none := (Producer.of_sending? blocked.1).1
  cases i with
  | signal =>
    obtain ⟨more, notes⟩ := h.at_signals hp blocked
    rw [notes, Note.count_signal_begun]
    exact ⟨.inl ⟨rfl, more⟩, going, rfl, Note.completion_not_mem_begun e n _⟩
  | completion =>
    obtain ⟨fits, full, notes⟩ := h.at_completion hp blocked
    rw [notes, Note.count_signal_begun]
    exact ⟨.inr ⟨rfl, fits, full⟩, going, rfl, Note.completion_not_mem_begun e n _⟩

theorem Fresh.stays {deeds : List Deed} {q : Producer} (h : d.Fresh e n capacity given)
    (hp : d.stream.future = some p) (blocked : (d.stream.state p).Blocked i)
    (later : follow act d deeds = some t) (hq : t.stream.future = some q)
    (unfreed : clampSlots capacity < n ∧ t.stream.received = 0 ∧ t.stream.signals.listening = true ∨
      n ≤ clampSlots capacity ∧ t.stream.collected = 0 ∧ t.stream.users.channel.listening = true ∧
        ∀ k, .other (.user (.cancel k)) ∉ deeds) :
    q = p ∧ t.notes = d.notes := by
  have stuck : d.stream.Stuck i p := ⟨hp, blocked, (h.alone p hp).queue⟩
  rcases (h.waits hp blocked).1 with ⟨rfl, more⟩ | ⟨rfl, fits, -⟩
  · rcases unfreed with ⟨-, received, hears⟩ | ⟨fits, -⟩
    · exact eq_of_stuck stuck later hq (by rintro ⟨⟩) received hears
    · omega
  · rcases unfreed with ⟨more, -⟩ | ⟨-, collected, collects, kept⟩
    · omega
    · exact eq_of_stuck stuck later hq (fun _ => kept) collected collects

/-- The first poll of a producer ends it if all signals fit and a slot is free for its completion.
Otherwise it waits with as many signals in the buffer as fit, and goes on waiting until an item is
taken from the channel that has no slot, its receiver goes, or another user gives up a completion.
So producers with buffers for all iterations never wait. -/
theorem waits_exactly :
    (∀ {requested : Nat} {before : List Exchange.Act} {x : Exchange} (e : Effect) (n capacity : Nat),
      follow (Exchange.act .completions) (Exchange.start requested) before = some x →
      x.line.channel.listening = true →
      ∃ d p, (start e n capacity x.line).act .poll = some d ∧ d.stream.future = some p ∧
        (p.ended = true ↔ n ≤ clampSlots capacity ∧ 0 < x.line.channel.free ∧
          x.line.channel.waiting = []) ∧
        (p.ended = true → p.verdict = some .finished) ∧
        (p.ended = false → p.verdict = none ∧
          d.stream.signals.buffered = min n (clampSlots capacity) ∧ .sent .completion ∉ d.notes ∧
          ∀ deeds t q, follow act d deeds = some t → t.stream.future = some q →
            (clampSlots capacity < n ∧ t.stream.received = 0 ∧ t.stream.signals.listening = true ∨
              n ≤ clampSlots capacity ∧ t.stream.collected = 0 ∧
                t.stream.users.channel.listening = true ∧
                ∀ k, .other (.user (.cancel k)) ∉ deeds) →
            q = p ∧ t.notes = d.notes ∧
              (t.stream.received = 0 → t.stream.signals.listening = true →
                t.stream.signals.buffered = min n (clampSlots capacity)))) ∧
    ∀ {n : Nat} {moves : List Team.Interference} {s : Team} (e : Effect), n ≤ slotMax →
      follow Team.interfere (.start (.ofIterations n) (Team.orderlyActs (.ofIterations n))) moves
        = some s →
      let t := (s.producer e).run (s.producerState e).outlets
      (s.producer e).place = none ∧ t.producer.ended = true ∧
        ((∀ i, (s.inlets.channel (Team.branch e i)).listening = true) →
          t.producer.verdict = some .finished) := by
  refine ⟨fun {requested before x} e n capacity history listening => ?_,
    fun e fits run => Team.never_waits fits run e⟩
  have exchange : Exchange.Sound .completions requested x :=
    follow_invariant (fun _ _ _ act h => h.act act) history (.start _ _)
  have tidy := exchange.tidy
  obtain ⟨d, p, polled, hp, fresh, rests⟩ :=
    first_poll e n capacity tidy.sound listening tidy.inLine
  refine ⟨d, p, polled, hp, ?_⟩
  rcases Producer.State.step_eq_none_iff.mp (rests p hp) with ended | ⟨i, blocked⟩
  · have ended : p.ended = true := ended
    obtain ⟨v, judged, -⟩ := Producer.of_ended ended
    obtain ⟨rfl, fits, free⟩ := fresh.at_end hp judged
    have nobody : x.line.channel.waiting = [] := by
      by_contra somebody
      have := tidy.slots.full_of_waiting somebody
      omega
    refine ⟨iff_of_true ended ⟨fits, free, nobody⟩, fun _ => judged, fun going => ?_⟩
    cases ended.symm.trans going
  · obtain ⟨channel, going, count, none_sent⟩ := fresh.waits hp blocked
    have not_ended : p.ended = false := by simp [Producer.ended, going]
    have not_free : ¬ (n ≤ clampSlots capacity ∧ 0 < x.line.channel.free ∧
        x.line.channel.waiting = []) := by omega
    refine ⟨iff_of_false (by simp [not_ended]) not_free, fun ended => ?_, fun _ => ⟨going, ?_,
      none_sent, fun deeds t q later hq unfreed => ?_⟩⟩
    · cases ended.symm.trans not_ended
    · rw [← count]
      exact fresh.buffered hp
    · obtain ⟨same, notes⟩ := fresh.stays hp blocked later hq unfreed
      refine ⟨same, notes, fun received hears => ?_⟩
      have sound : t.Sound e n capacity x.line :=
        follow_invariant (fun _ _ _ act h => h.act act) later fresh.sound
      rw [sound.buffered received hears, notes, count]

/-- The only slot for completions is taken, somebody waits for it already, and a third user who comes
later does not help. A team with buffers for its three iterations does not wait when the receiver of
its increments goes. -/
theorem waits_exactly_of_crowded :
    let before : List Exchange.Act := [.client (.begin "first"), .client (.poll 0),
      .client (.begin "second"), .client (.poll 0)]
    let deeds : List Deed := [.poll, .other (.user (.poll 0)), .other (.user (.begin "third")),
      .other (.user (.poll 1)), .other .receive, .poll]
    let moves : List Team.Interference := [.party (.producer .increment),
      .party (.producer .increment), .take (.signals .first), .hangUp (.signals .first)]
    (∃ x d p t, follow (Exchange.act .completions) (Exchange.start 1) before = some x ∧
      (start .increment 2 2 x.line).act .poll = some d ∧ follow act d deeds = some t ∧
      p.verdict = none ∧ d.stream.signals.buffered = 2 ∧ t.stream.signals.buffered = 1 ∧
      t.stream.future = some p ∧ t.notes = d.notes) ∧
    ∃ s, follow Team.interfere (.start (.ofIterations 3) (Team.orderlyActs (.ofIterations 3))) moves
        = some s ∧
      ((s.producer .increment).run (s.producerState .increment).outlets).producer.ended = true := by
  intro before deeds moves
  refine ⟨?_, ?_⟩
  · let crowded : Line :=
      { channel := { capacity := 1, buffered := 1, waiting := [0], senders := 2, nextTicket := 1 }
        pending := [⟨"second", some 0⟩], acknowledged := 1 }
    have history : (follow (Exchange.act .completions) (Exchange.start 1) before).map (·.line)
        = some crowded := by decide +kernel
    obtain ⟨x, history, line⟩ := Option.map_eq_some_iff.mp history
    have listening : x.line.channel.listening = true := by rw [line]
    obtain ⟨d, p, polled, hp, ends, -, waits⟩ := waits_exactly.1 .increment 2 2 history listening
    have not_ended : p.ended = false := by
      refine Bool.eq_false_iff.mpr fun ended => ?_
      have free := (ends.mp ended).2.1
      rw [line] at free
      exact absurd free (by decide)
    have seen : (follow act (start .increment 2 2 crowded) (.poll :: deeds)).map
        (fun t => (t.stream.future.isSome, t.stream.collected, t.stream.users.channel.listening,
          t.stream.signals.buffered)) = some (true, 0, true, 1) := by decide +kernel
    rw [← line] at seen
    obtain ⟨t, run, same⟩ := Option.map_eq_some_iff.mp seen
    rw [follow_cons, polled] at run
    obtain ⟨there, collected, hears, buffered⟩ : t.stream.future.isSome = true ∧
        t.stream.collected = 0 ∧ t.stream.users.channel.listening = true ∧
        t.stream.signals.buffered = 1 := by simpa using same
    obtain ⟨q, hq⟩ := Option.isSome_iff_exists.mp there
    obtain ⟨going, first_buffered, -, later⟩ := waits not_ended
    have kept : ∀ k, Deed.other (.user (.cancel k)) ∉ deeds := by simp [deeds]
    obtain ⟨rfl, notes, -⟩ := later deeds t q run hq (.inr ⟨by decide, collected, hears, kept⟩)
    exact ⟨x, d, q, t, history, polled, run, going, first_buffered, buffered, hq, notes⟩
  · have seen : (follow Team.interfere
        (.start (.ofIterations 3) (Team.orderlyActs (.ofIterations 3))) moves).isSome = true := by
      decide +kernel
    obtain ⟨s, run⟩ := Option.isSome_iff_exists.mp seen
    exact ⟨s, run, (waits_exactly.2 .increment (by decide) run).2.1⟩

end TracedProducer

end SharedCounter
