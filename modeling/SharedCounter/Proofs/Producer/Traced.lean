import SharedCounter.Proofs.Producer.Stream
import SharedCounter.Proofs.Simulation
import SharedCounter.Proofs.Team.Chronicle

/-!
# The verdict of a producer tells what it has delivered

* `Note` : what is seen of a producer, an event or an item; `Act.notes` : what is seen of acts to
  which nothing happens;
* `Note.story e n` : all that is seen of the producer of `e` that finishes;
* `Note.Delivery e n o v notes` : a producer with the verdict `v` has left `notes`, and a receiver of
  the channels `o` is gone if it has failed;
* `Producer.Course` : the notes of a producer go on as its acts do, until its verdict says how far
  they go. Every step keeps this (`Course.step`), whatever the receivers do;
* `TracedProducer`, `TracedProducer.act` : a stream with the notes of its producer, which is polled,
  or does a part of a poll while others act;
* `TracedProducer.poll_eq_run` : a poll is a run of the producer;
* `TracedProducer.Sound` : the course of the producer, and the sending ends that it holds. Every act
  keeps it;
* `TracedProducer.tells_delivery` : what a verdict tells at the end of any schedule.
-/

namespace SharedCounter

/-! ## Notes -/

/-- What is seen of a producer. -/
inductive Note where
  | published (e : Event)
  | sent (i : Item)
  deriving DecidableEq, Repr

namespace Act

/-- What is seen of acts to which nothing happens. -/
def notes (name : String) : List Act → List Note
  | [] => []
  | .announce kind count :: rest =>
    .published { kind, producer := some name, count } :: notes name rest
  | .send n :: rest => List.replicate n (.sent .signal) ++ notes name rest
  | .complete :: rest => .sent .completion :: notes name rest
  | _ :: rest => notes name rest

end Act

namespace Note

def event? : Note → Option Event
  | published e => some e
  | sent _ => none

/-- All that is seen of a producer that finishes. -/
def story (e : Effect) (n : Nat) : List Note :=
  .published (.starting e n) :: (List.replicate n (.sent .signal) ++
    [.sent .completion, .published (.finished e n)])

/-- What a verdict tells. -/
inductive Delivery (e : Effect) (n : Nat) (o : Outlets) : Verdict → List Note → Prop where
  | finished : Delivery e n o .finished (story e n)
  | signalLost {k : Nat} (less : k < n) (deaf : o.signals.listening = false) :
      Delivery e n o (.failed ⟨e.name, "signal"⟩)
        (.published (.starting e n) :: List.replicate k (.sent .signal))
  | completionLost (deaf : o.completions.listening = false) :
      Delivery e n o (.failed ⟨e.name, "completion"⟩)
        (.published (.starting e n) :: List.replicate n (.sent .signal))

variable {e : Effect} {n : Nat} {o o' : Outlets} {v : Verdict} {notes more : List Note}

/-- A receiver that is gone does not come back. -/
theorem Delivery.outlets (h : Delivery e n o v notes)
    (signals : o.signals.listening = false → o'.signals.listening = false)
    (completions : o.completions.listening = false → o'.completions.listening = false) :
    Delivery e n o' v notes := by
  cases h with
  | finished => exact .finished
  | signalLost less deaf => exact .signalLost less (signals deaf)
  | completionLost deaf => exact .completionLost (completions deaf)

theorem Delivery.prefix_story (h : Delivery e n o v notes) : notes <+: story e n := by
  cases h with
  | finished => exact List.prefix_refl _
  | @signalLost k less =>
    refine (List.prefix_cons_inj _).mpr (List.IsPrefix.trans ?_ (List.prefix_append _ _))
    exact List.prefix_replicate_iff.mpr ⟨by simpa using Nat.le_of_lt less, by simp⟩
  | completionLost => exact (List.prefix_cons_inj _).mpr (List.prefix_append _ _)

/-- The start is told once, before all else. -/
theorem start_of_prefix (h : notes <+: story e n) (some_left : notes ≠ []) :
    ∃ rest, notes = .published (.starting e n) :: rest ∧ .published (.starting e n) ∉ rest := by
  cases notes with
  | nil => exact absurd rfl some_left
  | cons first rest =>
    obtain ⟨rfl, later⟩ := List.cons_prefix_cons.mp h
    refine ⟨rest, rfl, fun again => ?_⟩
    have mem := later.subset again
    simp [Event.starting, Event.finished] at mem

/-- Before a signal stand the start and fewer than all signals. -/
theorem eq_of_before_signal (h : notes ++ .sent .signal :: more = story e n) :
    ∃ k < n, notes = .published (.starting e n) :: List.replicate k (.sent .signal) := by
  cases notes with
  | nil => cases (List.cons.inj h).1
  | cons first rest =>
    obtain ⟨rfl, items⟩ := List.cons.inj h
    rcases List.append_eq_append_iff.mp items with ⟨left, signals, tail⟩ | ⟨later, -, tail⟩
    · have some_left : left ≠ [] := by
        rintro rfl
        cases tail
      obtain ⟨lengths, same, -⟩ := List.append_eq_replicate_iff.mp signals.symm
      have := List.length_pos_iff.mpr some_left
      exact ⟨rest.length, by omega, congrArg _ same⟩
    · have mem : Note.sent .signal ∈ [Note.sent .completion, .published (.finished e n)] := by
        rw [tail]
        simp
      simp at mem

/-- Before the completion stand the start and all signals. -/
theorem eq_of_before_completion (h : notes ++ .sent .completion :: more = story e n) :
    notes = .published (.starting e n) :: List.replicate n (.sent .signal) := by
  cases notes with
  | nil => cases (List.cons.inj h).1
  | cons first rest =>
    obtain ⟨rfl, items⟩ := List.cons.inj h
    rcases List.append_eq_append_iff.mp items with ⟨left, signals, tail⟩ | ⟨later, same, tail⟩
    · cases left with
      | nil => rw [signals, List.append_nil]
      | cons note left =>
        obtain ⟨rfl, -⟩ := List.cons.inj tail
        have mem : Note.sent .completion ∈ List.replicate n (Note.sent .signal) := by
          rw [signals]
          simp
        simp at mem
    · cases later with
      | nil => rw [same, List.append_nil]
      | cons note later =>
        obtain ⟨-, tail⟩ := List.cons.inj tail
        have mem : Note.sent .completion ∈ [Note.published (.finished e n)] := by
          rw [tail]
          simp
        simp at mem

end Note

namespace Producer

variable {e : Effect} {n : Nat} {s t : State} {notes : List Note} {log : List Item}

/-- What is seen of a step from `s` to `t`. -/
def State.told (s t : State) : List Note :=
  t.events.map .published ++ s.delivers?.toList.map .sent

theorem State.events_told (s t : State) : (s.told t).filterMap Note.event? = t.events := by
  unfold told
  rw [List.filterMap_append, List.filterMap_map, List.filterMap_map]
  show t.events.filterMap some ++ s.delivers?.toList.filterMap (fun _ => none) = _
  simp

theorem State.count_told (s t : State) (i : Item) :
    (s.told t).count (.sent i) = s.delivers?.toList.count i := by
  have none_sent : (t.events.map Note.published).count (.sent i) = 0 :=
    List.count_eq_zero.mpr (by simp)
  unfold told
  rw [List.count_append, none_sent, Nat.zero_add]
  cases s.delivers? with
  | none => rfl
  | some j => simp [List.count_singleton]

/-- The notes of a producer go on as its acts do, until its verdict says how far they go. -/
structure Course (e : Effect) (n : Nat) (p : Producer) (o : Outlets) (notes : List Note) :
    Prop where
  name : p.name = e.name
  going : p.verdict = none → notes ++ Act.notes p.name p.acts = Note.story e n
  judged : ∀ v, p.verdict = some v → Note.Delivery e n o v notes

theorem Course.orderly (e : Effect) (n : Nat) (o : Outlets) :
    (Producer.orderly e.name n).Course e n o [] :=
  ⟨rfl, fun _ => rfl, by rintro v ⟨⟩⟩

theorem Course.wait {p : Producer} {o o' : Outlets} (h : p.Course e n o notes)
    (going : p.verdict = none) (place : Option Ticket) : { p with place }.Course e n o' notes :=
  ⟨h.name, h.going, fun _ judged => nomatch going.symm.trans judged⟩

theorem Course.next {p : Producer} {o o' : Outlets} {acts : List Act} {more : List Note}
    (h : p.Course e n o notes) (going : p.verdict = none)
    (rest : more ++ Act.notes p.name acts = Act.notes p.name p.acts) :
    (p.next acts).Course e n o' (notes ++ more) := by
  refine ⟨h.name, fun _ => ?_, fun _ judged => nomatch going.symm.trans judged⟩
  show notes ++ more ++ Act.notes p.name acts = _
  rw [List.append_assoc, rest, h.going going]

theorem Course.finish {p : Producer} {o : Outlets} {v : Verdict} (name : p.name = e.name)
    (delivery : Note.Delivery e n o v notes) : (p.finish v).Course e n o notes :=
  ⟨name, by rintro ⟨⟩, by rintro _ ⟨⟩; exact delivery⟩

theorem Course.step (h : s.producer.Course e n s.outlets notes) (inPlan : s.producer.InPlan n log)
    (fresh : s.events = []) (change : State.Change s t) :
    t.producer.Course e n t.outlets (notes ++ s.told t) := by
  have quiet : s.delivers? = none → t.events = [] → t.producer.Course e n t.outlets notes →
      t.producer.Course e n t.outlets (notes ++ s.told t) := by
    intro nothing silent kept
    rw [State.told, nothing, silent]
    show t.producer.Course e n t.outlets (notes ++ [])
    rw [List.append_nil]
    exact kept
  have skips : ∀ {act rest}, s.producer.verdict = none → s.producer.acts = act :: rest →
      Act.notes s.producer.name (act :: rest) = Act.notes s.producer.name rest →
      (s.producer.next rest).Course e n s.outlets notes := by
    intro act rest going acts same
    rw [← List.append_nil notes]
    exact h.next going (by rw [acts, same, List.nil_append])
  cases change with
  | announce going acts =>
    rw [State.told, State.delivers?_of_none (by rw [sending?, going, acts]), fresh]
    exact h.next going (by rw [acts]; rfl)
  | skip going acts idle =>
    obtain ⟨signals, completion⟩ := inPlan.holds going
    refine quiet (State.delivers?_of_none (idle.sending? acts)) fresh (skips going acts ?_)
    cases idle with
    | nothing => rfl
    | signals _ gone | dropSignals gone => simp [gone] at signals
    | completion gone | dropCompletion gone => simp [gone] at completion
  | signal going acts holds poll =>
    rw [State.told, State.delivers?_of_sent (sending?_signal going acts holds) poll, fresh]
    exact h.next going (by rw [acts]; rfl)
  | completion going acts holds poll =>
    rw [State.told, State.delivers?_of_sent (sending?_completion going acts holds) poll, fresh]
    exact h.next going (by rw [acts]; rfl)
  | signalWaits going acts holds poll =>
    have sending := sending?_signal going acts holds
    exact quiet (State.delivers?_of_not_sent sending poll (by simp)) fresh (h.wait going _)
  | completionWaits going acts holds poll =>
    have sending := sending?_completion going acts holds
    exact quiet (State.delivers?_of_not_sent sending poll (by simp)) fresh (h.wait going _)
  | @signalRefused k rest c going acts holds poll =>
    obtain ⟨deaf, rfl⟩ := Channel.eq_of_refused poll
    have sending := sending?_signal going acts holds
    refine quiet (State.delivers?_of_not_sent sending poll (by simp)) fresh ?_
    have story := h.going going
    rw [acts] at story
    obtain ⟨sent, less, rfl⟩ := Note.eq_of_before_signal story
    rw [h.name]
    exact .finish h.name (.signalLost less deaf)
  | completionRefused going acts holds poll =>
    obtain ⟨deaf, rfl⟩ := Channel.eq_of_refused poll
    have sending := sending?_completion going acts holds
    refine quiet (State.delivers?_of_not_sent sending poll (by simp)) fresh ?_
    have story := h.going going
    rw [acts] at story
    rw [Note.eq_of_before_completion story, h.name]
    exact .finish h.name (.completionLost deaf)
  | dropSignals going acts | dropCompletion going acts | fail going acts | crash going acts
  | produce going acts =>
    have plain := inPlan.plain going
    rw [acts] at plain
    exact absurd (plain _ List.mem_cons_self) (by simp [Act.plain])
  | finish going acts =>
    refine quiet (State.delivers?_of_none (by rw [sending?, going, acts])) fresh ?_
    have story := h.going going
    rw [acts, Act.notes, List.append_nil] at story
    rw [story]
    exact .finish h.name .finished
  | letGoSignals judged =>
    refine quiet (State.delivers?_of_none (sending?_of_judged judged)) fresh ⟨h.name, ?_, ?_⟩
    · intro going
      cases judged.symm.trans going
    · exact fun v hv => (h.judged v hv).outlets id id
  | letGoCompletion judged =>
    refine quiet (State.delivers?_of_none (sending?_of_judged judged)) fresh ⟨h.name, ?_, ?_⟩
    · intro going
      cases judged.symm.trans going
    · exact fun v hv => (h.judged v hv).outlets id id

theorem Course.outlets {p : Producer} {o o' : Outlets} (h : p.Course e n o notes)
    (signals : o.signals.listening = false → o'.signals.listening = false)
    (completions : o.completions.listening = false → o'.completions.listening = false) :
    p.Course e n o' notes :=
  ⟨h.name, h.going, fun v judged => (h.judged v judged).outlets signals completions⟩

theorem Course.prefix_story {p : Producer} {o : Outlets} (h : p.Course e n o notes) :
    notes <+: Note.story e n := by
  cases hv : p.verdict with
  | none => exact ⟨_, h.going hv⟩
  | some v => exact (h.judged v hv).prefix_story

theorem senders_abandon (p : Producer) (o : Outlets) (i : Item) :
    (i.channel (p.abandon o)).senders = (i.channel o).senders - (p.holds i).toNat := by
  have letGo : ∀ given : Outlets, (i.channel given).senders = (i.channel o).senders →
      (i.channel (let o := if p.holdsSignals then { given with signals := given.signals.dropSender }
          else given
        if p.holdsCompletion then { o with completions := o.completions.dropSender } else o)).senders
        = (i.channel o).senders - (p.holds i).toNat := by
    intro given same
    rw [← same]
    cases i with
    | signal => cases hs : p.holdsSignals <;> cases p.holdsCompletion <;> simp [holds, hs] <;> rfl
    | completion =>
      cases p.holdsSignals <;> cases hc : p.holdsCompletion <;> simp [holds, hc] <;> rfl
  refine letGo _ ?_
  split
  · cases i with
    | signal => rfl
    | completion => exact (Channel.Quiet.withdraw _ _).senders
  · cases i with
    | signal => exact (Channel.Quiet.withdraw _ _).senders
    | completion => rfl
  · rfl

end Producer

/-! ## Lines that lend ends -/

namespace Line

variable {b : Branch} {l m : Line} {a : Act}

/-- The ends that somebody else holds do not hinder an act. -/
theorem act_lend (h : l.act b a = some m) (k : Nat) :
    { l with ends := l.ends + k }.act b a = some { m with ends := m.ends + k } := by
  cases a with
  | begin sender =>
    obtain ⟨some_end, ⟨⟩⟩ := Option.ite_none_right_eq_some.mp h
    exact if_pos (by dsimp only; omega)
  | poll i =>
    obtain ⟨f, hf, rfl⟩ := Option.map_eq_some_iff.mp h
    refine Option.map_eq_some_iff.mpr ⟨f, hf, ?_⟩
    unfold settle
    dsimp only
    split <;> rfl
  | cancel i =>
    obtain ⟨f, hf, rfl⟩ := Option.map_eq_some_iff.mp h
    exact Option.map_eq_some_iff.mpr ⟨f, hf, rfl⟩
  | clone =>
    obtain ⟨some_end, ⟨⟩⟩ := Option.ite_none_right_eq_some.mp h
    show (if 0 < l.ends + k then _ else _) = _
    rw [if_pos (by omega), Nat.add_right_comm]
  | drop =>
    obtain ⟨some_end, ⟨⟩⟩ := Option.ite_none_right_eq_some.mp h
    show (if 0 < l.ends + k then _ else _) = _
    rw [if_pos (by omega), Nat.sub_add_comm some_end]

/-- The clients of a line account for the ends that they hold, beside those that are lent. -/
theorem senders_of_act {k : Nat} (senders : l.channel.senders = l.ends + l.pending.length + k)
    (h : l.act b a = some m) : m.channel.senders = m.ends + m.pending.length + k := by
  have lent : { l with ends := l.ends + k }.Sound := by
    show l.channel.senders = l.ends + k + l.pending.length
    omega
  have kept : m.channel.senders = m.ends + k + m.pending.length := lent.act (act_lend h k)
  omega

end Line

/-! ## Diaries -/

namespace Stream

/-- What is seen of a deed. -/
def tells (s : Stream) : Deed → List Note
  | .step => s.future.elim [] fun p => (s.state p).step.elim [] (s.state p).told
  | _ => []

/-- The ends for an item that the producer holds. -/
def held (s : Stream) (i : Item) : Nat := s.future.elim 0 fun p => (p.holds i).toNat

end Stream

/-- A stream, and what has been seen of its producer. -/
structure TracedProducer where
  stream : Stream
  notes : List Note := []
  deriving DecidableEq, Repr

namespace TracedProducer

/-- What can happen next. -/
inductive Deed where
  /-- The producer is polled, and goes on as long as it does not have to wait. -/
  | poll
  /-- Somebody else acts, or the producer does a part of a poll. -/
  | other (deed : Stream.Deed)
  deriving DecidableEq, Repr

/-- The producer of an effect is given a fresh signal channel and an end of a completion channel. -/
def start (e : Effect) (n capacity : Nat) (given : Line) : TracedProducer where
  stream := .start e.name n capacity given

def move (d : TracedProducer) (deed : Stream.Deed) : Option TracedProducer :=
  (d.stream.act deed).map fun stream => { stream, notes := d.notes ++ d.stream.tells deed }

/-- One deed, undefined where the party that it needs waits or is gone. A producer that waits is
polled in vain. -/
def act (d : TracedProducer) : Deed → Option TracedProducer
  | .poll => d.stream.future.map fun p => advance (·.move .step) p.effort d
  | .other deed => d.move deed

variable {e : Effect} {n capacity : Nat} {given : Line} {d d' : TracedProducer} {p : Producer}

theorem of_step (h : d.move .step = some d') :
    ∃ p t, d.stream.future = some p ∧ (d.stream.state p).step = some t ∧
      d'.stream = { d.stream.setOutlets t.outlets with
        future := some t.producer
        delivered := d.stream.delivered ++ (d.stream.state p).delivers?.toList } ∧
      d'.notes = d.notes ++ (d.stream.state p).told t := by
  obtain ⟨stream, acted, rfl⟩ := Option.map_eq_some_iff.mp h
  cases Stream.Change.of_act acted with
  | @step p t hp step =>
    refine ⟨p, t, hp, step, rfl, ?_⟩
    show d.notes ++ d.stream.tells .step = _
    rw [Stream.tells, hp]
    show d.notes ++ (d.stream.state p).step.elim [] _ = _
    rw [step]
    rfl
  | receive way | nothing way => simp at way

/-! ## Polls -/

/-- What is seen of the producer is as it is in `s`, with the events that it has published after
`before`. -/
structure Shows (before : List Event) (d : TracedProducer) (s : Producer.State) : Prop where
  future : d.stream.future = some s.producer
  outlets : (d.stream.state s.producer).outlets = s.outlets
  events : d.notes.filterMap Note.event? = before ++ s.events

theorem Shows.step_eq {before : List Event} {s : Producer.State} (h : d.Shows before s) :
    s.step = (d.stream.state s.producer).step.map
      fun t => { t with events := s.events ++ t.events } := by
  have same : d.stream.state s.producer = ⟨s.producer, s.outlets, []⟩ := by
    rw [← h.outlets]
    rfl
  rw [same]
  exact Producer.step_events s.producer s.outlets s.events

theorem Shows.step {before : List Event} {s : Producer.State} (h : d.Shows before s) :
    Option.Rel (Shows before) (d.move .step) s.step := by
  cases hd : d.move .step with
  | none =>
    have stuck : (d.stream.state s.producer).step = none := by
      simpa [move, Stream.act, h.future] using hd
    rw [h.step_eq, stuck]
    exact .none
  | some d' =>
    obtain ⟨p, t, hp, stepped, stream, notes⟩ := of_step hd
    obtain rfl := Option.some.inj (h.future.symm.trans hp)
    rw [h.step_eq, stepped]
    refine .some ⟨by rw [stream], by rw [stream]; rfl, ?_⟩
    rw [notes, List.filterMap_append, h.events, Producer.State.events_told, List.append_assoc]

/-- A poll is a run of the producer, after which it waits or has ended. -/
theorem poll_eq_run (hp : d.stream.future = some p) :
    ∃ d', d.act .poll = some d' ∧
      d'.Shows (d.notes.filterMap Note.event?) (p.run (d.stream.state p).outlets) := by
  refine ⟨_, congrArg (Option.map _) hp, ?_⟩
  exact advance_related (fun _ _ h => h.step) _ ⟨hp, rfl, (List.append_nil _).symm⟩

/-- The producer, if it is still there, waits or has ended. -/
def Rests (d : TracedProducer) : Prop :=
  ∀ p, d.stream.future = some p → (d.stream.state p).step = none

theorem rests_of_poll (h : d.act .poll = some d') : d'.Rests := by
  obtain ⟨p, hp, -⟩ := Option.map_eq_some_iff.mp h
  obtain ⟨_, polled, shows⟩ := poll_eq_run hp
  obtain rfl := Option.some.inj (polled.symm.trans h)
  intro q hq
  obtain rfl := Option.some.inj (shows.future.symm.trans hq)
  have stuck := Producer.step_run p (d.stream.state p).outlets
  rw [shows.step_eq] at stuck
  exact Option.map_eq_none_iff.mp stuck

/-! ## What is kept -/

/-- The producer is in its course, its notes are of what the stream has delivered, and of the sending
ends nobody else holds those that it has. -/
structure Sound (e : Effect) (n capacity : Nat) (given : Line) (d : TracedProducer) : Prop where
  stream : d.stream.Sound n capacity given
  items : ∀ i, d.notes.count (.sent i) = d.stream.delivered.count i
  story : d.notes <+: Note.story e n
  course : ∀ p, d.stream.future = some p → p.Course e n (d.stream.state p).outlets d.notes
  signals : d.stream.signals.senders = d.stream.held .signal
  completions : d.stream.users.channel.senders
    = d.stream.users.ends + d.stream.users.pending.length + d.stream.held .completion

theorem Sound.start (e : Effect) (n capacity : Nat) (users : given.Sound) :
    (start e n capacity given).Sound e n capacity given where
  stream := .start e.name n capacity given
  items _ := rfl
  story := List.nil_prefix
  course p hp := by
    cases hp
    exact .orderly e n _
  signals := rfl
  completions := congrArg (· + 1) users

theorem Sound.beside {t : Stream} (h : d.Sound e n capacity given)
    (stream : t.Sound n capacity given) (delivered : t.delivered = d.stream.delivered)
    (future : t.future = d.stream.future) (signals : t.signals.senders = d.stream.signals.senders)
    (completions : t.users.channel.senders
      = t.users.ends + t.users.pending.length + d.stream.held .completion)
    (hears : d.stream.signals.listening = false → t.signals.listening = false)
    (collects : d.stream.users.channel.listening = false → t.users.channel.listening = false) :
    Sound e n capacity given ⟨t, d.notes⟩ where
  stream := stream
  items := by
    rw [delivered]
    exact h.items
  story := h.story
  course p hp := (h.course p (future.symm.trans hp)).outlets hears collects
  signals := by
    rw [Stream.held, future]
    exact signals.trans h.signals
  completions := by
    rw [Stream.held, future]
    exact completions

theorem Sound.step (h : d.Sound e n capacity given) (move : d.move .step = some d') :
    d'.Sound e n capacity given := by
  obtain ⟨p, t, hp, step, stream, notes⟩ := of_step move
  have sound : d'.stream.Sound n capacity given := by
    obtain ⟨_, acted, rfl⟩ := Option.map_eq_some_iff.mp move
    exact h.stream.act acted
  have change := Producer.State.Change.of_step step
  have course := (h.course p hp).step (h.stream.future p hp) rfl change
  rw [← notes] at course
  have held : ∀ i, d.stream.held i = (p.holds i).toNat := by
    intro i
    rw [Stream.held, hp]
    rfl
  have kept : ∀ i : Item, (i.channel t.outlets).senders + (p.holds i).toNat
      = (i.channel (d.stream.state p).outlets).senders + (t.producer.holds i).toNat := by
    intro i
    rcases change.ends i with ⟨senders, same⟩ | ⟨senders, held_before, gone⟩
    · rw [senders, show t.producer.holds i = p.holds i from same]
    · have some_end : 0 < (i.channel (d.stream.state p).outlets).senders := by
        have one : (p.holds i).toNat = 1 := congrArg Bool.toNat held_before
        cases i with
        | signal =>
          have := h.signals.trans (held .signal)
          show 0 < d.stream.signals.senders
          omega
        | completion =>
          have := h.completions
          rw [held] at this
          show 0 < d.stream.users.channel.senders
          omega
      rw [senders, gone, show p.holds i = true from held_before]
      simp only [Bool.toNat_true, Bool.toNat_false]
      omega
  refine ⟨sound, fun i => ?_, course.prefix_story, fun q hq => ?_, ?_, ?_⟩
  · rw [stream, notes, List.count_append, Producer.State.count_told, h.items]
    exact List.count_append.symm
  · rw [stream] at hq ⊢
    obtain rfl := Option.some.inj hq
    exact course
  · have signals := kept .signal
    rw [← held, ← h.signals] at signals
    rw [stream]
    exact Nat.add_left_cancel ((Nat.add_comm _ _).trans signals)
  · have completions := kept .completion
    have before := h.completions
    rw [held] at before
    rw [stream]
    show t.outlets.completions.senders = d.stream.users.ends + d.stream.users.pending.length
      + (t.producer.holds .completion).toNat
    have same : t.outlets.completions.senders + (p.holds .completion).toNat
        = d.stream.users.channel.senders + (t.producer.holds .completion).toNat := completions
    omega

/-- What is not a step of the producer is not seen. -/
theorem Sound.unseen {deed : Stream.Deed} {t : Stream} (h : d.Sound e n capacity given)
    (other : deed ≠ .step) (acted : d.stream.act deed = some t) :
    Sound e n capacity given ⟨t, d.notes⟩ := by
  have stream := h.stream.act acted
  cases Stream.Change.of_act acted with
  | step => exact absurd rfl other
  | @takePlace p i hp _ sending =>
    obtain ⟨producer, -⟩ := Producer.State.channel_takePlace (s := d.stream.state p) sending
    have senders := Producer.State.senders_takePlace (s := d.stream.state p) sending
    have held : ∀ i, (d.stream.state p).takePlace.producer.holds i = p.holds i := by
      intro i
      rw [producer]
      cases i <;> rfl
    have signals := h.signals
    have completions := h.completions
    rw [Stream.held, hp] at signals completions
    refine ⟨stream, h.items, h.story, fun q hq => ?_, ?_, ?_⟩
    · obtain rfl := Option.some.inj hq
      rw [producer]
      exact (h.course p hp).wait (Producer.of_sending? sending).1 _
    · show _ = ((d.stream.state p).takePlace.producer.holds .signal).toNat
      rw [held]
      exact (senders .signal).trans signals
    · show _ = _ + ((d.stream.state p).takePlace.producer.holds .completion).toNat
      rw [held]
      exact (senders .completion).trans completions
  | @cancel p hp =>
    have signals := h.signals
    have completions := h.completions
    rw [Stream.held, hp] at signals completions
    refine ⟨stream, h.items, h.story, by rintro q ⟨⟩, ?_, ?_⟩
    · show (Item.channel _ .signal).senders = 0
      rw [Producer.senders_abandon]
      exact Nat.sub_eq_zero_of_le (Nat.le_of_eq signals)
    · show (Item.channel _ .completion).senders = _ + 0
      rw [Producer.senders_abandon]
      exact Nat.sub_eq_of_eq_add completions
  | receive _ taken =>
    exact h.beside stream rfl rfl (Channel.senders_of_take? taken) h.completions
      (Channel.listening_of_take? taken).trans id
  | nothing => exact h
  | hangUp => exact h.beside stream rfl rfl rfl h.completions (fun _ => rfl) id
  | user hu =>
    exact h.beside stream rfl rfl rfl (Line.senders_of_act h.completions hu) id
      (Line.keeps_of_act hu).listening.trans
  | collect taken =>
    exact h.beside stream rfl rfl rfl ((Channel.senders_of_take? taken).trans h.completions) id
      (Channel.listening_of_take? taken).trans
  | hangUpCompletions => exact h.beside stream rfl rfl rfl h.completions id fun _ => rfl

theorem Sound.move {deed : Stream.Deed} (h : d.Sound e n capacity given)
    (move : d.move deed = some d') : d'.Sound e n capacity given := by
  by_cases own : deed = .step
  · rw [own] at move
    exact h.step move
  · obtain ⟨t, acted, rfl⟩ := Option.map_eq_some_iff.mp move
    have silent : d.stream.tells deed = [] := by
      cases deed with
      | step => exact absurd rfl own
      | _ => rfl
    rw [silent, List.append_nil]
    exact h.unseen own acted

theorem Sound.act {deed : Deed} (h : d.Sound e n capacity given) (act : d.act deed = some d') :
    d'.Sound e n capacity given := by
  cases deed with
  | poll =>
    obtain ⟨p, -, rfl⟩ := Option.map_eq_some_iff.mp act
    exact advance_invariant (fun _ _ step h => h.step step) _ h
  | other deed => exact h.move act

/-! ## What is seen first -/

theorem prefix_of_act {deed : Deed} (act : d.act deed = some d') : d.notes <+: d'.notes := by
  have moves : ∀ {d d' : TracedProducer} {deed}, d.move deed = some d' → d.notes <+: d'.notes := by
    rintro d d' deed move
    obtain ⟨t, -, rfl⟩ := Option.map_eq_some_iff.mp move
    exact List.prefix_append _ _
  cases deed with
  | poll =>
    obtain ⟨p, -, rfl⟩ := Option.map_eq_some_iff.mp act
    exact advance_invariant (P := fun u => d.notes <+: u.notes)
      (fun _ _ step h => h.trans (moves step)) _ (List.prefix_refl _)
  | other deed => exact moves act

/-- A producer that waits or has ended has begun. -/
theorem Sound.begun (h : d.Sound e n capacity given) (hp : d.stream.future = some p)
    (rests : d.Rests) : d.notes ≠ [] := by
  intro nothing
  have course := h.course p hp
  rw [nothing] at course
  have going : p.verdict = none := by
    cases hv : p.verdict with
    | none => rfl
    | some v => cases course.judged v hv
  have story : Act.notes p.name p.acts = Note.story e n := course.going going
  rcases Producer.State.step_eq_none_iff.mp (rests p hp) with ended | ⟨i, sending, -⟩
  · obtain ⟨v, judged, -⟩ := Producer.of_ended ended
    cases going.symm.trans judged
  · obtain ⟨-, next⟩ := Producer.of_sending? sending
    cases i with
    | signal =>
      obtain ⟨⟨k, rest, acts⟩, -⟩ := next
      rw [show p.acts = _ from acts] at story
      cases (List.cons.inj story).1
    | completion =>
      obtain ⟨⟨rest, acts⟩, -⟩ := next
      rw [show p.acts = _ from acts] at story
      cases (List.cons.inj story).1

theorem seen_of_poll {deeds : List Deed} (users : given.Sound)
    (h : follow act (start e n capacity given) deeds = some d) (polled : .poll ∈ deeds) :
    d.notes ≠ [] := by
  obtain ⟨before, after, rfl⟩ := List.append_of_mem polled
  rw [follow_append] at h
  obtain ⟨u, first, h⟩ := Option.bind_eq_some_iff.mp h
  rw [follow_cons] at h
  obtain ⟨v, poll, rest⟩ := Option.bind_eq_some_iff.mp h
  have sound : u.Sound e n capacity given :=
    follow_invariant (fun _ _ _ act h => h.act act) first (.start e n capacity users)
  obtain ⟨p, hp, -⟩ := Option.map_eq_some_iff.mp poll
  obtain ⟨w, same, shows⟩ := poll_eq_run hp
  obtain rfl : v = w := Option.some.inj (poll.symm.trans same)
  have begun := (sound.act poll).begun shows.future (rests_of_poll poll)
  have longer : v.notes <+: d.notes :=
    follow_invariant (P := fun w => v.notes <+: w.notes)
      (fun _ _ _ act h => h.trans (prefix_of_act act)) rest (List.prefix_refl _)
  exact fun nothing => begun (List.prefix_nil.mp (nothing ▸ longer))

/-- A producer tells once that it starts, before it sends anything. All that it sends is received,
buffered, or lost with a receiver. A verdict tells how much that was, and that a receiver is gone if
it was not all; and when the poll that comes to it returns, the sending ends are let go. -/
theorem tells_delivery {deeds : List Deed} (users : given.Sound)
    (h : follow act (start e n capacity given) deeds = some d) :
    (d.notes = [] ∨ ∃ rest, d.notes = .published (.starting e n) :: rest ∧
      .published (.starting e n) ∉ rest) ∧
    (.poll ∈ deeds → d.notes ≠ []) ∧
    d.notes.count (.sent .signal)
      = d.stream.received + d.stream.signals.buffered + d.stream.lost ∧
    given.channel.buffered + d.stream.users.acknowledged + d.notes.count (.sent .completion)
      = d.stream.collected + d.stream.users.channel.buffered + d.stream.lostCompletions
        + given.acknowledged ∧
    (∀ p v, d.stream.future = some p → p.verdict = some v →
      Note.Delivery e n (d.stream.state p).outlets v d.notes ∧
      ((d.stream.state p).step = none → d.stream.signals.senders = 0 ∧
        d.stream.users.channel.senders
          = d.stream.users.ends + d.stream.users.pending.length)) ∧
    ∀ p, d.stream.future = some p → ∃ d', d.act .poll = some d' ∧
      d'.stream.future = some (p.run (d.stream.state p).outlets).producer ∧ d'.Rests := by
  have sound : d.Sound e n capacity given :=
    follow_invariant (fun _ _ _ act h => h.act act) h (.start e n capacity users)
  refine ⟨?_, seen_of_poll users h, ?_, ?_, fun p v hp judged =>
    ⟨(sound.course p hp).judged v judged, fun stuck => ?_⟩, fun p hp => ?_⟩
  · by_cases nothing : d.notes = []
    · exact .inl nothing
    · exact .inr (Note.start_of_prefix sound.story nothing)
  · rw [sound.items]
    exact sound.stream.signals.symm
  · rw [sound.items]
    exact sound.stream.completions.symm
  · have signals := sound.signals
    have completions := sound.completions
    rw [Stream.held, hp] at signals completions
    rcases Producer.State.step_eq_none_iff.mp stuck with ended | ⟨i, sending, -⟩
    · obtain ⟨-, -, signals_gone, completion_gone⟩ := Producer.of_ended ended
      constructor
      · exact signals.trans (congrArg Bool.toNat signals_gone)
      · exact completions.trans (congrArg _ (congrArg Bool.toNat completion_gone))
    · cases (Producer.of_sending? sending).1.symm.trans judged
  · obtain ⟨d', polled, shows⟩ := poll_eq_run hp
    exact ⟨d', polled, shows.future, rests_of_poll polled⟩

/-- The second signal has a slot when its receiver goes. -/
theorem tells_delivery_of_vanished :
    let deeds : List Deed := [.poll, .other .receive, .other .hangUp, .poll]
    let lost : Verdict := .failed ⟨"incrementer", "signal"⟩
    ∃ d p, follow act (start .increment 2 0 { channel := .create 0 }) deeds = some d ∧
      d.stream.future = some p ∧ p.verdict = some lost ∧ d.stream.received = 1 ∧
      d.notes = [.published (.starting .increment 2), .sent .signal] ∧
      Note.Delivery .increment 2 (d.stream.state p).outlets lost d.notes ∧
      d.stream.signals.senders = 0 := by
  intro deeds lost
  have seen : (follow act (start .increment 2 0 { channel := .create 0 }) deeds).map
      (fun d => (d.stream.future.map fun p => (p.verdict, (d.stream.state p).step.isNone),
        d.stream.received, d.notes))
      = some (some (some lost, true), 1,
          [.published (.starting .increment 2), .sent .signal]) := by decide +kernel
  obtain ⟨d, h, same⟩ := Option.map_eq_some_iff.mp seen
  obtain ⟨future, received, notes⟩ : d.stream.future.map
        (fun p => (p.verdict, (d.stream.state p).step.isNone)) = some (some lost, true) ∧
      d.stream.received = 1 ∧ d.notes = [.published (.starting .increment 2), .sent .signal] := by
    simpa using same
  obtain ⟨p, hp, state⟩ := Option.map_eq_some_iff.mp future
  obtain ⟨judged, stuck⟩ : p.verdict = some lost ∧ (d.stream.state p).step = none := by
    simpa using state
  have users : Line.Sound { channel := .create 0 } := rfl
  obtain ⟨-, -, -, -, verdicts, -⟩ := tells_delivery users h
  obtain ⟨delivery, gone⟩ := verdicts p lost hp judged
  exact ⟨d, p, h, hp, judged, received, notes, delivery, (gone stuck).1⟩

end TracedProducer

end SharedCounter
