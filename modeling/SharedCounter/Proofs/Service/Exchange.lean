import Mathlib.Data.List.Perm.Basic
import SharedCounter.Proofs.Channel.Order
import SharedCounter.Proofs.Schedule
import SharedCounter.Proofs.Service.Line

/-!
# A channel keeps its slots and its items

* `Sending.holdsSlot`, `Line.reserved` : the sends of a line that have slots and have not used them
  yet;
* `Line.Tidy` : the queue of the channel is made of the places of the pending sends. Every act keeps
  it (`Tidy.act`), so that every reserved slot has its send (`Tidy.reserved_eq`);
* `Cargo` : a channel carries the signals of one producer, or completions;
* `Exchange`, `Exchange.act` : a line with its receiver, and all that can be done at either end;
* `Exchange.Sound` : slots, items, ends and replies are accounted for. Every act keeps it
  (`Sound.act`);
* `Exchange.conserves` : no schedule loses a slot or an item.
-/

namespace SharedCounter

namespace Sending

variable {b : Branch} {c d : Channel} {f : Sending} {t : Ticket}

/-- Whether a slot is reserved for the send. -/
def holdsSlot (c : Channel) (f : Sending) : Bool := f.place.any (· ∈ c.granted)

/-- Whatever happened to a send before, it waits after a poll at the place that it then has. -/
theorem poll_of_waiting (inLine : c.InLine) (h : c.pollSend f.place = (.waiting t, d)) :
    (f.poll b c).producer = { f with place := some t }.future b ∧
      b.outlet (f.poll b c).outlets = d := by
  cases hp : f.place with
  | some u =>
    rw [hp] at h
    obtain ⟨rfl, rfl⟩ := Channel.eq_of_waiting h
    obtain ⟨same, channel⟩ := poll_of_place (b := b) hp h
    refine ⟨?_, channel⟩
    rw [same, ← hp]
  | none =>
    rw [hp] at h
    obtain ⟨-, rfl, hd⟩ := Channel.of_new_waiting h
    have listening := Channel.listening_of_waiting h
    -- the new place is nobody else's, so that no slot can be reserved for it
    have not_granted : c.nextTicket ∉ d.granted := by
      rw [hd]
      intro granted
      exact Nat.lt_irrefl _ (inLine.fresh _ (List.mem_append_left _ granted))
    have still : d.listening = true := by
      rw [hd]
      exact listening
    exact poll_of_fresh hp h (Channel.pollSend_of_not_granted still not_granted)

end Sending

namespace Line

variable {b : Branch} {l m : Line} {a : Act} {i : Nat} {f : Sending} {t : Ticket} {d : Channel}

/-! ## What a poll does to a line -/

theorem settle_of_sent (b : Branch) (i : Nat) (h : l.channel.pollSend f.place = (.sent, d)) :
    l.settle b i f = { l with channel := d.dropSender, pending := l.pending.eraseIdx i,
                              acknowledged := l.acknowledged + 1 } := by
  obtain ⟨verdict, channel⟩ := Sending.poll_of_sent (b := b) h
  unfold settle
  dsimp only
  rw [verdict, channel]

theorem settle_of_waiting (b : Branch) (i : Nat) (inLine : l.channel.InLine)
    (h : l.channel.pollSend f.place = (.waiting t, d)) :
    l.settle b i f
      = { l with channel := d, pending := l.pending.set i { f with place := some t } } := by
  obtain ⟨same, channel⟩ := Sending.poll_of_waiting (b := b) inLine h
  unfold settle
  dsimp only
  rw [same, channel, verdict_future]
  cases b <;> rfl

theorem settle_of_refused (b : Branch) (i : Nat)
    (h : l.channel.pollSend f.place = (.refused, d)) :
    l.settle b i f = { l with channel := d.dropSender, pending := l.pending.eraseIdx i } := by
  obtain ⟨verdict, channel⟩ := Sending.poll_of_refused (b := b) h
  unfold settle
  dsimp only
  rw [verdict, channel]

/-- A send that is given up leaves its place, if it has one. -/
theorem outlet_abandon_eq (b : Branch) (f : Sending) (c : Channel) :
    b.outlet ((f.future b).abandon ⟨c, c⟩) = (f.place.elim c c.withdraw).dropSender := by
  cases hp : f.place <;> cases b <;>
    simp [Producer.abandon, Sending.future, hp, Branch.outlet]

/-- On an orderly queue, what an act does to the channel is what the side of the senders can do. -/
theorem pushed_of_act (inLine : l.channel.InLine) (act : l.act b a = some m) :
    Channel.Pushed l.channel m.channel := by
  cases a with
  | begin sender =>
    obtain ⟨-, ⟨⟩⟩ := Option.ite_none_right_eq_some.mp act
    exact .rest _
  | poll i =>
    obtain ⟨f, -, rfl⟩ := Option.map_eq_some_iff.mp act
    have pushed := Channel.Pushed.poll (c := l.channel) f.place
    rcases poll : l.channel.pollSend f.place with ⟨_ | t | _, d⟩
    · rw [poll] at pushed
      rw [settle_of_sent b i poll]
      exact pushed _
    · rw [poll] at pushed
      rw [settle_of_waiting b i inLine poll]
      exact pushed _
    · rw [poll] at pushed
      rw [settle_of_refused b i poll]
      exact pushed _
  | cancel i =>
    obtain ⟨f, -, rfl⟩ := Option.map_eq_some_iff.mp act
    rw [outlet_abandon_eq]
    cases f.place with
    | none => exact .rest _
    | some t => exact .withdraw t _
  | clone =>
    obtain ⟨-, ⟨⟩⟩ := Option.ite_none_right_eq_some.mp act
    exact .rest _
  | drop =>
    obtain ⟨-, ⟨⟩⟩ := Option.ite_none_right_eq_some.mp act
    exact .rest _

/-! ## The places of the pending sends -/

/-- Where the pending sends wait. -/
def places (l : Line) : List Ticket := l.pending.filterMap Sending.place

/-- Without the send `i` its place is missing. -/
theorem places_eraseIdx (hf : l.pending[i]? = some f) {q : List Ticket} (h : q.Perm l.places) :
    (f.place.elim q q.erase).Perm ((l.pending.eraseIdx i).filterMap Sending.place) := by
  obtain ⟨hi, rfl⟩ := List.getElem?_eq_some_iff.mp hf
  have split := (List.getElem_cons_eraseIdx_perm hi).symm.filterMap Sending.place
  have all := h.trans split
  cases hp : l.pending[i].place with
  | none =>
    rw [List.filterMap_cons_none hp] at all
    exact all
  | some t =>
    rw [List.filterMap_cons_some hp] at all
    have rest := all.erase t
    rw [List.erase_cons_head] at rest
    exact rest

/-- A send that had no place has one now. -/
theorem places_set (hf : l.pending[i]? = some f) (new : f.place = none) {q : List Ticket}
    (h : q.Perm l.places) :
    (q ++ [t]).Perm ((l.pending.set i { f with place := some t }).filterMap Sending.place) := by
  have hi := (List.getElem?_eq_some_iff.mp hf).1
  have rest := places_eraseIdx hf h
  rw [new] at rest
  have all := (List.set_perm_cons_eraseIdx hi { f with place := some t }).filterMap Sending.place
  rw [List.filterMap_cons_some (show Sending.place { f with place := some t } = some t from rfl)]
    at all
  exact (List.perm_append_singleton t q).trans ((rest.cons t).trans all.symm)

theorem queue_settle (inLine : l.channel.InLine) (hf : l.pending[i]? = some f)
    (queue : l.channel.queue.Perm l.places) (listening : l.channel.listening = true) :
    (l.settle b i f).channel.queue.Perm (l.settle b i f).places := by
  rcases poll : l.channel.pollSend f.place with ⟨_ | t | _, d⟩
  · rw [settle_of_sent b i poll]
    show d.queue.Perm _
    rw [(Channel.queue_of_sent poll).1]
    exact places_eraseIdx hf queue
  · rw [settle_of_waiting b i inLine poll]
    show d.queue.Perm ((l.pending.set i { f with place := some t }).filterMap Sending.place)
    cases hp : f.place with
    | none =>
      rw [hp] at poll
      obtain ⟨rfl, joined, -⟩ := Channel.queue_of_waiting poll
      rw [joined]
      exact places_set hf hp queue
    | some u =>
      rw [hp] at poll
      obtain ⟨rfl, rfl⟩ := Channel.eq_of_waiting poll
      obtain ⟨hi, rfl⟩ := List.getElem?_eq_some_iff.mp hf
      rw [← hp, List.set_getElem_self hi]
      exact queue
  · rw [(Channel.eq_of_refused poll).1] at listening
    cases listening

theorem queue_cancel (hf : l.pending[i]? = some f) (queue : l.channel.queue.Perm l.places) :
    (f.place.elim l.channel l.channel.withdraw).queue.Perm
      ((l.pending.eraseIdx i).filterMap Sending.place) := by
  have rest := places_eraseIdx hf queue
  cases hp : f.place with
  | none =>
    rw [hp] at rest
    exact rest
  | some t =>
    rw [hp] at rest
    show (l.channel.withdraw t).queue.Perm _
    rw [Channel.queue_withdraw]
    exact rest

/-- The ends and the slots are in order, and the queue of the channel is made of the places of the
pending sends. -/
structure Tidy (l : Line) : Prop where
  sound : l.Sound
  slots : l.channel.Sound
  inLine : l.channel.InLine
  queue : l.channel.listening = true → l.channel.queue.Perm l.places

theorem Tidy.act (h : l.Tidy) (act : l.act b a = some m) : m.Tidy := by
  have pushed := pushed_of_act h.inLine act
  refine ⟨h.sound.act act, pushed.sound h.slots, pushed.inLine h.inLine, fun still => ?_⟩
  have listening : l.channel.listening = true := (keeps_of_act act).listening.symm.trans still
  have queue := h.queue listening
  cases a with
  | begin sender =>
    obtain ⟨-, ⟨⟩⟩ := Option.ite_none_right_eq_some.mp act
    show l.channel.queue.Perm ((l.pending ++ [_]).filterMap Sending.place)
    rw [List.filterMap_append]
    exact queue.trans (.of_eq (List.append_nil _).symm)
  | poll i =>
    obtain ⟨f, hf, rfl⟩ := Option.map_eq_some_iff.mp act
    exact queue_settle h.inLine hf queue listening
  | cancel i =>
    obtain ⟨f, hf, rfl⟩ := Option.map_eq_some_iff.mp act
    rw [outlet_abandon_eq]
    exact queue_cancel hf queue
  | clone =>
    obtain ⟨-, ⟨⟩⟩ := Option.ite_none_right_eq_some.mp act
    exact queue
  | drop =>
    obtain ⟨-, ⟨⟩⟩ := Option.ite_none_right_eq_some.mp act
    exact queue

/-- Taking an item takes nobody out of the queue. -/
theorem Tidy.take (h : l.Tidy) (taken : l.channel.take? = some d) :
    { l with channel := d }.Tidy where
  sound := (Channel.senders_of_take? taken).trans h.sound
  slots := h.slots.take? taken
  inLine := h.inLine.take? taken
  queue listening := by
    rw [show d.listening = l.channel.listening from Channel.listening_of_take? taken] at listening
    show d.queue.Perm _
    rw [Channel.queue_of_take? taken]
    exact h.queue listening

theorem Tidy.hangUp (h : l.Tidy) : { l with channel := l.channel.hangUp }.Tidy where
  sound := h.sound
  slots := .hangUp
  inLine := h.inLine.hangUp
  queue := by rintro ⟨⟩

/-! ## Reserved slots -/

/-- The pending sends that have slots. -/
def reserved (l : Line) : Nat := l.pending.countP (Sending.holdsSlot l.channel)

/-- Every reserved slot has its send. -/
theorem Tidy.reserved_eq (h : l.Tidy) (listening : l.channel.listening = true) :
    l.reserved = l.channel.granted.length := by
  have counted : l.reserved = l.places.countP (· ∈ l.channel.granted) := by
    unfold reserved places
    rw [List.countP_filterMap]
    congr 1
    funext f
    unfold Sending.holdsSlot
    cases f.place <;> rfl
  have apart := (List.nodup_append.mp h.inLine.nodup).2.2
  have granted : l.channel.granted.countP (· ∈ l.channel.granted) = l.channel.granted.length :=
    List.countP_eq_length.mpr fun t ht => decide_eq_true ht
  have waiting : l.channel.waiting.countP (· ∈ l.channel.granted) = 0 :=
    List.countP_eq_zero.mpr fun t ht => by
      rw [decide_eq_true_iff]
      exact fun slot => apart t slot t ht rfl
  rw [counted, ← (h.queue listening).countP_eq, Channel.queue, List.countP_append, granted, waiting,
    Nat.add_zero]

end Line

/-! ## Replies -/

namespace Sending

/-- A send that has ended came through to a receiver or was refused without one. -/
theorem verdict_poll (b : Branch) (f : Sending) (c : Channel) :
    (f.poll b c).producer.verdict = none ∨
    (f.poll b c).producer.verdict = some .finished ∧ c.listening = true ∨
    (f.poll b c).producer.verdict = some (.failed ⟨f.sender, b.channelName⟩) ∧
      c.listening = false := by
  have h := f.polled b c
  generalize (f.poll b c).producer = p, b.outlet (f.poll b c).outlets = d at h ⊢
  cases h with
  | sent verdict listening => exact .inr (.inl ⟨verdict, listening⟩)
  | waits => exact .inl (Line.verdict_future b _)
  | refused verdict deaf => exact .inr (.inr ⟨verdict, deaf⟩)

end Sending

namespace Line

variable {b : Branch} {l m : Line} {a : Act} {i : Nat} {f : Sending}

theorem acknowledged_settle (b : Branch) (l : Line) (i : Nat) (f : Sending) :
    (l.settle b i f).acknowledged = l.acknowledged +
      (f.poll b l.channel).producer.verdict.toList.count .finished := by
  unfold settle
  dsimp only
  rcases f.verdict_poll b l.channel with verdict | ⟨verdict, -⟩ | ⟨verdict, -⟩
  · rw [verdict]
    rfl
  · rw [verdict]
    rfl
  · rw [verdict]
    rfl

/-- Who has a send under way after a poll had one before. -/
theorem sender_settle {f' : Sending} (hf : l.pending[i]? = some f)
    (mem : f' ∈ (l.settle b i f).pending) : ∃ f₀ ∈ l.pending, f'.sender = f₀.sender := by
  unfold settle at mem
  dsimp only at mem
  split at mem
  · rcases List.mem_or_eq_of_mem_set mem with old | rfl
    · exact ⟨f', old, rfl⟩
    · exact ⟨f, List.mem_of_getElem? hf, rfl⟩
  · exact ⟨f', List.mem_of_mem_eraseIdx mem, rfl⟩
  · exact ⟨f', List.mem_of_mem_eraseIdx mem, rfl⟩

end Line

/-! ## Both ends -/

/-- What a channel carries: the signals of one producer, or completions. -/
inductive Cargo where
  | signals (e : Effect)
  | completions
  deriving DecidableEq, Repr

namespace Cargo

/-- On its own a signal channel is as good on the first side as on the second. -/
def branch : Cargo → Branch
  | .signals _ => .signals .first
  | .completions => .completions

/-- The producer for whom a send is made: on a signal channel it is the one of its effect, whoever
calls. -/
def sender (g : Cargo) (caller : String) : String :=
  match g with
  | .signals e => e.name
  | .completions => caller

/-- What a send for `caller` fails with. -/
def failure (g : Cargo) (caller : String) : Verdict :=
  .failed ⟨g.sender caller, g.branch.channelName⟩

end Cargo

/-- A channel, with what is done at both of its ends. -/
structure Exchange where
  line : Line
  /-- The items that the receiver has got. -/
  received : Nat := 0
  /-- The items that were buffered when the receiver went. -/
  lost : Nat := 0
  /-- What the sends that have ended came to, and for whom they were made. -/
  replies : List (String × Verdict) := []
  deriving DecidableEq, Repr

namespace Exchange

/-- What can be done with a channel. -/
inductive Act where
  /-- Begin, poll or cancel a send, clone or drop a sending end. -/
  | client (a : Line.Act)
  /-- Poll a receipt. -/
  | receive
  /-- Take an item if one is there. -/
  | tryReceive
  | hangUp
  deriving DecidableEq, Repr

def start (capacity : Nat) : Exchange := { line := { channel := .create capacity } }

/-- What a poll of `f` comes to, unless it has to wait. -/
def verdict? (g : Cargo) (s : Exchange) (f : Sending) : Option Verdict :=
  (f.poll g.branch s.line.channel).producer.verdict

/-- The reply that one act of a client brings, if any. -/
def reply (g : Cargo) (s : Exchange) : Line.Act → List (String × Verdict)
  | .poll i => (s.line.pending[i]?.bind fun f => (s.verdict? g f).map (f.sender, ·)).toList
  | _ => []

/-- The act on the line: a signal is sent for the producer of the channel. -/
def address (g : Cargo) : Line.Act → Line.Act
  | .begin caller => .begin (g.sender caller)
  | a => a

/-- The exchange after an item was taken that left the channel as `c`, or after none was. -/
def took (s : Exchange) (c : Channel) : Receipt → Exchange
  | .item => { s with line := { s.line with channel := c }, received := s.received + 1 }
  | _ => { s with line := { s.line with channel := c } }

/-- One act, undefined where the end or the send that it needs is missing. -/
def act (g : Cargo) (s : Exchange) : Act → Option Exchange
  | .client a =>
    (s.line.act g.branch (address g a)).map fun line =>
      { s with line, replies := s.replies ++ s.reply g a }
  | .receive =>
    if s.line.channel.listening then
      some (s.took s.line.channel.receive.2 s.line.channel.receive.1)
    else none
  | .tryReceive =>
    if s.line.channel.listening then some (s.line.channel.take?.elim s (s.took · .item)) else none
  | .hangUp =>
    if s.line.channel.listening then
      some { s with line := { s.line with channel := s.line.channel.hangUp }
                    lost := s.lost + s.line.channel.buffered }
    else none

variable {g : Cargo} {capacity : Nat} {s t : Exchange} {a : Act} {c : Channel}

/-! ## What every act keeps -/

/-- Slots, items, ends and replies are accounted for. -/
structure Sound (g : Cargo) (capacity : Nat) (s : Exchange) : Prop where
  tidy : s.line.Tidy
  size : s.line.channel.capacity = clampSlots capacity
  items : s.line.acknowledged = s.received + s.line.channel.buffered + s.lost
  kept : s.line.channel.listening = true → s.lost = 0
  acknowledged : (s.replies.map Prod.snd).count .finished = s.line.acknowledged
  failed : ∀ r ∈ s.replies, r.2 = .finished ∨
    r.2 = g.failure r.1 ∧ s.line.channel.listening = false
  addressed : ∀ f ∈ s.line.pending, g.sender f.sender = f.sender

theorem Sound.start (g : Cargo) (capacity : Nat) : Sound g capacity (start capacity) where
  tidy := ⟨rfl, .create capacity, .create capacity, fun _ => .refl _⟩
  size := rfl
  items := rfl
  kept _ := rfl
  acknowledged := rfl
  failed := by rintro _ ⟨⟩
  addressed := by rintro _ ⟨⟩

@[simp]
theorem sender_sender (g : Cargo) (caller : String) :
    g.sender (g.sender caller) = g.sender caller := by
  cases g <;> rfl

/-- What a send comes to, and what the reply says. -/
theorem reply_poll {i : Nat} {f : Sending} (hf : s.line.pending[i]? = some f) :
    s.reply g (.poll i) = (s.verdict? g f).toList.map (f.sender, ·) := by
  show (s.line.pending[i]?.bind _).toList = _
  rw [hf]
  cases h : s.verdict? g f <;> simp [h]

theorem Sound.verdict?_cases (h : Sound g capacity s) {f : Sending} (hf : f ∈ s.line.pending) :
    s.verdict? g f = none ∨
    s.verdict? g f = some .finished ∧ s.line.channel.listening = true ∨
    s.verdict? g f = some (g.failure f.sender) ∧ s.line.channel.listening = false := by
  have := f.verdict_poll g.branch s.line.channel
  unfold verdict? Cargo.failure
  rw [h.addressed f hf]
  exact this

/-- What is acknowledged is replied. -/
theorem acknowledged_of_act {a : Line.Act} {m : Line}
    (act : s.line.act g.branch (address g a) = some m) :
    m.acknowledged = s.line.acknowledged + ((s.reply g a).map Prod.snd).count .finished := by
  cases a with
  | begin caller =>
    obtain ⟨-, ⟨⟩⟩ := Option.ite_none_right_eq_some.mp act
    rfl
  | poll i =>
    obtain ⟨f, hf, rfl⟩ := Option.map_eq_some_iff.mp act
    rw [reply_poll hf, List.map_map, show Prod.snd ∘ (f.sender, ·) = @id Verdict from rfl,
      List.map_id]
    exact Line.acknowledged_settle g.branch s.line i f
  | cancel i =>
    obtain ⟨f, -, rfl⟩ := Option.map_eq_some_iff.mp act
    rfl
  | clone =>
    obtain ⟨-, ⟨⟩⟩ := Option.ite_none_right_eq_some.mp act
    rfl
  | drop =>
    obtain ⟨-, ⟨⟩⟩ := Option.ite_none_right_eq_some.mp act
    rfl

theorem Sound.failed_reply (h : Sound g capacity s) {a : Line.Act} {r : String × Verdict}
    (hr : r ∈ s.reply g a) :
    r.2 = .finished ∨ r.2 = g.failure r.1 ∧ s.line.channel.listening = false := by
  cases a with
  | poll i =>
    cases hf : s.line.pending[i]? with
    | none => simp [reply, hf] at hr
    | some f =>
      rw [reply_poll hf] at hr
      obtain ⟨v, hv, rfl⟩ := List.mem_map.mp hr
      have verdict := Option.mem_toList.mp hv
      rcases h.verdict?_cases (List.mem_of_getElem? hf) with wait | ⟨sent, -⟩ | ⟨refused, deaf⟩
      · rw [wait] at verdict
        cases verdict
      · rw [sent] at verdict
        exact .inl (Option.some.inj verdict).symm
      · rw [refused] at verdict
        exact .inr ⟨(Option.some.inj verdict).symm, deaf⟩
  | _ => cases hr

theorem Sound.addressed_of_act (h : Sound g capacity s) {a : Line.Act} {m : Line}
    (act : s.line.act g.branch (address g a) = some m) :
    ∀ f ∈ m.pending, g.sender f.sender = f.sender := by
  intro f mem
  cases a with
  | begin caller =>
    obtain ⟨-, ⟨⟩⟩ := Option.ite_none_right_eq_some.mp act
    rcases List.mem_append.mp mem with old | new
    · exact h.addressed f old
    · rw [List.mem_singleton.mp new]
      exact sender_sender g caller
  | poll i =>
    obtain ⟨f', hf, rfl⟩ := Option.map_eq_some_iff.mp act
    obtain ⟨f₀, old, same⟩ := Line.sender_settle hf mem
    rw [same]
    exact h.addressed f₀ old
  | cancel i =>
    obtain ⟨f', -, rfl⟩ := Option.map_eq_some_iff.mp act
    exact h.addressed f (List.mem_of_mem_eraseIdx mem)
  | clone =>
    obtain ⟨-, ⟨⟩⟩ := Option.ite_none_right_eq_some.mp act
    exact h.addressed f mem
  | drop =>
    obtain ⟨-, ⟨⟩⟩ := Option.ite_none_right_eq_some.mp act
    exact h.addressed f mem

theorem Sound.client (h : Sound g capacity s) {a : Line.Act}
    (act : act g s (.client a) = some t) : Sound g capacity t := by
  obtain ⟨m, hm, rfl⟩ := Option.map_eq_some_iff.mp act
  have keeps := Line.keeps_of_act hm
  have acknowledged := acknowledged_of_act hm
  refine ⟨h.tidy.act hm, ?_, ?_, ?_, ?_, fun r hr => ?_, h.addressed_of_act hm⟩
  · exact (Line.pushed_of_act h.tidy.inLine hm).capacity_eq.trans h.size
  · have balance := keeps.buffered
    have items := h.items
    show m.acknowledged = s.received + m.channel.buffered + s.lost
    omega
  · show m.channel.listening = true → s.lost = 0
    rw [keeps.listening]
    exact h.kept
  · show ((s.replies ++ s.reply g a).map Prod.snd).count .finished = m.acknowledged
    rw [List.map_append, List.count_append, h.acknowledged, acknowledged]
  · show _ ∨ _ ∧ m.channel.listening = false
    rw [keeps.listening]
    rcases List.mem_append.mp hr with old | new
    · exact h.failed r old
    · exact h.failed_reply new

/-- An item goes from the buffer to the receiver. -/
theorem Sound.took (h : Sound g capacity s) (taken : s.line.channel.take? = some c) :
    Sound g capacity (s.took c .item) := by
  have filled := Channel.buffered_of_take? taken
  have ears := Channel.listening_of_take? taken
  refine ⟨h.tidy.take taken, (Channel.capacity_of_take? taken).trans h.size, ?_, ?_,
    h.acknowledged, fun r hr => ?_, h.addressed⟩
  · have items := h.items
    show s.line.acknowledged = s.received + 1 + c.buffered + s.lost
    omega
  · show c.listening = true → s.lost = 0
    rw [ears]
    exact h.kept
  · show _ ∨ _ ∧ c.listening = false
    rw [ears]
    exact h.failed r hr

/-- Polling a receipt and trying one do the same to a channel. -/
theorem took_receive (s : Exchange) :
    s.took s.line.channel.receive.2 s.line.channel.receive.1
      = s.line.channel.take?.elim s (s.took · .item) := by
  unfold Channel.receive
  cases s.line.channel.take? with
  | none =>
    dsimp only
    split <;> rfl
  | some c => rfl

theorem Sound.draw (h : Sound g capacity s) :
    Sound g capacity (s.line.channel.take?.elim s (s.took · .item)) := by
  cases taken : s.line.channel.take? with
  | none => exact h
  | some c => exact h.took taken

theorem Sound.act (h : Sound g capacity s) (act : act g s a = some t) : Sound g capacity t := by
  cases a with
  | client a => exact h.client act
  | receive =>
    obtain ⟨-, drawn⟩ := Option.ite_none_right_eq_some.mp act
    rw [← Option.some.inj drawn, took_receive]
    exact h.draw
  | tryReceive =>
    obtain ⟨-, drawn⟩ := Option.ite_none_right_eq_some.mp act
    rw [← Option.some.inj drawn]
    exact h.draw
  | hangUp =>
    obtain ⟨listening, ⟨⟩⟩ := Option.ite_none_right_eq_some.mp act
    refine ⟨h.tidy.hangUp, h.size, ?_, by rintro ⟨⟩, h.acknowledged, fun r hr => ?_, h.addressed⟩
    · show s.line.acknowledged = s.received + 0 + (s.lost + s.line.channel.buffered)
      have items := h.items
      omega
    · exact (h.failed r hr).imp id fun failed => ⟨failed.1, rfl⟩

/-- Without a receiver nothing more is acknowledged. -/
theorem deaf_of_act (deaf : s.line.channel.listening = false)
    (act : Exchange.act g s a = some t) :
    t.line.channel.listening = false ∧ t.line.acknowledged = s.line.acknowledged := by
  cases a with
  | client a =>
    obtain ⟨m, hm, rfl⟩ := Option.map_eq_some_iff.mp act
    have keeps := Line.keeps_of_act hm
    exact ⟨keeps.listening.trans deaf, keeps.deaf deaf⟩
  | receive => simp [Exchange.act, deaf] at act
  | tryReceive => simp [Exchange.act, deaf] at act
  | hangUp => simp [Exchange.act, deaf] at act

theorem Sound.fair (h : Sound g capacity s) (act : Exchange.act g s a = some t) :
    Channel.Fair s.line.channel t.line.channel := by
  have draw : Channel.Fair s.line.channel
      (s.line.channel.take?.elim s (s.took · .item)).line.channel := by
    cases taken : s.line.channel.take? with
    | none => exact .refl _
    | some c => exact .take? taken
  cases a with
  | client a =>
    obtain ⟨m, hm, rfl⟩ := Option.map_eq_some_iff.mp act
    exact (Line.pushed_of_act h.tidy.inLine hm).fair
  | receive =>
    obtain ⟨-, drawn⟩ := Option.ite_none_right_eq_some.mp act
    rw [← Option.some.inj drawn, took_receive]
    exact draw
  | tryReceive =>
    obtain ⟨-, drawn⟩ := Option.ite_none_right_eq_some.mp act
    rw [← Option.some.inj drawn]
    exact draw
  | hangUp =>
    obtain ⟨-, ⟨⟩⟩ := Option.ite_none_right_eq_some.mp act
    exact .hangUp _

/-! ## What a poll of a send comes to -/

theorem pollSend_of_none {f : Sending} (waits : s.verdict? g f = none) :
    ∃ t d, s.line.channel.pollSend f.place = (.waiting t, d) := by
  unfold verdict? at waits
  rcases poll : s.line.channel.pollSend f.place with ⟨_ | t | _, d⟩
  · rw [(Sending.poll_of_sent poll).1] at waits
    cases waits
  · exact ⟨t, d, rfl⟩
  · rw [(Sending.poll_of_refused poll).1] at waits
    cases waits

theorem Sound.pollSend_of_finished (h : Sound g capacity s) {f : Sending}
    (sent : s.verdict? g f = some .finished) :
    ∃ d, s.line.channel.pollSend f.place = (.sent, d) := by
  unfold verdict? at sent
  rcases poll : s.line.channel.pollSend f.place with ⟨_ | t | _, d⟩
  · exact ⟨d, rfl⟩
  · rw [(Sending.poll_of_waiting h.tidy.inLine poll).1, Line.verdict_future] at sent
    cases sent
  · rw [(Sending.poll_of_refused poll).1] at sent
    cases sent

/-- A send waits only when no slot is free. -/
theorem Sound.free_of_none (h : Sound g capacity s) {f : Sending} (hf : f ∈ s.line.pending)
    (waits : s.verdict? g f = none) : s.line.channel.free = 0 := by
  obtain ⟨t, d, poll⟩ := pollSend_of_none waits
  refine Channel.free_of_waiting h.tidy.slots (fun u hu => ?_) poll
  have queue := h.tidy.queue (Channel.listening_of_waiting poll)
  exact queue.mem_iff.mpr (List.mem_filterMap.mpr ⟨f, hf, hu⟩)

/-- A send comes through on its slot, or when nobody waits. -/
theorem Sound.holdsSlot_of_finished (h : Sound g capacity s) {f : Sending}
    (sent : s.verdict? g f = some .finished) :
    f.holdsSlot s.line.channel = true ∨ s.line.channel.waiting = [] := by
  obtain ⟨d, poll⟩ := h.pollSend_of_finished sent
  refine (Channel.granted_or_waiting_of_sent h.tidy.slots poll).imp (fun slot => ?_) id
  obtain ⟨t, granted, place⟩ := slot
  unfold Sending.holdsSlot
  rw [place]
  exact decide_eq_true granted

/-! ## Whole schedules -/

/-- The sends that have come through. -/
def delivered (s : Exchange) : Nat := (s.replies.map Prod.snd).count .finished

/-- As long as somebody receives, every slot is filled, reserved for a pending send or free; sends
wait only when no slot is free, and get slots in the order of their coming, which nobody overtakes.
All that was sent is received, buffered or was lost with the receiver. The receiver is told that the
channel is closed exactly when nothing is buffered and no end is left, not even with a pending send.
Without a receiver no send comes through, and each fails for its own producer and channel. -/
theorem conserves {deeds : List Act} (h : follow (act g) (start capacity) deeds = some s) :
    (s.line.channel.listening = true →
      s.line.channel.buffered + s.line.reserved + s.line.channel.free = clampSlots capacity) ∧
    (s.line.channel.waiting ≠ [] → s.line.channel.free = 0) ∧
    (∀ f ∈ s.line.pending, s.verdict? g f = none → s.line.channel.free = 0) ∧
    (∀ f ∈ s.line.pending, s.verdict? g f = some .finished →
      f.holdsSlot s.line.channel = true ∨ s.line.channel.waiting = []) ∧
    s.line.channel.waiting.Pairwise (· < ·) ∧
    (∀ a t, act g s a = some t → Channel.Fair s.line.channel t.line.channel) ∧
    s.delivered = s.received + s.line.channel.buffered + s.lost ∧
    (s.line.channel.listening = true → s.lost = 0) ∧
    (s.line.channel.receive.1 = .closed ↔
      s.line.channel.buffered = 0 ∧ s.line.ends = 0 ∧ s.line.pending = []) ∧
    (∀ r ∈ s.replies, r.2 = .finished ∨
      r.2 = g.failure r.1 ∧ s.line.channel.listening = false) ∧
    (s.line.channel.listening = false →
      (∀ f ∈ s.line.pending, s.verdict? g f = some (g.failure f.sender)) ∧
      ∀ more t, follow (act g) s more = some t → t.delivered = s.delivered) := by
  have sound : Sound g capacity s := follow_invariant (fun _ _ _ act h => h.act act) h (.start g _)
  refine ⟨fun listening => ?_, sound.tidy.slots.full_of_waiting, fun _ => sound.free_of_none,
    fun _ _ => sound.holdsSlot_of_finished, sound.tidy.inLine.sorted, fun _ _ => sound.fair,
    sound.acknowledged.trans sound.items, sound.kept, ?_, sound.failed,
    fun deaf => ⟨fun f hf => ?_, fun more t later => ?_⟩⟩
  · rw [sound.tidy.reserved_eq listening, ← sound.size]
    exact sound.tidy.slots.conserved
  · have held : s.line.channel.senders = s.line.ends + s.line.pending.length := sound.tidy.sound
    constructor
    · intro closed
      obtain ⟨empty, gone, -⟩ := Channel.receive_closed_iff.mp (Prod.ext closed rfl)
      exact ⟨empty, by omega, List.eq_nil_of_length_eq_zero (by omega)⟩
    · rintro ⟨empty, no_end, no_send⟩
      rw [no_end, no_send] at held
      rw [Channel.receive_closed_iff.mpr ⟨empty, held, rfl⟩]
  · rcases sound.verdict?_cases hf with waits | ⟨-, listening⟩ | ⟨refused, -⟩
    · obtain ⟨_, _, poll⟩ := pollSend_of_none waits
      rw [Channel.listening_of_waiting poll] at deaf
      cases deaf
    · rw [listening] at deaf
      cases deaf
    · exact refused
  · have kept := follow_invariant
      (P := fun u => Sound g capacity u ∧ u.line.channel.listening = false ∧
        u.line.acknowledged = s.line.acknowledged)
      (fun u a v act hu => ?_) later ⟨sound, deaf, rfl⟩
    · obtain ⟨later_sound, -, same⟩ := kept
      exact later_sound.acknowledged.trans (same.trans sound.acknowledged.symm)
    · obtain ⟨sound, deaf, same⟩ := hu
      obtain ⟨still, none_more⟩ := deaf_of_act deaf act
      exact ⟨sound.act act, still, none_more.trans same⟩

/-- Three sends wait at a channel with one slot. The slot that is reserved for the first passes to
the second and to the third, as they are given up; what the third sends is lost with the receiver,
and a fourth, for another caller, fails for the producer of the channel. -/
theorem conserves_of_handed_over :
    let begun : List Act := [.client (.begin "caller"), .client (.poll 0),
      .client (.begin "caller"), .client (.poll 0), .client (.begin "caller"), .client (.poll 1),
      .client (.begin "caller"), .client (.poll 2), .receive, .client (.cancel 0),
      .client (.cancel 0)]
    let rest : List Act := [.client (.poll 0), .client (.begin "other"), .client (.poll 0), .hangUp,
      .client .drop, .client (.poll 0)]
    (∃ s, follow (act (.signals .increment)) (start 0) begun = some s ∧
      s.line.pending = [⟨"incrementer", some 2⟩] ∧ s.line.reserved = 1 ∧
      s.line.channel.buffered + s.line.reserved + s.line.channel.free = 1) ∧
    ∃ s, follow (act (.signals .increment)) (start 0) (begun ++ rest) = some s ∧
      s.delivered = s.received + s.line.channel.buffered + s.lost ∧ s.received = 1 ∧ s.lost = 1 ∧
      s.replies = [("incrementer", .finished), ("incrementer", .finished),
        ("incrementer", .failed ⟨"incrementer", "signal"⟩)] ∧
      s.line.channel.receive.1 = .closed := by
  intro begun rest
  refine ⟨?_, ?_⟩
  · have seen : (follow (act (.signals .increment)) (start 0) begun).map
        (fun s => (s.line.channel.listening, s.line.pending, s.line.reserved))
        = some (true, [⟨"incrementer", some 2⟩], 1) := by decide +kernel
    obtain ⟨s, h, same⟩ := Option.map_eq_some_iff.mp seen
    obtain ⟨listening, pending, reserved⟩ : s.line.channel.listening = true ∧
        s.line.pending = [⟨"incrementer", some 2⟩] ∧ s.line.reserved = 1 := by simpa using same
    exact ⟨s, h, pending, reserved, (conserves h).1 listening⟩
  · have seen : (follow (act (.signals .increment)) (start 0) (begun ++ rest)).map
        (fun s => (s.received, s.lost, s.replies, decide (s.line.channel.buffered = 0 ∧
          s.line.ends = 0 ∧ s.line.pending = [])))
        = some (1, 1, [("incrementer", .finished), ("incrementer", .finished),
            ("incrementer", .failed ⟨"incrementer", "signal"⟩)], true) := by decide +kernel
    obtain ⟨s, h, same⟩ := Option.map_eq_some_iff.mp seen
    obtain ⟨received, lost, replies, nothing_left⟩ : s.received = 1 ∧ s.lost = 1 ∧
        s.replies = [("incrementer", .finished), ("incrementer", .finished),
          ("incrementer", .failed ⟨"incrementer", "signal"⟩)] ∧
        s.line.channel.buffered = 0 ∧ s.line.ends = 0 ∧ s.line.pending = [] := by simpa using same
    obtain ⟨-, -, -, -, -, -, items, -, closed, -⟩ := conserves h
    exact ⟨s, h, items, received, lost, replies, closed.mpr nothing_left⟩

end Exchange

end SharedCounter
