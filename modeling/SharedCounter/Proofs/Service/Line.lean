import Mathlib.Tactic.Common
import SharedCounter.Coordinator
import SharedCounter.Producer
import SharedCounter.Proofs.Channel.Items

/-!
# Lines: a channel with the ends and the sends of its clients

* `Sending`, `Sending.future` : a send in progress, and the producer that is polled for it;
* `Sending.Polled` : the ways in which a poll of a send can come out (`Sending.polled`). It comes
  through, waits, or is refused because the receiver is gone;
* `Line`, `Line.act` : the clients of a channel begin, poll and cancel sends, and clone and drop the
  ends that they hold. `acknowledged` counts the sends that have come through;
* `Line.Keeps` : what no act changes. An item is acknowledged exactly when it is buffered
  (`Line.keeps_of_act`);
* `Line.Sound` : every sending end is held by a client or by a send. Acts keep it (`Sound.act`), and
  without an end there are no acts (`Sound.act_eq_none`).
-/

namespace SharedCounter

open Producer (State)

/-- A send in progress: for whom it is made, and where it waits. -/
structure Sending where
  sender : String
  place : Option Ticket := none
  deriving DecidableEq, Repr

namespace Branch

/-- What the failure of a send calls the channel. -/
def channelName : Branch → String
  | .signals _ => "signal"
  | .completions => "completion"

def outlet (b : Branch) (o : Outlets) : Channel :=
  match b with
  | .signals _ => o.signals
  | .completions => o.completions

end Branch

namespace Sending

/-- The producer of one send to a channel of branch `b`. -/
def future (b : Branch) (f : Sending) : Producer :=
  match b with
  | .signals _ =>
    { name := f.sender, acts := [.send 1], place := f.place, holdsCompletion := false }
  | .completions =>
    { name := f.sender, acts := [.complete], place := f.place, holdsSignals := false }

/-- One poll of a send. -/
def poll (b : Branch) (c : Channel) (f : Sending) : Producer.State := (f.future b).run ⟨c, c⟩

variable {b : Branch} {c d : Channel} {f : Sending} {t : Ticket}

/-! ## What a poll comes to -/

theorem poll_of_sent (h : c.pollSend f.place = (.sent, d)) :
    (f.poll b c).producer.verdict = some .finished ∧
      b.outlet (f.poll b c).outlets = d.dropSender := by
  cases b <;> cases hp : f.place <;> rw [hp] at h <;>
    simp [poll, future, hp, Producer.run, Producer.effort, Act.efforts, Act.effort, advance,
      State.step, State.perform, State.sendTo, h, Producer.next, Producer.finish,
      State.letGoSignals, State.letGoCompletion, Branch.outlet]

theorem poll_of_refused (h : c.pollSend f.place = (.refused, d)) :
    (f.poll b c).producer.verdict = some (.failed ⟨f.sender, b.channelName⟩) ∧
      b.outlet (f.poll b c).outlets = d.dropSender := by
  cases b <;> cases hp : f.place <;> rw [hp] at h <;>
    simp [poll, future, hp, Producer.run, Producer.effort, Act.efforts, Act.effort, advance,
      State.step, State.perform, State.sendTo, h, Producer.finish, State.letGoSignals,
      State.letGoCompletion, Branch.outlet, Branch.channelName]

theorem poll_of_place (hp : f.place = some t) (h : c.pollSend (some t) = (.waiting t, d)) :
    (f.poll b c).producer = f.future b ∧ b.outlet (f.poll b c).outlets = c := by
  cases b <;>
    simp [poll, future, hp, Producer.run, Producer.effort, Act.efforts, Act.effort, advance,
      State.step, State.perform, State.sendTo, h, Branch.outlet]

theorem poll_of_fresh (hp : f.place = none) (h : c.pollSend none = (.waiting t, d))
    (again : d.pollSend (some t) = (.waiting t, d)) :
    (f.poll b c).producer = { f with place := some t }.future b ∧
      b.outlet (f.poll b c).outlets = d := by
  cases b <;>
    simp [poll, future, hp, Producer.run, Producer.effort, Act.efforts, Act.effort, advance,
      State.step, State.perform, State.sendTo, h, again, Branch.outlet]

/-- The place that a send has got may have a slot already. -/
theorem poll_of_lucky {e : Channel} (hp : f.place = none) (h : c.pollSend none = (.waiting t, d))
    (again : d.pollSend (some t) = (.sent, e)) :
    (f.poll b c).producer.verdict = some .finished ∧
      b.outlet (f.poll b c).outlets = e.dropSender := by
  cases b <;>
    simp [poll, future, hp, Producer.run, Producer.effort, Act.efforts, Act.effort, advance,
      State.step, State.perform, State.sendTo, h, again, Producer.next, Producer.finish,
      State.letGoSignals, State.letGoCompletion, Branch.outlet]

/-- What comes of a poll: the producer, and the channel after it. -/
inductive Polled (b : Branch) (f : Sending) (c : Channel) : Producer → Channel → Prop where
  | sent {p : Producer} {d : Channel} (verdict : p.verdict = some .finished)
      (listening : c.listening = true) (still : d.listening = true)
      (buffered : d.buffered = c.buffered + 1) (senders : d.senders = c.senders - 1) :
      Polled b f c p d
  | waits {d : Channel} (place : Option Ticket) (quiet : Channel.Quiet c d) :
      Polled b f c ({ f with place }.future b) d
  | refused {p : Producer} (verdict : p.verdict = some (.failed ⟨f.sender, b.channelName⟩))
      (deaf : c.listening = false) : Polled b f c p c.dropSender

theorem Polled.of_sent {p : Producer} {c d e : Channel} (verdict : p.verdict = some .finished)
    (quiet : Channel.Quiet c d) {place : Option Ticket} (h : d.pollSend place = (.sent, e)) :
    Polled b f c p e.dropSender := by
  obtain ⟨listening, buffered, senders, still⟩ := Channel.buffered_of_sent h
  refine .sent verdict ?_ (still.trans listening) ?_ ?_
  · rw [← quiet.listening, listening]
  · rw [← quiet.buffered]
    exact buffered
  · rw [← quiet.senders]
    exact congrArg (· - 1) senders

theorem polled (b : Branch) (f : Sending) (c : Channel) :
    Polled b f c (f.poll b c).producer (b.outlet (f.poll b c).outlets) := by
  rcases h : c.pollSend f.place with ⟨_ | t | _, d⟩
  · obtain ⟨verdict, channel⟩ := poll_of_sent (b := b) h
    rw [channel]
    exact .of_sent verdict (.refl c) h
  · cases hp : f.place with
    | some u =>
      rw [hp] at h
      obtain rfl := Channel.place_of_pollSend h
      obtain ⟨same, channel⟩ := poll_of_place (b := b) hp h
      rw [same, channel]
      exact .waits f.place (.refl c)
    | none =>
      rw [hp] at h
      have quiet := Channel.quiet_of_waiting h
      rcases again : d.pollSend (some t) with ⟨_ | u | _, e⟩
      · obtain ⟨verdict, channel⟩ := poll_of_lucky (b := b) hp h again
        rw [channel]
        exact .of_sent verdict quiet again
      · obtain ⟨rfl, rfl⟩ := Channel.eq_of_waiting again
        obtain ⟨same, channel⟩ := poll_of_fresh (b := b) hp h again
        rw [same, channel]
        exact .waits _ quiet
      · have heard := Channel.listening_of_waiting h
        have deaf := (Channel.eq_of_refused again).1
        rw [quiet.listening, heard] at deaf
        cases deaf
  · obtain ⟨verdict, channel⟩ := poll_of_refused (b := b) h
    obtain ⟨deaf, rfl⟩ := Channel.eq_of_refused h
    rw [channel]
    exact .refused verdict deaf

/-- The channel after a send is given up. -/
theorem outlet_abandon (b : Branch) (f : Sending) (c : Channel) :
    ∃ d, Channel.Quiet c d ∧ b.outlet ((f.future b).abandon ⟨c, c⟩) = d.dropSender := by
  cases hp : f.place with
  | none => exact ⟨c, .refl c, by cases b <;> simp [Producer.abandon, future, hp, Branch.outlet]⟩
  | some t =>
    exact ⟨c.withdraw t, .withdraw c t, by
      cases b <;> simp [Producer.abandon, future, hp, Branch.outlet]⟩

end Sending

/-! ## Lines -/

/-- A channel with what its clients hold and have begun. -/
structure Line where
  channel : Channel
  /-- The sending ends that are held, and not by a send. -/
  ends : Nat := 1
  pending : List Sending := []
  /-- The sends that have come through. -/
  acknowledged : Nat := 0
  deriving DecidableEq, Repr

namespace Line

/-- What the clients of a line can do. -/
inductive Act where
  /-- Begin a send, which is not polled yet. -/
  | begin (sender : String)
  | poll (i : Nat)
  | cancel (i : Nat)
  | clone
  | drop
  deriving DecidableEq, Repr

/-- The line after the send `f`, which is number `i`, is polled. -/
def settle (b : Branch) (l : Line) (i : Nat) (f : Sending) : Line :=
  let t := f.poll b l.channel
  let channel := b.outlet t.outlets
  match t.producer.verdict with
  | none => { l with channel, pending := l.pending.set i { f with place := t.producer.place } }
  | some .finished =>
    { l with channel, pending := l.pending.eraseIdx i, acknowledged := l.acknowledged + 1 }
  | some _ => { l with channel, pending := l.pending.eraseIdx i }

/-- One act on a line of branch `b`, undefined where the end or the send that it needs is missing. -/
def act (b : Branch) (l : Line) : Act → Option Line
  | .begin sender =>
    if 0 < l.ends then
      some { l with channel := l.channel.addSender, pending := l.pending ++ [{ sender }] }
    else none
  | .poll i => l.pending[i]?.map fun f => l.settle b i f
  | .cancel i =>
    l.pending[i]?.map fun f =>
      { l with channel := b.outlet ((f.future b).abandon ⟨l.channel, l.channel⟩)
               pending := l.pending.eraseIdx i }
  | .clone =>
    if 0 < l.ends then some { l with channel := l.channel.addSender, ends := l.ends + 1 } else none
  | .drop =>
    if 0 < l.ends then some { l with channel := l.channel.dropSender, ends := l.ends - 1 } else none

variable {b : Branch} {l m : Line} {a : Act}

/-! ## Items are acknowledged as they are buffered -/

/-- What no act changes, from `l` to `m`. -/
structure Keeps (l m : Line) : Prop where
  buffered : m.channel.buffered + l.acknowledged = l.channel.buffered + m.acknowledged
  more : l.acknowledged ≤ m.acknowledged
  listening : m.channel.listening = l.channel.listening
  deaf : l.channel.listening = false → m.acknowledged = l.acknowledged

theorem Keeps.of_quiet (quiet : Channel.Quiet l.channel m.channel)
    (same : m.acknowledged = l.acknowledged) : Keeps l m := by
  refine ⟨?_, Nat.le_of_eq same.symm, quiet.listening, fun _ => same⟩
  rw [quiet.buffered, same]

@[simp]
theorem verdict_future (b : Branch) (f : Sending) : (f.future b).verdict = none := by
  cases b <;> rfl

theorem keeps_settle (b : Branch) (l : Line) (i : Nat) (f : Sending) :
    Keeps l (l.settle b i f) := by
  have h := f.polled b l.channel
  unfold settle
  dsimp only
  generalize (f.poll b l.channel).producer = p at h ⊢
  generalize b.outlet (f.poll b l.channel).outlets = d at h ⊢
  cases h with
  | sent verdict listening still buffered senders =>
    rw [verdict]
    refine ⟨?_, Nat.le_succ _, still.trans listening.symm, fun deaf => ?_⟩
    · show d.buffered + l.acknowledged = l.channel.buffered + (l.acknowledged + 1)
      omega
    · rw [listening] at deaf
      cases deaf
  | waits place quiet =>
    rw [verdict_future]
    exact .of_quiet quiet rfl
  | refused verdict deaf =>
    rw [verdict]
    exact ⟨rfl, Nat.le_refl _, rfl, fun _ => rfl⟩

theorem keeps_of_act (h : l.act b a = some m) : Keeps l m := by
  cases a with
  | begin sender =>
    obtain ⟨-, ⟨⟩⟩ := Option.ite_none_right_eq_some.mp h
    exact ⟨rfl, Nat.le_refl _, rfl, fun _ => rfl⟩
  | poll i =>
    obtain ⟨f, -, rfl⟩ := Option.map_eq_some_iff.mp h
    exact keeps_settle b l i f
  | cancel i =>
    obtain ⟨f, -, rfl⟩ := Option.map_eq_some_iff.mp h
    obtain ⟨d, quiet, hd⟩ := f.outlet_abandon b l.channel
    refine ⟨?_, Nat.le_refl _, ?_, fun _ => rfl⟩
    · show (b.outlet _).buffered + _ = _
      rw [hd]
      exact congrArg (· + l.acknowledged) quiet.buffered
    · show (b.outlet _).listening = _
      rw [hd]
      exact quiet.listening
  | clone =>
    obtain ⟨-, ⟨⟩⟩ := Option.ite_none_right_eq_some.mp h
    exact ⟨rfl, Nat.le_refl _, rfl, fun _ => rfl⟩
  | drop =>
    obtain ⟨-, ⟨⟩⟩ := Option.ite_none_right_eq_some.mp h
    exact ⟨rfl, Nat.le_refl _, rfl, fun _ => rfl⟩

/-! ## Every end is held -/

/-- Every sending end is held by a client or by a send. -/
def Sound (l : Line) : Prop := l.channel.senders = l.ends + l.pending.length

theorem Sound.settle (sound : l.Sound) {i : Nat} {f : Sending} (hf : l.pending[i]? = some f) :
    (l.settle b i f).Sound := by
  have h := f.polled b l.channel
  have hi : i < l.pending.length := (List.getElem?_eq_some_iff.mp hf).1
  unfold Sound at sound ⊢
  unfold Line.settle
  dsimp only
  generalize (f.poll b l.channel).producer = p at h ⊢
  generalize b.outlet (f.poll b l.channel).outlets = d at h ⊢
  cases h with
  | sent verdict _ _ _ senders =>
    rw [verdict]
    show d.senders = l.ends + (l.pending.eraseIdx i).length
    rw [senders, List.length_eraseIdx_of_lt hi]
    omega
  | waits place quiet =>
    rw [verdict_future]
    show d.senders = l.ends + (l.pending.set i _).length
    rw [quiet.senders, List.length_set, sound]
  | refused verdict =>
    rw [verdict]
    show l.channel.senders - 1 = l.ends + (l.pending.eraseIdx i).length
    rw [List.length_eraseIdx_of_lt hi]
    omega

theorem Sound.act (sound : l.Sound) (h : l.act b a = some m) : m.Sound := by
  cases a with
  | begin sender =>
    obtain ⟨-, ⟨⟩⟩ := Option.ite_none_right_eq_some.mp h
    show l.channel.senders + 1 = l.ends + (l.pending ++ [_]).length
    rw [sound, List.length_append]
    rfl
  | poll i =>
    obtain ⟨f, hf, rfl⟩ := Option.map_eq_some_iff.mp h
    exact sound.settle hf
  | cancel i =>
    obtain ⟨f, hf, rfl⟩ := Option.map_eq_some_iff.mp h
    obtain ⟨d, quiet, hd⟩ := f.outlet_abandon b l.channel
    have hi : i < l.pending.length := (List.getElem?_eq_some_iff.mp hf).1
    show (b.outlet _).senders = l.ends + (l.pending.eraseIdx i).length
    rw [hd, List.length_eraseIdx_of_lt hi]
    show d.senders - 1 = _
    rw [quiet.senders, sound]
    omega
  | clone =>
    obtain ⟨-, ⟨⟩⟩ := Option.ite_none_right_eq_some.mp h
    show l.channel.senders + 1 = l.ends + 1 + l.pending.length
    rw [sound]
    omega
  | drop =>
    obtain ⟨some_end, ⟨⟩⟩ := Option.ite_none_right_eq_some.mp h
    show l.channel.senders - 1 = l.ends - 1 + l.pending.length
    rw [sound]
    omega

/-- Without a sending end nothing is done any more. -/
theorem Sound.act_eq_none (sound : l.Sound) (gone : l.channel.senders = 0) (b : Branch) (a : Act) :
    l.act b a = none := by
  unfold Sound at sound
  have no_end : l.ends = 0 := by omega
  have no_send : l.pending = [] := List.eq_nil_of_length_eq_zero (by omega)
  cases a <;> simp [Line.act, no_end, no_send]

end Line

end SharedCounter
