import Mathlib.Logic.Relation
import Mathlib.Tactic.Common
import SharedCounter.Channel

/-!
# Items and ends: what the operations of a channel leave alone

* `Quiet c d` : neither the items nor the ends differ, only the queue of sends
  (`Quiet.withdraw`, `Quiet.takePlace`);
* `buffered_of_sent`, `quiet_of_waiting`, `eq_of_refused` : the three ways in which an attempt to
  send can come out;
* `Drawn c d` : `d` is `c` after some items were taken. Drawing keeps the ends (`Drawn.senders_eq`,
  `Drawn.listening_eq`), it is undone by hanging up (`Drawn.hangUp_eq`), and it has only one end
  (`Drawn.eq_of_empty`).
-/

namespace SharedCounter.Channel

/-! ## The queue of sends moves no items -/

/-- Neither the items nor the ends differ. -/
structure Quiet (c d : Channel) : Prop where
  buffered : d.buffered = c.buffered
  senders : d.senders = c.senders
  listening : d.listening = c.listening

theorem Quiet.refl (c : Channel) : Quiet c c := ⟨rfl, rfl, rfl⟩

theorem Quiet.grant (c : Channel) : Quiet c c.grant := by
  unfold Channel.grant
  split
  · split <;> exact ⟨rfl, rfl, rfl⟩
  · exact ⟨rfl, rfl, rfl⟩

theorem Quiet.withdraw (c : Channel) (t : Ticket) : Quiet c (c.withdraw t) := by
  unfold Channel.withdraw
  split
  · have h := Quiet.grant { c with granted := c.granted.erase t }
    exact ⟨h.buffered, h.senders, h.listening⟩
  · exact ⟨rfl, rfl, rfl⟩

theorem Quiet.takePlace (c : Channel) : Quiet c c.takePlace := by
  unfold Channel.takePlace
  split <;> exact ⟨rfl, rfl, rfl⟩

/-! ## Attempts to send -/

/-- A send comes through only to a receiver that is there, and adds one item. -/
theorem buffered_of_sent {c d : Channel} {place : Option Ticket}
    (h : c.pollSend place = (.sent, d)) :
    c.listening = true ∧ d.buffered = c.buffered + 1 ∧ d.senders = c.senders ∧
      d.listening = c.listening := by
  unfold pollSend at h
  split at h
  next listening =>
    split at h <;> split at h
    · cases h; exact ⟨listening, rfl, rfl, rfl⟩
    · simp at h
    · cases h; exact ⟨listening, rfl, rfl, rfl⟩
    · simp at h
  next => simp at h

theorem quiet_of_waiting {c d : Channel} {place : Option Ticket} {t : Ticket}
    (h : c.pollSend place = (.waiting t, d)) : Quiet c d := by
  unfold pollSend at h
  split at h
  next =>
    split at h <;> split at h
    · simp at h
    · cases h; exact ⟨rfl, rfl, rfl⟩
    · simp at h
    · cases h; exact ⟨rfl, rfl, rfl⟩
  next => simp at h

theorem listening_of_waiting {c d : Channel} {place : Option Ticket} {t : Ticket}
    (h : c.pollSend place = (.waiting t, d)) : c.listening = true := by
  by_contra deaf
  unfold pollSend at h
  rw [if_neg deaf] at h
  simp at h

/-- A send that goes on waiting changes nothing. -/
theorem eq_of_waiting {c d : Channel} {t u : Ticket} (h : c.pollSend (some t) = (.waiting u, d)) :
    u = t ∧ d = c := by
  unfold pollSend at h
  split at h
  · dsimp only at h
    split at h
    · simp at h
    · cases h
      exact ⟨rfl, rfl⟩
  · simp at h

theorem eq_of_refused {c d : Channel} {place : Option Ticket}
    (h : c.pollSend place = (.refused, d)) : c.listening = false ∧ d = c := by
  unfold pollSend at h
  split at h
  next => split at h <;> split at h <;> simp at h
  next deaf => cases h; exact ⟨by simpa using deaf, rfl⟩

/-- Without a receiver every send is refused, whether it has waited, and even if it has a slot. -/
theorem pollSend_of_deaf {c : Channel} (h : c.listening = false) (place : Option Ticket) :
    c.pollSend place = (.refused, c) := by
  unfold pollSend
  rw [if_neg (by simp [h])]

/-! ## Taking items -/

theorem take?_eq_none_iff {c : Channel} : c.take? = none ↔ c.buffered = 0 := by
  unfold take?
  split <;> simp_all
  omega

/-- Only an empty channel that can still be sent on keeps a receiver waiting. -/
theorem receive_fst_eq_empty_iff {c : Channel} :
    c.receive.1 = .empty ↔ c.buffered = 0 ∧ c.senders ≠ 0 := by
  unfold receive
  split
  next d h =>
    have filled := buffered_of_take? h
    simp [filled]
  next h =>
    have empty := take?_eq_none_iff.mp h
    by_cases gone : c.senders = 0 <;> simp [empty, gone]

theorem senders_of_take? {c d : Channel} (h : c.take? = some d) : d.senders = c.senders := by
  unfold take? at h
  split at h
  · cases h
    exact (Quiet.grant _).senders
  · cases h

theorem listening_of_take? {c d : Channel} (h : c.take? = some d) : d.listening = c.listening := by
  unfold take? at h
  split at h
  · cases h
    exact (Quiet.grant _).listening
  · cases h

theorem hangUp_grant (c : Channel) : c.grant.hangUp = c.hangUp := by
  unfold grant
  split
  · split <;> rfl
  · rfl

theorem hangUp_of_take? {c d : Channel} (h : c.take? = some d) : d.hangUp = c.hangUp := by
  unfold take? at h
  split at h
  · cases h
    rw [hangUp_grant]
    rfl
  · cases h

/-- `d` is `c` after some items were taken. -/
def Drawn : Channel → Channel → Prop := Relation.ReflTransGen fun c d => c.take? = some d

theorem Drawn.refl (c : Channel) : Drawn c c := Relation.ReflTransGen.refl

theorem Drawn.take {c d e : Channel} (h : Drawn c d) (he : d.take? = some e) : Drawn c e :=
  Relation.ReflTransGen.tail h he

theorem Drawn.senders_eq {c d : Channel} (h : Drawn c d) : d.senders = c.senders := by
  induction h with
  | refl => rfl
  | tail _ hd ih => rw [senders_of_take? hd, ih]

theorem Drawn.listening_eq {c d : Channel} (h : Drawn c d) : d.listening = c.listening := by
  induction h with
  | refl => rfl
  | tail _ hd ih => rw [listening_of_take? hd, ih]

theorem Drawn.hangUp_eq {c d : Channel} (h : Drawn c d) : d.hangUp = c.hangUp := by
  induction h with
  | refl => rfl
  | tail _ hd ih => rw [hangUp_of_take? hd, ih]

theorem Drawn.buffered_le {c d : Channel} (h : Drawn c d) : d.buffered ≤ c.buffered := by
  induction h with
  | refl => exact Nat.le_refl _
  | tail _ hd ih =>
    have := buffered_of_take? hd
    omega

theorem Drawn.eq_or_lt {c d : Channel} (h : Drawn c d) : d = c ∨ d.buffered < c.buffered := by
  rcases Relation.ReflTransGen.cases_head h with rfl | ⟨e, taken, rest⟩
  · exact .inl rfl
  · have less := buffered_of_take? taken
    have le := Drawn.buffered_le rest
    exact .inr (by omega)

/-- Nothing is drawn from an empty channel. -/
theorem Drawn.eq_of_none {c d : Channel} (h : Drawn c d) (empty : c.buffered = 0) : d = c := by
  rcases Relation.ReflTransGen.cases_head h with rfl | ⟨e, he, -⟩
  · rfl
  · rw [take?_eq_none_iff.mpr empty] at he
    cases he

end SharedCounter.Channel
