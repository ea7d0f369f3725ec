import SharedCounter.Limits

/-!
# Bounded channels of unit items

A channel carries items that are all alike, so its buffer is a number. Sends wait in a fair queue.

* `Channel` : the buffer, the waiting sends, and who still holds an end;
* `Channel.free` : slots that are neither filled nor reserved;
* `pollSend` : one attempt of a send, which gets a `Ticket` when it has to wait;
* `takePlace` : a send takes its place in the queue without using the slot that it may get;
* `withdraw` : a waiting send is given up; its reserved slot goes to the next one;
* `take?`, `receive` : taking an item frees a slot, which is reserved at once for the send that
  has waited longest (`grant`);
* `hangUp` : the receiver goes, and every send fails from now on;
* `Channel.Sound` : slots are filled, reserved or free, and nobody waits beside a free slot. Every
  operation keeps it (`Sound.pollSend`, `Sound.takePlace`, `Sound.withdraw`, `Sound.take?`,
  `Sound.hangUp`).
-/

namespace SharedCounter

/-- The place of a send in the queue of a channel. -/
abbrev Ticket := Nat

/-- A bounded channel. -/
structure Channel where
  capacity : Nat
  /-- Items sent and not received. -/
  buffered : Nat := 0
  /-- Sends with a slot reserved for them, which have not used it. -/
  granted : List Ticket := []
  /-- Sends without a slot, the longest waiting first. -/
  waiting : List Ticket := []
  /-- Sending ends that are still held. -/
  senders : Nat := 1
  /-- Whether the receiving end is still held. -/
  listening : Bool := true
  nextTicket : Ticket := 0
  deriving DecidableEq, Repr

/-- What came of one attempt to send. -/
inductive SendPoll where
  | sent
  | waiting (place : Ticket)
  | refused
  deriving DecidableEq, Repr

/-- What came of one attempt to receive. -/
inductive Receipt where
  | item
  | empty
  | closed
  deriving DecidableEq, Repr

namespace Channel

/-- A new channel, for which `requested` slots were asked. -/
def create (requested : Nat) : Channel := { capacity := clampSlots requested }

/-- The slots that are neither filled nor reserved. -/
def free (c : Channel) : Nat := c.capacity - (c.buffered + c.granted.length)

/-- Reserves a free slot for the send that has waited longest. -/
def grant (c : Channel) : Channel :=
  match c.waiting with
  | t :: ts => if 0 < c.free then { c with granted := c.granted ++ [t], waiting := ts } else c
  | [] => c

/-- One attempt of a send, which waits at `place` if it has tried before. Without a free slot a new
send joins the end of the queue; a waiting one gets through only on a slot reserved for it. -/
def pollSend (c : Channel) (place : Option Ticket) : SendPoll × Channel :=
  if c.listening then
    match place with
    | none =>
      if 0 < c.free then (.sent, { c with buffered := c.buffered + 1 })
      else (.waiting c.nextTicket,
        { c with waiting := c.waiting ++ [c.nextTicket], nextTicket := c.nextTicket + 1 })
    | some t =>
      if t ∈ c.granted then
        (.sent, { c with granted := c.granted.erase t, buffered := c.buffered + 1 })
      else (.waiting t, c)
  else (.refused, c)

/-- A new send takes a place, at `nextTicket`, and uses no slot yet: a free slot is reserved for it,
and otherwise it waits for one. -/
def takePlace (c : Channel) : Channel :=
  if 0 < c.free then
    { c with granted := c.granted ++ [c.nextTicket], nextTicket := c.nextTicket + 1 }
  else { c with waiting := c.waiting ++ [c.nextTicket], nextTicket := c.nextTicket + 1 }

/-- Gives up the send that waits at `t`. A slot reserved for it passes to the next one. -/
def withdraw (c : Channel) (t : Ticket) : Channel :=
  if t ∈ c.granted then grant { c with granted := c.granted.erase t }
  else { c with waiting := c.waiting.erase t }

/-- Takes an item out of the buffer, if there is one. -/
def take? (c : Channel) : Option Channel :=
  if 0 < c.buffered then some (grant { c with buffered := c.buffered - 1 }) else none

/-- One attempt to receive. The channel is closed once it is empty and no sending end is held. -/
def receive (c : Channel) : Receipt × Channel :=
  match c.take? with
  | some d => (.item, d)
  | none => (if c.senders = 0 then .closed else .empty, c)

/-- One more sending end is held. -/
def addSender (c : Channel) : Channel := { c with senders := c.senders + 1 }

/-- One sending end is let go. -/
def dropSender (c : Channel) : Channel := { c with senders := c.senders - 1 }

/-- The receiving end is let go: what was buffered is lost and nobody waits any more. -/
def hangUp (c : Channel) : Channel :=
  { c with listening := false, buffered := 0, granted := [], waiting := [] }

/-! ## Slots are conserved -/

/-- No more slots are used than there are, and nobody waits beside a free slot. -/
structure Sound (c : Channel) : Prop where
  used_le : c.buffered + c.granted.length ≤ c.capacity
  full_of_waiting : c.waiting ≠ [] → c.free = 0

theorem Sound.conserved {c : Channel} (h : c.Sound) :
    c.buffered + c.granted.length + c.free = c.capacity := by
  have := h.used_le
  unfold free; omega

theorem Sound.create (n : Nat) : (create n).Sound :=
  ⟨Nat.zero_le _, fun h => absurd rfl h⟩

@[simp]
theorem capacity_grant (c : Channel) : c.grant.capacity = c.capacity := by
  unfold grant; split <;> (try split) <;> rfl

@[simp]
theorem buffered_grant (c : Channel) : c.grant.buffered = c.buffered := by
  unfold grant; split <;> (try split) <;> rfl

/-- Reserving restores soundness when at most one slot has come free. -/
theorem Sound.grant {c : Channel} (used_le : c.buffered + c.granted.length ≤ c.capacity)
    (one : c.waiting ≠ [] → c.free ≤ 1) : c.grant.Sound := by
  unfold Channel.grant
  split
  next t ts hw =>
    have := one (by simp [hw])
    split
    · constructor <;> simp only [free, List.length_append, List.length_singleton] at * <;> omega
    · exact ⟨used_le, fun _ => by omega⟩
  next hw => exact ⟨used_le, fun h => absurd hw h⟩

theorem Sound.pollSend {c : Channel} (h : c.Sound) (place : Option Ticket) :
    (c.pollSend place).2.Sound := by
  have hu := h.used_le
  unfold Channel.pollSend
  split
  · split
    · split
      · rename_i hf
        refine ⟨by simp only [free] at *; omega, fun hw => ?_⟩
        have := h.full_of_waiting hw
        omega
      · exact ⟨hu, fun _ => by simp only [free] at *; omega⟩
    · split
      · rename_i t ht
        have hl := List.length_erase_of_mem ht
        have := List.length_pos_of_mem ht
        refine ⟨by simp only [hl]; omega, fun hw => ?_⟩
        have := h.full_of_waiting hw
        simp only [free, hl] at *; omega
      · exact h
  · exact h

theorem Sound.takePlace {c : Channel} (h : c.Sound) : c.takePlace.Sound := by
  have hu := h.used_le
  unfold Channel.takePlace
  split
  · refine ⟨?_, fun hw => ?_⟩
    · simp only [free, List.length_append, List.length_singleton] at *; omega
    · have := h.full_of_waiting hw
      omega
  · exact ⟨hu, fun _ => by simp only [free] at *; omega⟩

theorem Sound.withdraw {c : Channel} (h : c.Sound) (t : Ticket) : (c.withdraw t).Sound := by
  have hu := h.used_le
  unfold Channel.withdraw
  split
  · rename_i ht
    have hl := List.length_erase_of_mem ht
    have := List.length_pos_of_mem ht
    refine Sound.grant (by simp only [hl]; omega) fun hw => ?_
    have := h.full_of_waiting hw
    simp only [free, hl] at *; omega
  · refine ⟨hu, fun hw => h.full_of_waiting fun hn => hw ?_⟩
    simp [hn]

theorem Sound.take? {c d : Channel} (h : c.Sound) (hd : c.take? = some d) : d.Sound := by
  have hu := h.used_le
  unfold Channel.take? at hd
  split at hd
  · cases hd
    refine Sound.grant (by simp only; omega) fun hw => ?_
    have := h.full_of_waiting hw
    simp only [free] at *; omega
  · exact nomatch hd

theorem Sound.hangUp {c : Channel} : c.hangUp.Sound :=
  ⟨Nat.zero_le _, fun h => absurd rfl h⟩

/-- A send that goes on waiting keeps its place. -/
theorem place_of_pollSend {c d : Channel} {t u : Ticket}
    (h : c.pollSend (some t) = (.waiting u, d)) : u = t := by
  unfold pollSend at h
  repeat' split at h
  all_goals simp_all

theorem take?_of_receive {c d : Channel} (h : c.receive = (.item, d)) : c.take? = some d := by
  unfold receive at h
  split at h
  next he => cases h; exact he
  next => split at h <;> simp at h

/-- Only an empty channel without senders is closed. -/
theorem receive_closed_iff {c d : Channel} :
    c.receive = (.closed, d) ↔ c.buffered = 0 ∧ c.senders = 0 ∧ d = c := by
  unfold receive take?
  split
  next h => split at h <;> simp_all; omega
  next h =>
    split at h <;> simp_all
    grind

theorem buffered_of_take? {c d : Channel} (h : c.take? = some d) :
    c.buffered = d.buffered + 1 := by
  unfold take? at h
  split at h
  · cases h; simp only [buffered_grant]; omega
  · exact nomatch h

end Channel

end SharedCounter
