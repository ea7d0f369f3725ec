import Mathlib.Data.List.Nodup
import Mathlib.Logic.Function.Basic
import SharedCounter.Proofs.Channel.Items

/-!
# The queue of a channel

* `Channel.queue` : the sends that have a place, those with a slot first. Reserving leaves it as it
  is, so taking an item does (`queue_of_take?`); a send leaves it when it comes through
  (`queue_of_sent`) and joins its end when it has to wait (`queue_of_waiting`, `queue_takePlace`);
* `Calm c d` : no item moves from `c` to `d`, as when a send takes its place or is given up;
* `Attended c place` : the places in the queue of `c` are those at which somebody waits, each of
  them alone;
* `Tended c place` : the slots are in order, and the queue is as long as somebody listens. Every
  operation keeps it;
* `Tended.exists_granted` : if somebody waits at an empty channel, then somebody has a slot;
* `mem_granted_of_drawn` : taking an item gives a slot to the send that has waited longest.
-/

namespace SharedCounter.Channel

variable {c d : Channel} {t : Ticket}

/-- The sends that have a place. -/
def queue (c : Channel) : List Ticket := c.granted ++ c.waiting

/-! ## Who joins and who leaves -/

@[simp]
theorem queue_grant (c : Channel) : c.grant.queue = c.queue := by
  unfold grant
  split
  next u us waiting =>
    split
    · simp [queue, waiting]
    · rfl
  next => rfl

@[simp]
theorem nextTicket_grant (c : Channel) : c.grant.nextTicket = c.nextTicket := by
  unfold grant
  split
  · split <;> rfl
  · rfl

theorem of_take? (h : c.take? = some d) :
    d = grant { c with buffered := c.buffered - 1 } ∧ 0 < c.buffered := by
  obtain ⟨filled, ⟨⟩⟩ := Option.ite_none_right_eq_some.mp h
  exact ⟨rfl, filled⟩

theorem queue_of_take? (h : c.take? = some d) : d.queue = c.queue := by
  obtain ⟨rfl, -⟩ := of_take? h
  exact queue_grant _

theorem nextTicket_of_take? (h : c.take? = some d) : d.nextTicket = c.nextTicket := by
  obtain ⟨rfl, -⟩ := of_take? h
  exact nextTicket_grant _

theorem capacity_of_take? (h : c.take? = some d) : d.capacity = c.capacity := by
  obtain ⟨rfl, -⟩ := of_take? h
  exact capacity_grant _

@[simp]
theorem capacity_pollSend (c : Channel) (place : Option Ticket) :
    (c.pollSend place).2.capacity = c.capacity := by
  unfold pollSend
  split
  · split <;> split <;> rfl
  · rfl

@[simp]
theorem senders_pollSend (c : Channel) (place : Option Ticket) :
    (c.pollSend place).2.senders = c.senders := by
  unfold pollSend
  split
  · split <;> split <;> rfl
  · rfl

@[simp]
theorem listening_pollSend (c : Channel) (place : Option Ticket) :
    (c.pollSend place).2.listening = c.listening := by
  unfold pollSend
  split
  · split <;> split <;> rfl
  · rfl

@[simp]
theorem capacity_takePlace (c : Channel) : c.takePlace.capacity = c.capacity := by
  unfold takePlace
  split <;> rfl

@[simp]
theorem capacity_withdraw (c : Channel) (t : Ticket) : (c.withdraw t).capacity = c.capacity := by
  unfold withdraw
  split
  · exact capacity_grant _
  · rfl

/-- A send that comes through leaves the queue, if it had a place. -/
theorem queue_of_sent {place : Option Ticket} (h : c.pollSend place = (.sent, d)) :
    d.queue = place.elim c.queue c.queue.erase ∧ d.nextTicket = c.nextTicket := by
  unfold pollSend at h
  split at h
  · cases place with
    | none =>
      dsimp only at h
      split at h
      · cases h
        exact ⟨rfl, rfl⟩
      · simp at h
    | some t =>
      dsimp only at h
      split at h
      next granted =>
        cases h
        exact ⟨(List.erase_append_left _ granted).symm, rfl⟩
      next => simp at h
  · simp at h

/-- A new send that has to wait joins the end of the queue. -/
theorem queue_of_waiting (h : c.pollSend none = (.waiting t, d)) :
    t = c.nextTicket ∧ d.queue = c.queue ++ [c.nextTicket] ∧ d.nextTicket = c.nextTicket + 1 := by
  unfold pollSend at h
  split at h
  · dsimp only at h
    split at h
    · simp at h
    · cases h
      exact ⟨rfl, (List.append_assoc _ _ _).symm, rfl⟩
  · simp at h

theorem queue_takePlace (sound : c.Sound) :
    c.takePlace.queue = c.queue ++ [c.nextTicket] ∧ c.takePlace.nextTicket = c.nextTicket + 1 := by
  unfold takePlace
  split
  next free =>
    have nobody : c.waiting = [] := by
      by_contra waiting
      have := sound.full_of_waiting waiting
      omega
    exact ⟨by simp [queue, nobody], rfl⟩
  next => exact ⟨(List.append_assoc _ _ _).symm, rfl⟩

/-! ## Slots -/

theorem Sound.dropSender (h : c.Sound) : c.dropSender.Sound := ⟨h.used_le, h.full_of_waiting⟩

/-- No item moves: only the queue and the sending ends may differ. -/
structure Calm (c d : Channel) : Prop where
  buffered : d.buffered = c.buffered
  listening : d.listening = c.listening
  capacity : d.capacity = c.capacity
  sound : c.Sound → d.Sound

theorem Calm.refl (c : Channel) : Calm c c := ⟨rfl, rfl, rfl, id⟩

theorem Calm.dropSender {c d : Channel} (h : Calm c d) : Calm c d.dropSender :=
  ⟨h.buffered, h.listening, h.capacity, fun sound => (h.sound sound).dropSender⟩

theorem Calm.withdraw (c : Channel) (t : Ticket) : Calm c (c.withdraw t) where
  buffered := (Quiet.withdraw c t).buffered
  listening := (Quiet.withdraw c t).listening
  capacity := capacity_withdraw c t
  sound h := h.withdraw t

theorem Calm.takePlace (c : Channel) : Calm c c.takePlace where
  buffered := (Quiet.takePlace c).buffered
  listening := (Quiet.takePlace c).listening
  capacity := capacity_takePlace c
  sound h := h.takePlace

theorem pollSend_of_granted (listening : c.listening = true) (granted : t ∈ c.granted) :
    ∃ d, c.pollSend (some t) = (.sent, d) :=
  ⟨_, by unfold pollSend; rw [if_pos listening]; exact if_pos granted⟩

/-- A send goes on waiting only without a slot. -/
theorem not_granted_of_waiting {u : Ticket} (h : c.pollSend (some t) = (.waiting u, d)) :
    t ∉ c.granted := by
  intro granted
  obtain ⟨e, sent⟩ := pollSend_of_granted (listening_of_waiting h) granted
  rw [sent] at h
  cases h

/-- Nobody gets a slot because somebody else sends. -/
theorem granted_pollSend_subset (c : Channel) (place : Option Ticket) :
    (c.pollSend place).2.granted ⊆ c.granted := by
  unfold pollSend
  split
  · split
    · split <;> exact List.Subset.refl _
    · split
      · exact List.erase_subset
      · exact List.Subset.refl _
  · exact List.Subset.refl _

theorem pollSend_of_not_granted (listening : c.listening = true) (not_granted : t ∉ c.granted) :
    c.pollSend (some t) = (.waiting t, c) := by
  unfold pollSend
  rw [if_pos listening]
  exact if_neg not_granted

theorem granted_subset_grant (c : Channel) : c.granted ⊆ c.grant.granted := by
  unfold grant
  split
  · split
    · exact List.subset_append_left _ _
    · exact fun _ h => h
  · exact fun _ h => h

theorem granted_subset_of_drawn (h : Drawn c d) : c.granted ⊆ d.granted := by
  induction h with
  | refl => exact fun _ h => h
  | tail _ taken ih =>
    obtain ⟨rfl, -⟩ := of_take? taken
    exact fun _ h => granted_subset_grant _ (ih h)

/-- Taking an item gives a slot to the send that has waited longest. -/
theorem mem_granted_of_take? (sound : c.Sound) (first : c.waiting.head? = some t)
    (h : c.take? = some d) : t ∈ d.granted := by
  obtain ⟨rfl, filled⟩ := of_take? h
  obtain ⟨rest, waiting⟩ := List.head?_eq_some_iff.mp first
  have used := sound.used_le
  have free : 0 < free { c with buffered := c.buffered - 1 } := by
    simp only [Channel.free]
    omega
  have granted : grant { c with buffered := c.buffered - 1 }
      = { c with buffered := c.buffered - 1, granted := c.granted ++ [t], waiting := rest } := by
    unfold grant
    split
    next u us hw =>
      obtain ⟨rfl, rfl⟩ := List.cons.inj (waiting.symm.trans hw)
      exact if_pos free
    next hw => cases waiting.symm.trans hw
  rw [granted]
  exact List.mem_append_right _ (List.mem_singleton_self t)

theorem mem_granted_of_drawn (sound : c.Sound) (first : c.waiting.head? = some t)
    (h : Drawn c d) (less : d.buffered < c.buffered) : t ∈ d.granted := by
  rcases Relation.ReflTransGen.cases_head h with rfl | ⟨e, taken, rest⟩
  · exact absurd less (Nat.lt_irrefl _)
  · exact granted_subset_of_drawn rest (mem_granted_of_take? sound first taken)

/-! ## Who waits -/

section

variable {ι : Type} {place : ι → Option Ticket}

/-- The places in the queue are those at which somebody waits, and everybody waits alone. -/
structure Attended (c : Channel) (place : ι → Option Ticket) : Prop where
  mem_iff : ∀ t, t ∈ c.queue ↔ ∃ i, place i = some t
  alone : ∀ i j t, place i = some t → place j = some t → i = j
  nodup : c.queue.Nodup
  fresh : ∀ t ∈ c.queue, t < c.nextTicket

theorem Attended.congr (h : c.Attended place) (queue : d.queue = c.queue)
    (nextTicket : d.nextTicket = c.nextTicket) : d.Attended place := by
  obtain ⟨mem_iff, alone, nodup, fresh⟩ := h
  rw [← queue] at mem_iff nodup fresh
  rw [← nextTicket] at fresh
  exact ⟨mem_iff, alone, nodup, fresh⟩

/-- The slots are in order, and while somebody listens the queue is. -/
structure Tended (c : Channel) (place : ι → Option Ticket) : Prop where
  sound : c.Sound
  roomy : 0 < c.capacity
  attended : c.listening = true → c.Attended place

theorem Tended.create (n : Nat) : (create n).Tended fun _ : ι => none where
  sound := .create n
  roomy := clampSlots_pos n
  attended _ := by constructor <;> simp [queue, Channel.create]

/-- Without a receiver nobody is in the queue, whoever waits. -/
theorem Tended.of_deaf {place' : ι → Option Ticket} (h : c.Tended place)
    (deaf : c.listening = false) : c.Tended place' := by
  refine ⟨h.sound, h.roomy, fun listening => ?_⟩
  rw [deaf] at listening
  cases listening

theorem Tended.withSenders (h : c.Tended place) (n : Nat) : { c with senders := n }.Tended place :=
  ⟨⟨h.sound.used_le, h.sound.full_of_waiting⟩, h.roomy,
    fun listening => (h.attended listening).congr rfl rfl⟩

theorem Tended.dropSender (h : c.Tended place) : c.dropSender.Tended place := h.withSenders _

theorem Tended.drawn (h : c.Tended place) (drawn : Drawn c d) : d.Tended place := by
  induction drawn with
  | refl => exact h
  | tail _ taken ih =>
    refine ⟨ih.sound.take? taken, ?_, fun listening => ?_⟩
    · rw [capacity_of_take? taken]
      exact ih.roomy
    · rw [listening_of_take? taken] at listening
      exact (ih.attended listening).congr (queue_of_take? taken) (nextTicket_of_take? taken)

theorem Tended.hangUp (h : c.Tended place) : c.hangUp.Tended place :=
  ⟨.hangUp, h.roomy, by rintro ⟨⟩⟩

variable {i : ι}

/-- If somebody waits at an empty channel, then somebody has a slot. -/
theorem Tended.exists_granted (h : c.Tended place) (listening : c.listening = true)
    (empty : c.buffered = 0) (waits : place i = some t) :
    ∃ j u, place j = some u ∧ u ∈ c.granted := by
  have attended := h.attended listening
  have some_granted : ∃ u, u ∈ c.granted := by
    rcases List.mem_append.mp ((attended.mem_iff t).mpr ⟨i, waits⟩) with granted | waiting
    · exact ⟨t, granted⟩
    · have full := h.sound.full_of_waiting (List.ne_nil_of_mem waiting)
      have conserved := h.sound.conserved
      have roomy := h.roomy
      exact List.exists_mem_of_length_pos (by omega)
  obtain ⟨u, granted⟩ := some_granted
  obtain ⟨j, hj⟩ := (attended.mem_iff u).mp (List.mem_append_left _ granted)
  exact ⟨j, u, hj, granted⟩

theorem Attended.mem_waiting (h : c.Attended place) (waits : place i = some t)
    (not_granted : t ∉ c.granted) : t ∈ c.waiting :=
  (List.mem_append.mp ((h.mem_iff t).mpr ⟨i, waits⟩)).resolve_left not_granted

/-- Behind somebody who waits, a place comes without a slot. -/
theorem Tended.granted_takePlace (h : c.Tended place) (listening : c.listening = true)
    (waits : place i = some t) (not_granted : t ∉ c.granted) :
    c.takePlace.granted = c.granted := by
  have waiting := (h.attended listening).mem_waiting waits not_granted
  have full := h.sound.full_of_waiting (List.ne_nil_of_mem waiting)
  unfold Channel.takePlace
  rw [if_neg (by omega)]

/-- Who waits alone and without a slot is first in line. -/
theorem Attended.first_of_alone (h : c.Attended place) (waits : place i = some t)
    (alone : ∀ j, j ≠ i → place j = none) (not_granted : t ∉ c.granted) :
    c.waiting.head? = some t := by
  have waiting := h.mem_waiting waits not_granted
  obtain ⟨u, rest, hw⟩ := List.exists_cons_of_ne_nil (List.ne_nil_of_mem waiting)
  have queued : u ∈ c.queue := List.mem_append_right _ (by rw [hw]; exact List.mem_cons_self)
  obtain ⟨j, hj⟩ := (h.mem_iff u).mp queued
  have same : j = i := by
    by_contra other
    rw [alone j other] at hj
    cases hj
  rw [same, waits] at hj
  rw [hw, Option.some.inj hj]
  rfl

/-! ## Sends join and leave -/

variable [DecidableEq ι]

theorem Attended.leave (h : c.Attended place) (waits : place i = some t)
    (queue : d.queue = c.queue.erase t) (nextTicket : d.nextTicket = c.nextTicket) :
    d.Attended (Function.update place i none) := by
  refine ⟨fun u => ?_, fun j k u hj hk => ?_, ?_, fun u hu => ?_⟩
  · rw [queue, h.nodup.mem_erase_iff, h.mem_iff]
    constructor
    · rintro ⟨ne, j, hj⟩
      have other : j ≠ i := by
        rintro rfl
        exact ne (Option.some.inj (hj.symm.trans waits))
      exact ⟨j, by rw [Function.update_of_ne other]; exact hj⟩
    · rintro ⟨j, hj⟩
      have other : j ≠ i := by
        rintro rfl
        rw [Function.update_self] at hj
        cases hj
      rw [Function.update_of_ne other] at hj
      refine ⟨?_, j, hj⟩
      rintro rfl
      exact other (h.alone j i u hj waits)
  · by_cases hji : j = i
    · rw [hji, Function.update_self] at hj
      cases hj
    · by_cases hki : k = i
      · rw [hki, Function.update_self] at hk
        cases hk
      · rw [Function.update_of_ne hji] at hj
        rw [Function.update_of_ne hki] at hk
        exact h.alone j k u hj hk
  · rw [queue]
    exact h.nodup.erase t
  · rw [queue] at hu
    rw [nextTicket]
    exact h.fresh u (List.mem_of_mem_erase hu)

theorem Attended.join (h : c.Attended place) (new : place i = none)
    (queue : d.queue = c.queue ++ [c.nextTicket]) (nextTicket : d.nextTicket = c.nextTicket + 1) :
    d.Attended (Function.update place i (some c.nextTicket)) := by
  have unused : ∀ j, place j ≠ some c.nextTicket := by
    intro j hj
    exact Nat.lt_irrefl _ (h.fresh _ ((h.mem_iff _).mpr ⟨j, hj⟩))
  refine ⟨fun u => ?_, fun j k u hj hk => ?_, ?_, fun u hu => ?_⟩
  · rw [queue, List.mem_append, h.mem_iff, List.mem_singleton]
    constructor
    · rintro (⟨j, hj⟩ | rfl)
      · have other : j ≠ i := by
          rintro rfl
          rw [new] at hj
          cases hj
        exact ⟨j, by rw [Function.update_of_ne other]; exact hj⟩
      · exact ⟨i, Function.update_self _ _ _⟩
    · rintro ⟨j, hj⟩
      by_cases hji : j = i
      · rw [hji, Function.update_self] at hj
        exact .inr (Option.some.inj hj).symm
      · rw [Function.update_of_ne hji] at hj
        exact .inl ⟨j, hj⟩
  · by_cases hji : j = i
    · by_cases hki : k = i
      · rw [hji, hki]
      · rw [hji, Function.update_self] at hj
        rw [Function.update_of_ne hki] at hk
        exact absurd (hk.trans hj.symm) (unused k)
    · rw [Function.update_of_ne hji] at hj
      by_cases hki : k = i
      · rw [hki, Function.update_self] at hk
        exact absurd (hj.trans hk.symm) (unused j)
      · rw [Function.update_of_ne hki] at hk
        exact h.alone j k u hj hk
  · rw [queue, List.nodup_append_comm]
    refine List.nodup_cons.mpr ⟨fun used => ?_, h.nodup⟩
    exact Nat.lt_irrefl _ (h.fresh _ used)
  · rw [queue, List.mem_append, List.mem_singleton] at hu
    rw [nextTicket]
    rcases hu with old | rfl
    · exact Nat.lt_succ_of_lt (h.fresh u old)
    · exact Nat.lt_succ_self _

theorem Tended.sent (h : c.Tended place) (poll : c.pollSend (place i) = (.sent, d)) :
    d.Tended (Function.update place i none) := by
  obtain ⟨listening, -, -, -⟩ := buffered_of_sent poll
  obtain ⟨queue, nextTicket⟩ := queue_of_sent poll
  have sound := h.sound.pollSend (place i)
  have capacity := capacity_pollSend c (place i)
  rw [poll] at sound capacity
  refine ⟨sound, Nat.lt_of_lt_of_eq h.roomy capacity.symm, fun _ => ?_⟩
  have attended := h.attended listening
  cases waits : place i with
  | none =>
    rw [waits] at queue
    rw [← waits, Function.update_eq_self]
    exact attended.congr queue nextTicket
  | some t =>
    rw [waits] at queue
    exact attended.leave waits queue nextTicket

theorem Tended.waits (h : c.Tended place) (new : place i = none)
    (poll : c.pollSend none = (.waiting t, d)) : d.Tended (Function.update place i (some t)) := by
  obtain ⟨rfl, queue, nextTicket⟩ := queue_of_waiting poll
  have sound := h.sound.pollSend none
  have capacity := capacity_pollSend c none
  rw [poll] at sound capacity
  exact ⟨sound, Nat.lt_of_lt_of_eq h.roomy capacity.symm, fun _ =>
    (h.attended (listening_of_waiting poll)).join new queue nextTicket⟩

theorem Tended.takePlace (h : c.Tended place) (new : place i = none) :
    c.takePlace.Tended (Function.update place i (some c.nextTicket)) := by
  obtain ⟨queue, nextTicket⟩ := queue_takePlace h.sound
  refine ⟨h.sound.takePlace, ?_, fun listening => ?_⟩
  · rw [capacity_takePlace]
    exact h.roomy
  · rw [(Quiet.takePlace c).listening] at listening
    exact (h.attended listening).join new queue nextTicket

end

end SharedCounter.Channel
