import SharedCounter.Proofs.Channel.Queue

/-!
# The order of the queue

* `InLine` : nobody is in the queue twice, and those who wait are in the order of their coming.
  Every operation keeps it, because a send leaves the queue (`InLine.of_sublist`) or joins its end
  (`InLine.join`);
* `Fair c d` : from `c` to `d` only the send that has waited longest gets a slot. Every operation is
  fair (`Fair.pollSend`, `Fair.withdraw`, `Fair.take?`, `Fair.hangUp`);
* `Pushed c d` : what the side of the senders does to a channel, which is fair and keeps the slots
  (`Pushed.fair`, `Pushed.sound`, `Pushed.inLine`);
* `free_of_waiting` : a send waits only when no slot is free;
* `granted_or_waiting_of_sent` : a send overtakes nobody.
-/

namespace SharedCounter.Channel

variable {c d : Channel} {t : Ticket}

/-! ## The queue of sends is in order -/

theorem queue_withdraw (c : Channel) (t : Ticket) : (c.withdraw t).queue = c.queue.erase t := by
  unfold withdraw
  split
  next granted =>
    rw [queue_grant]
    exact (List.erase_append_left _ granted).symm
  next not_granted => exact (List.erase_append_right _ not_granted).symm

@[simp]
theorem nextTicket_withdraw (c : Channel) (t : Ticket) :
    (c.withdraw t).nextTicket = c.nextTicket := by
  unfold withdraw
  split
  · exact nextTicket_grant _
  · rfl

/-- Nobody is in the queue twice, and those who wait came one after the other. -/
structure InLine (c : Channel) : Prop where
  nodup : c.queue.Nodup
  fresh : ∀ t ∈ c.queue, t < c.nextTicket
  sorted : c.waiting.Pairwise (· < ·)

theorem InLine.create (n : Nat) : (create n).InLine := by
  constructor <;> simp [queue, Channel.create]

theorem InLine.congr (h : c.InLine) (granted : d.granted = c.granted)
    (waiting : d.waiting = c.waiting) (nextTicket : d.nextTicket = c.nextTicket) : d.InLine := by
  obtain ⟨nodup, fresh, sorted⟩ := h
  unfold queue at nodup fresh
  rw [← granted, ← waiting] at nodup fresh
  rw [← nextTicket] at fresh
  rw [← waiting] at sorted
  exact ⟨nodup, fresh, sorted⟩

theorem InLine.of_sublist (h : c.InLine) (queue : d.queue.Sublist c.queue)
    (waiting : d.waiting.Sublist c.waiting) (nextTicket : d.nextTicket = c.nextTicket) :
    d.InLine where
  nodup := h.nodup.sublist queue
  fresh t ht := by
    rw [nextTicket]
    exact h.fresh t (queue.subset ht)
  sorted := h.sorted.sublist waiting

/-- A place at the end of the queue, with a number of its own. -/
theorem InLine.join (h : c.InLine) (queue : d.queue = c.queue ++ [c.nextTicket])
    (waiting : d.waiting = c.waiting ++ [c.nextTicket])
    (nextTicket : d.nextTicket = c.nextTicket + 1) : d.InLine := by
  refine ⟨?_, fun t ht => ?_, ?_⟩
  · rw [queue, List.nodup_append_comm]
    exact List.nodup_cons.mpr ⟨fun used => Nat.lt_irrefl _ (h.fresh _ used), h.nodup⟩
  · rw [queue, List.mem_append, List.mem_singleton] at ht
    rw [nextTicket]
    rcases ht with old | rfl
    · exact Nat.lt_succ_of_lt (h.fresh t old)
    · exact Nat.lt_succ_self _
  · rw [waiting]
    refine List.pairwise_append.mpr ⟨h.sorted, List.pairwise_singleton _ _, fun t ht u hu => ?_⟩
    rw [List.mem_singleton.mp hu]
    exact h.fresh t (List.mem_append_right _ ht)

/-- A new send waits when no slot is free, at the end of the queue. -/
theorem of_new_waiting (h : c.pollSend none = (.waiting t, d)) :
    c.free = 0 ∧ t = c.nextTicket ∧
      d = { c with waiting := c.waiting ++ [c.nextTicket], nextTicket := c.nextTicket + 1 } := by
  have listening := listening_of_waiting h
  unfold pollSend at h
  rw [if_pos listening] at h
  dsimp only at h
  split at h
  next => simp at h
  next full =>
    cases h
    exact ⟨by omega, rfl, rfl⟩

theorem waiting_of_sent {place : Option Ticket} (h : c.pollSend place = (.sent, d)) :
    d.waiting = c.waiting := by
  unfold pollSend at h
  split at h
  · split at h <;> split at h <;> cases h <;> rfl
  · simp at h

theorem waiting_grant_sublist (c : Channel) : c.grant.waiting.Sublist c.waiting := by
  unfold grant
  split
  next u us waiting =>
    split
    · rw [waiting]
      exact List.sublist_cons_self _ _
    · exact List.Sublist.refl _
  next => exact List.Sublist.refl _

theorem waiting_withdraw_sublist (c : Channel) (t : Ticket) :
    (c.withdraw t).waiting.Sublist c.waiting := by
  unfold withdraw
  split
  · exact waiting_grant_sublist _
  · exact List.erase_sublist

theorem waiting_sublist_of_take? (h : c.take? = some d) : d.waiting.Sublist c.waiting := by
  obtain ⟨rfl, -⟩ := of_take? h
  exact waiting_grant_sublist _

theorem InLine.pollSend (h : c.InLine) (place : Option Ticket) : (c.pollSend place).2.InLine := by
  rcases poll : c.pollSend place with ⟨_ | t | _, d⟩
  · obtain ⟨queue, nextTicket⟩ := queue_of_sent poll
    have waiting := waiting_of_sent poll
    refine h.of_sublist ?_ (waiting ▸ List.Sublist.refl _) nextTicket
    show d.queue.Sublist c.queue
    rw [queue]
    cases place with
    | none => exact List.Sublist.refl _
    | some t => exact List.erase_sublist
  · cases place with
    | none =>
      obtain ⟨-, -, rfl⟩ := of_new_waiting poll
      exact h.join (List.append_assoc _ _ _).symm rfl rfl
    | some u =>
      obtain ⟨-, rfl⟩ := eq_of_waiting poll
      exact h
  · obtain ⟨-, rfl⟩ := eq_of_refused poll
    exact h

theorem InLine.withdraw (h : c.InLine) (t : Ticket) : (c.withdraw t).InLine := by
  refine h.of_sublist ?_ (waiting_withdraw_sublist c t) (nextTicket_withdraw c t)
  rw [queue_withdraw]
  exact List.erase_sublist

theorem InLine.take? (h : c.InLine) (taken : c.take? = some d) : d.InLine :=
  h.of_sublist (queue_of_take? taken ▸ List.Sublist.refl _) (waiting_sublist_of_take? taken)
    (nextTicket_of_take? taken)

theorem InLine.hangUp (h : c.InLine) : c.hangUp.InLine :=
  h.of_sublist (List.nil_sublist _) (List.nil_sublist _) rfl

/-! ## Slots are given in the order of the queue -/

/-- From `c` to `d` only the send that has waited longest gets a slot, and the others who wait keep
their order, in front of those who come. -/
structure Fair (c d : Channel) : Prop where
  head : ∀ t ∈ d.granted, t ∉ c.granted → c.waiting.head? = some t
  order : d.waiting.Sublist (c.waiting ++ [c.nextTicket])

theorem Fair.of_subset (granted : d.granted ⊆ c.granted) (waiting : d.waiting.Sublist c.waiting) :
    Fair c d where
  head _ ht new := absurd (granted ht) new
  order := waiting.trans (List.sublist_append_left _ _)

theorem Fair.refl (c : Channel) : Fair c c := .of_subset (List.Subset.refl _) (List.Sublist.refl _)

theorem Fair.congr {e : Channel} (h : Fair c d) (granted : e.granted = d.granted)
    (waiting : e.waiting = d.waiting) : Fair c e := by
  obtain ⟨head, order⟩ := h
  rw [← granted] at head
  rw [← waiting] at order
  exact ⟨head, order⟩

theorem head?_of_mem_granted_grant (new : t ∉ c.granted) (h : t ∈ c.grant.granted) :
    c.waiting.head? = some t := by
  unfold grant at h
  split at h
  next u us waiting =>
    split at h
    · rw [List.mem_append, List.mem_singleton] at h
      rw [waiting, h.resolve_left new]
      rfl
    · exact absurd h new
  next => exact absurd h new

theorem Fair.withdraw (c : Channel) (t : Ticket) : Fair c (c.withdraw t) := by
  refine ⟨fun u hu new => ?_, (waiting_withdraw_sublist c t).trans (List.sublist_append_left _ _)⟩
  unfold Channel.withdraw at hu
  split at hu
  · have not_kept : u ∉ c.granted.erase t := fun kept => new (List.mem_of_mem_erase kept)
    exact head?_of_mem_granted_grant (c := { c with granted := c.granted.erase t }) not_kept hu
  · exact absurd hu new

theorem Fair.take? (h : c.take? = some d) : Fair c d := by
  have order := waiting_sublist_of_take? h
  obtain ⟨rfl, -⟩ := of_take? h
  refine ⟨fun t ht new => ?_, order.trans (List.sublist_append_left _ _)⟩
  exact head?_of_mem_granted_grant (c := { c with buffered := c.buffered - 1 }) new ht

theorem Fair.hangUp (c : Channel) : Fair c c.hangUp :=
  .of_subset (List.nil_subset _) (List.nil_sublist _)

theorem Fair.pollSend (c : Channel) (place : Option Ticket) : Fair c (c.pollSend place).2 := by
  refine ⟨fun t ht new => absurd (granted_pollSend_subset c place ht) new, ?_⟩
  rcases poll : c.pollSend place with ⟨_ | t | _, d⟩
  · show d.waiting.Sublist _
    rw [waiting_of_sent poll]
    exact List.sublist_append_left _ _
  · cases place with
    | none =>
      obtain ⟨-, -, rfl⟩ := of_new_waiting poll
      exact List.Sublist.refl _
    | some u =>
      obtain ⟨-, rfl⟩ := eq_of_waiting poll
      exact List.sublist_append_left _ _
  · obtain ⟨-, rfl⟩ := eq_of_refused poll
    exact List.sublist_append_left _ _

/-! ## Who waits and who comes through -/

/-- A send waits only when no slot is free. -/
theorem free_of_waiting (sound : c.Sound) {place : Option Ticket}
    (queued : ∀ t, place = some t → t ∈ c.queue) (h : c.pollSend place = (.waiting t, d)) :
    c.free = 0 := by
  cases place with
  | none => exact (of_new_waiting h).1
  | some u =>
    have waiting := (List.mem_append.mp (queued u rfl)).resolve_left (not_granted_of_waiting h)
    exact sound.full_of_waiting (List.ne_nil_of_mem waiting)

/-- A send comes through on the slot that was reserved for it, or when nobody waits. -/
theorem granted_or_waiting_of_sent (sound : c.Sound) {place : Option Ticket}
    (h : c.pollSend place = (.sent, d)) :
    (∃ t ∈ c.granted, place = some t) ∨ c.waiting = [] := by
  unfold Channel.pollSend at h
  split at h
  · split at h
    · split at h
      next free =>
        refine .inr ?_
        by_contra waiting
        have := sound.full_of_waiting waiting
        omega
      next => simp at h
    · split at h
      next t granted => exact .inl ⟨t, granted, rfl⟩
      next => simp at h
  · simp at h

/-! ## The side of the senders -/

/-- From `c` to `d` one attempt to send was made or given up, or none, and ends were taken or let
go. -/
inductive Pushed (c : Channel) : Channel → Prop where
  | rest (senders : Nat) : Pushed c { c with senders }
  | poll (place : Option Ticket) (senders : Nat) : Pushed c { (c.pollSend place).2 with senders }
  | withdraw (t : Ticket) (senders : Nat) : Pushed c { c.withdraw t with senders }

theorem Pushed.capacity_eq (h : Pushed c d) : d.capacity = c.capacity := by
  cases h with
  | rest => rfl
  | poll place => exact capacity_pollSend c place
  | withdraw t => exact capacity_withdraw c t

theorem Pushed.sound (h : Pushed c d) (sound : c.Sound) : d.Sound := by
  cases h with
  | rest => exact ⟨sound.used_le, sound.full_of_waiting⟩
  | poll place =>
    have after := sound.pollSend place
    exact ⟨after.used_le, after.full_of_waiting⟩
  | withdraw t =>
    have after := sound.withdraw t
    exact ⟨after.used_le, after.full_of_waiting⟩

theorem Pushed.inLine (h : Pushed c d) (inLine : c.InLine) : d.InLine := by
  cases h with
  | rest => exact inLine.congr rfl rfl rfl
  | poll place => exact (inLine.pollSend place).congr rfl rfl rfl
  | withdraw t => exact (inLine.withdraw t).congr rfl rfl rfl

theorem Pushed.fair (h : Pushed c d) : Fair c d := by
  cases h with
  | rest => exact (Fair.refl c).congr rfl rfl
  | poll place => exact (Fair.pollSend c place).congr rfl rfl
  | withdraw t => exact (Fair.withdraw c t).congr rfl rfl

end SharedCounter.Channel
