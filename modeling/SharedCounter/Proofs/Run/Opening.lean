import Mathlib.Tactic.Common
import SharedCounter.Proofs.Bus
import SharedCounter.Run

/-!
# What a run can be asked for

Each buffer of a run is given a size. The sizes of the three channels are brought into their range
from both ends, and that of a queue or of the ring from below only.

* `Audience.open?_eq` : no desk is made when some subscriber asks for too large a queue;
* `Run.start_eq` : which runs can be set up (`Run.opening`), and what prevents the others. The bus
  comes first, so too large a ring hides too large a queue;
* `Run.Fitted` : every buffer of a run got a size in its range;
* `Run.opens_exactly` : a run is set up, and then fitted, exactly if its ring and the queues of its
  subscribers are small enough. The sizes asked for its channels do not matter.
-/

namespace SharedCounter

/-- Asking for one slot at least changes nothing. -/
theorem clampSlots_max_one (n : Nat) : clampSlots (max n 1) = min (max n 1) slotMax := by
  unfold clampSlots
  omega

theorem Subscriber.slots_le_iff (s : Subscriber) :
    s.slots ≤ slotMax ↔ s.queueCapacity ≤ slotMax := by
  unfold slots slotMax
  omega

theorem Audience.open?_eq (subscribers : List Subscriber) :
    open? subscribers =
      if ∀ s ∈ subscribers, s.queueCapacity ≤ slotMax then
        some (subscribers.map fun s => { subscriber := s })
      else none := by
  simp only [open?, List.all_eq_true, decide_eq_true_eq, Subscriber.slots_le_iff]

namespace Run

variable (c : Config) (acts : Effect → List Act) (subscribers : List Subscriber) (size : SlotSize)

/-- The subscribers of a run, the roster last. -/
def withRoster : List Subscriber := subscribers ++ [{ name := Roster.subscriberName }]

/-- The roster asks for a queue that can be made. -/
theorem small_withRoster_iff :
    (∀ s ∈ withRoster subscribers, s.queueCapacity ≤ slotMax)
      ↔ ∀ s ∈ subscribers, s.queueCapacity ≤ slotMax := by
  have roster : ({ name := Roster.subscriberName } : Subscriber).queueCapacity ≤ slotMax := by
    decide
  rw [withRoster, List.forall_mem_append]
  simp [roster]

/-- A run as it is set up, on a ring that holds at least what was asked for. -/
def opening : Run :=
  let r : Run :=
    { team := .start c acts
      bus := { capacity := c.busSlots.nextPowerOfTwo, listeners := 1 }
      reader := ⟨0⟩
      audience := (withRoster subscribers).map fun s => { subscriber := s } }
  { r with queue := r.workers ++ .listener :: Effect.all.map .producer }

/-- The bus is made before the desks. -/
theorem start_eq :
    start c acts subscribers size =
      if ringMax < c.busCapacity then .error .ringTooLarge
      else if ringRoom < c.busCapacity then .error .ringUnplaceable
      else if ∀ s ∈ subscribers, s.queueCapacity ≤ slotMax then .ok (opening c acts subscribers)
      else .error .queueTooLarge := by
  have large : ringMax < c.busSlots ↔ ringMax < c.busCapacity := by
    unfold Config.busSlots ringMax
    omega
  have unplaceable : ringRoom < c.busSlots ↔ ringRoom < c.busCapacity := by
    unfold Config.busSlots ringRoom
    omega
  have one_slot : max c.busSlots 1 = c.busSlots := by
    unfold Config.busSlots
    omega
  unfold start
  rw [Bus.create_eq, ← withRoster, Audience.open?_eq]
  simp only [large, unplaceable, one_slot, small_withRoster_iff]
  by_cases too_large : ringMax < c.busCapacity
  · simp only [if_pos too_large]
  simp only [if_neg too_large]
  by_cases no_room : ringRoom < c.busCapacity
  · simp only [if_pos no_room]
  simp only [if_neg no_room]
  by_cases small : ∀ s ∈ subscribers, s.queueCapacity ≤ slotMax
  · simp only [if_pos small]
    rfl
  · simp only [if_neg small]

/-! ## Sizes in their range -/

/-- Every buffer has at least one place, and no more than it can have. -/
structure Fitted (r : Run) : Prop where
  /-- A signal channel has as many slots as were asked for, if there can be so many. -/
  signals : ∀ side, (r.team.inlets.signals side).capacity = min (max c.signalCapacity 1) slotMax
  completions : r.team.inlets.completions.capacity = min (max c.completionCapacity 1) slotMax
  audience : r.audience.map (·.subscriber) = withRoster subscribers
  queues : ∀ d ∈ r.audience, 1 ≤ d.subscriber.slots ∧ d.subscriber.slots ≤ slotMax
  ring : 1 ≤ c.busSlots ∧ c.busSlots ≤ ringMax
  kept : c.busSlots ≤ r.bus.capacity

theorem fitted_opening {c : Config} {subscribers : List Subscriber}
    (ring : c.busCapacity ≤ ringRoom) (queues : ∀ s ∈ subscribers, s.queueCapacity ≤ slotMax) :
    (opening c acts subscribers).Fitted c subscribers where
  signals side := by cases side <;> exact clampSlots_max_one _
  completions := clampSlots_max_one _
  audience := by simp [opening, Function.comp_def]
  queues d desk := by
    obtain ⟨s, listens, rfl⟩ := List.mem_map.mp desk
    have small := (small_withRoster_iff subscribers).mpr queues s listens
    exact ⟨Nat.le_max_right _ _, s.slots_le_iff.mpr small⟩
  ring := by
    unfold Config.busSlots ringMax
    unfold ringRoom at ring
    omega
  kept := le_nextPowerOfTwo_go _ 1 _

/-- A run is set up, every buffer with a size in its range, exactly if its ring fits into memory and
no subscriber asks for too large a queue. What stops another run is told by what it asks for. -/
theorem opens_exactly :
    (start c acts subscribers size = .error .ringTooLarge ↔ ringMax < c.busCapacity)
      ∧ (start c acts subscribers size = .error .ringUnplaceable
        ↔ ringRoom < c.busCapacity ∧ c.busCapacity ≤ ringMax)
      ∧ (start c acts subscribers size = .error .queueTooLarge
        ↔ c.busCapacity ≤ ringRoom ∧ ∃ s ∈ subscribers, slotMax < s.queueCapacity)
      ∧ ((∃ r, start c acts subscribers size = .ok r ∧ r.Fitted c subscribers)
        ↔ c.busCapacity ≤ ringRoom ∧ ∀ s ∈ subscribers, s.queueCapacity ≤ slotMax) := by
  have room : ringRoom ≤ ringMax := by decide
  rw [start_eq]
  by_cases too_large : ringMax < c.busCapacity
  · rw [if_pos too_large]
    have no_room : ¬ c.busCapacity ≤ ringRoom := by omega
    simp [too_large, no_room]
  rw [if_neg too_large]
  by_cases no_room : ringRoom < c.busCapacity
  · rw [if_pos no_room]
    simp [too_large, no_room, Nat.not_lt.mp too_large, Nat.not_le.mpr no_room]
  rw [if_neg no_room]
  have placed : c.busCapacity ≤ ringRoom := Nat.not_lt.mp no_room
  by_cases small : ∀ s ∈ subscribers, s.queueCapacity ≤ slotMax
  · rw [if_pos small]
    have none_large : ¬ ∃ s ∈ subscribers, slotMax < s.queueCapacity := fun ⟨s, listens, large⟩ =>
      Nat.not_lt.mpr (small s listens) large
    have fitted := fitted_opening acts placed small
    simp only [Except.ok.injEq, exists_eq_left', reduceCtorEq, too_large, no_room, none_large,
      placed, fitted, false_and, and_false, true_and]
    exact iff_of_true trivial small
  · rw [if_neg small]
    have one_large : ∃ s ∈ subscribers, slotMax < s.queueCapacity := by
      simpa using small
    simp [too_large, no_room, one_large, placed, small]

/-- A subscriber that asks for one place more than a queue can have stops a run, and so does a ring
with one slot more than a bus may ask for, whatever a slot takes. Neither is brought into its range
from above. -/
theorem not_always_opened :
    (¬ ∃ size r,
        start {} (fun _ => []) [{ name := "s", queueCapacity := slotMax + 1 }] size = .ok r)
      ∧ ¬ ∃ size r, start { busCapacity := ringMax + 1 } (fun _ => []) [] size = .ok r := by
  constructor
  · rintro ⟨size, r, started⟩
    have large_queue : start {} (fun _ => []) [{ name := "s", queueCapacity := slotMax + 1 }] size
        = .error .queueTooLarge := by
      rw [start_eq, if_neg (by decide), if_neg (by decide), if_neg (by decide)]
    rw [large_queue] at started
    cases started
  · rintro ⟨size, r, started⟩
    have large_ring : start { busCapacity := ringMax + 1 } (fun _ => []) [] size
        = .error .ringTooLarge := by
      rw [start_eq, if_pos (by decide)]
    rw [large_ring] at started
    cases started

end Run

end SharedCounter
