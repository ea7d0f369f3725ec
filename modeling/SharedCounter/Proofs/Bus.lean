import Mathlib.Algebra.Group.Nat.Defs
import Mathlib.Data.List.Infix
import SharedCounter.Bus

/-!
# Publishing on a bus

* `Bus.foldl_publish` : while somebody listens, what is published enters the history;
* `Bus.le_capacity` : a ring holds at least as much as was asked for, and it can be made up to
  `ringRoom` (`Bus.create_eq`);
* `pairwise_stampFrom` : events are numbered upwards, and may be made and published one after the
  other (`stampFrom_append`, `Bus.publishAll_publishAll`).
-/

namespace SharedCounter

theorem Bus.foldl_publish {b : Bus} (listened : 0 < b.listeners) (es : List Stamped) :
    (es.foldl publish b).history.toList = b.history.toList ++ es ∧
      (es.foldl publish b).listeners = b.listeners := by
  induction es generalizing b with
  | nil => exact ⟨(List.append_nil _).symm, rfl⟩
  | cons e es ih =>
    have published : b.publish e = { b with history := b.history.push e } := if_pos listened
    obtain ⟨history, listeners⟩ := ih (b := b.publish e) (by rw [published]; exact listened)
    rw [List.foldl_cons, history, listeners, published]
    exact ⟨by simp, rfl⟩

/-- Without a listener nothing enters the history. -/
theorem Bus.foldl_publish_of_deserted {b : Bus} (deserted : b.listeners = 0) (es : List Stamped) :
    es.foldl publish b = b := by
  induction es with
  | nil => rfl
  | cons e es ih =>
    have lost : b.publish e = b := if_neg (by omega)
    rw [List.foldl_cons, lost, ih]

theorem Bus.listeners_publishAll (b : Bus) (seq : Nat) (es : List Event) :
    (b.publishAll seq es).listeners = b.listeners := by
  rcases Nat.eq_zero_or_pos b.listeners with deserted | listened
  · rw [Bus.publishAll, Bus.foldl_publish_of_deserted deserted]
  · exact (Bus.foldl_publish listened _).2

/-- Nothing that is published changes the ring. -/
theorem Bus.capacity_publishAll (b : Bus) (seq : Nat) (es : List Event) :
    (b.publishAll seq es).capacity = b.capacity := by
  unfold Bus.publishAll
  induction stampFrom seq es generalizing b with
  | nil => rfl
  | cons e es ih =>
    rw [List.foldl_cons, ih, Bus.publish]
    split <;> rfl

/-! ## Rings -/

open private Nat.nextPowerOfTwo.go from Init.Data.Nat.Power2.Basic

theorem le_nextPowerOfTwo_go (n p : Nat) (h : p > 0) : n ≤ Nat.nextPowerOfTwo.go n p h := by
  unfold Nat.nextPowerOfTwo.go
  split
  · exact le_nextPowerOfTwo_go n (p * 2) _
  · omega
termination_by n - p
decreasing_by apply Nat.nextPowerOfTwo_dec <;> assumption

/-- Doubling a power of two does not lead past a power of two that is large enough. -/
theorem nextPowerOfTwo_go_le {n j k : Nat} (le : n ≤ 2 ^ k) (below : j ≤ k) (h : 2 ^ j > 0) :
    Nat.nextPowerOfTwo.go n (2 ^ j) h ≤ 2 ^ k := by
  unfold Nat.nextPowerOfTwo.go
  split
  next less =>
    have lt : j < k := (Nat.pow_lt_pow_iff_right (by decide)).mp (Nat.lt_of_lt_of_le less le)
    exact nextPowerOfTwo_go_le (j := j + 1) le lt _
  next => exact Nat.pow_le_pow_right (by decide) below
termination_by k - j

theorem nextPowerOfTwo_le_iff {n k : Nat} : n.nextPowerOfTwo ≤ 2 ^ k ↔ n ≤ 2 ^ k :=
  ⟨Nat.le_trans (le_nextPowerOfTwo_go n 1 _), fun le => nextPowerOfTwo_go_le le (Nat.zero_le k) _⟩

/-- The largest capacity of a bus whose ring fits into memory: the 55th power of two. -/
def ringRoom : Nat := 0x80000000000000

/-- A larger ring has at least twice as many slots, and that is too many, whatever the platform takes
for a slot. -/
theorem fits_memory_iff (size : SlotSize) (n : Nat) :
    n.nextPowerOfTwo * size.bytes ≤ memoryMax ↔ n ≤ ringRoom := by
  have room : ringRoom = 2 ^ 55 := rfl
  rw [room, ← nextPowerOfTwo_le_iff]
  obtain ⟨k, power⟩ := Nat.isPowerOfTwo_nextPowerOfTwo n
  rw [power]
  constructor
  · intro fits
    by_contra larger
    have above : 55 < k := by
      by_contra le
      exact larger (Nat.pow_le_pow_right (by decide) (Nat.not_lt.mp le))
    have twice : 2 ^ 56 ≤ 2 ^ k := Nat.pow_le_pow_right (by decide) above
    have taken : 2 ^ 56 * 128 ≤ 2 ^ k * size.bytes := Nat.mul_le_mul twice size.least
    exact absurd (taken.trans fits) (by decide)
  · intro le
    have taken : 2 ^ k * size.bytes ≤ 2 ^ 55 * 255 :=
      Nat.mul_le_mul le (Nat.le_of_lt_succ size.most)
    exact taken.trans (by decide)

/-- Which rings can be made, and what prevents the others. -/
theorem Bus.create_eq (requested : Nat) (size : SlotSize) :
    Bus.create requested size =
      if ringMax < requested then .error .ringTooLarge
      else if ringRoom < requested then .error .ringUnplaceable
      else .ok { capacity := (max requested 1).nextPowerOfTwo } := by
  have large : ringMax < max requested 1 ↔ ringMax < requested := by
    unfold ringMax
    omega
  have unplaceable : memoryMax < (max requested 1).nextPowerOfTwo * size.bytes
      ↔ ringRoom < requested := by
    rw [← Nat.not_le, fits_memory_iff]
    unfold ringRoom
    omega
  unfold Bus.create
  simp only [large, unplaceable]

/-- A ring holds at least what was asked for. -/
theorem Bus.le_capacity {requested : Nat} {size : SlotSize} {b : Bus}
    (created : Bus.create requested size = .ok b) :
    requested ≤ b.capacity ∧ b.history = #[] := by
  unfold Bus.create at created
  dsimp only at created
  split at created
  · cases created
  · split at created
    · cases created
    · cases created
      refine ⟨Nat.le_trans (Nat.le_max_left requested 1) ?_, rfl⟩
      exact le_nextPowerOfTwo_go _ 1 _

/-! ## Numbers -/

theorem seq_of_mem_stampFrom {seq : Nat} {es : List Event} {e : Stamped}
    (h : e ∈ stampFrom seq es) : seq ≤ e.seq ∧ e.seq < seq + es.length := by
  induction es generalizing seq with
  | nil => cases h
  | cons x es ih =>
    rw [List.length_cons]
    rcases List.mem_cons.mp h with rfl | rest
    · exact ⟨Nat.le_refl _, Nat.lt_add_of_pos_right (Nat.succ_pos _)⟩
    · have := ih rest
      omega

theorem stampFrom_append (seq : Nat) (es fs : List Event) :
    stampFrom seq (es ++ fs) = stampFrom seq es ++ stampFrom (seq + es.length) fs := by
  induction es generalizing seq with
  | nil => rfl
  | cons e es ih =>
    rw [List.length_cons, Nat.add_comm es.length 1, ← Nat.add_assoc]
    exact congrArg (⟨seq, e⟩ :: ·) (ih (seq + 1))

/-- Events may be published one after the other. -/
theorem Bus.publishAll_publishAll (b : Bus) (seq : Nat) (es fs : List Event) :
    (b.publishAll seq es).publishAll (seq + es.length) fs = b.publishAll seq (es ++ fs) := by
  unfold Bus.publishAll
  rw [stampFrom_append, List.foldl_append]

/-- Events are numbered upwards. -/
theorem pairwise_stampFrom (seq : Nat) (es : List Event) :
    (stampFrom seq es).Pairwise (·.seq < ·.seq) := by
  induction es generalizing seq with
  | nil => exact .nil
  | cons e es ih => exact .cons (fun x hx => (seq_of_mem_stampFrom hx).1) (ih (seq + 1))

end SharedCounter
