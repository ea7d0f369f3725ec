/-!
# Limits: the ranges of the counter, of counts and of capacities

* `counterMin`, `counterMax` : the counter is a signed 64-bit number;
* `countMax` : counts of signals are unsigned 64-bit numbers;
* `addCounter`, `addCount` : sums that fail instead of leaving the range
  (`addCounter_eq_some_iff`, `addCount_eq_some_iff`);
* `slotMax`, `clampSlots` : a bounded channel has at least one slot and at most `slotMax`
  (`clampSlots_pos`, `clampSlots_le`), which is also the most that a gate should hold of permits;
* `gateRange` : where the count of the permits that a gate holds starts again;
* `ringMax` : the largest ring that a bus may ask for; a slot of it takes a `SlotSize` of the
  `memoryMax` bytes that one block of memory can have.
-/

namespace SharedCounter

/-- The least value of the counter: the negative of the 63rd power of two. -/
def counterMin : Int := -0x8000000000000000

/-- The greatest value of the counter: 63 binary ones. -/
def counterMax : Int := 0x7FFFFFFFFFFFFFFF

/-- The greatest count of signals: 64 binary ones. -/
def countMax : Nat := 0xFFFFFFFFFFFFFFFF

/-- The most slots that one bounded channel can have, and the most permits that one gate should
hold: 61 binary ones. -/
def slotMax : Nat := 0x1FFFFFFFFFFFFFFF

/-- The first number that the count of a gate's permits cannot have: the 63rd power of two. -/
def gateRange : Nat := 0x8000000000000000

/-- The largest capacity that a bus may ask for, before it is rounded up: 63 binary ones. -/
def ringMax : Nat := 0x7FFFFFFFFFFFFFFF

/-- The memory that one slot of a ring takes. It is up to the platform, but a slot has to hold an
event with all of its details, and little else. -/
structure SlotSize where
  bytes : Nat := 136
  least : 128 ≤ bytes := by decide
  most : bytes < 256 := by decide
  deriving DecidableEq, Repr

instance : Inhabited SlotSize := ⟨{}⟩

/-- The most bytes that one block of memory can have: 63 binary ones. -/
def memoryMax : Nat := 0x7FFFFFFFFFFFFFFF

/-- The counter moved by `d`, or nothing when that leaves its range. -/
def addCounter (c d : Int) : Option Int :=
  if counterMin ≤ c + d ∧ c + d ≤ counterMax then some (c + d) else none

/-- The sum of two counts, or nothing when that leaves their range. -/
def addCount (a b : Nat) : Option Nat :=
  if a + b ≤ countMax then some (a + b) else none

theorem addCounter_eq_some_iff {c d r : Int} :
    addCounter c d = some r ↔ r = c + d ∧ counterMin ≤ r ∧ r ≤ counterMax := by
  unfold addCounter
  split <;> grind

theorem addCount_eq_some_iff {a b r : Nat} :
    addCount a b = some r ↔ r = a + b ∧ r ≤ countMax := by
  unfold addCount
  split <;> grind

/-- The number of slots that a channel gets when `n` are asked for. -/
def clampSlots (n : Nat) : Nat := min (max n 1) slotMax

theorem clampSlots_pos (n : Nat) : 0 < clampSlots n := by
  unfold clampSlots slotMax; omega

theorem clampSlots_le (n : Nat) : clampSlots n ≤ slotMax := by
  unfold clampSlots; omega

end SharedCounter
