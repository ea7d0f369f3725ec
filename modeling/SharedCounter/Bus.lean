import SharedCounter.Event
import SharedCounter.Limits
import SharedCounter.Panic

/-!
# The event bus: a ring that every listener reads at its own pace

* `Bus` : the events that entered the ring, in order, and who still holds an end; the ring keeps
  the last `capacity` of them (`Bus.oldest`);
* `create` : the capacity asked for is rounded up to a power of two, and refused above `ringMax` and
  where the ring would not fit into memory (`SlotSize`, `memoryMax`);
* `publish` : never waits; without a listener the event is lost;
* `Reader`, `read` : a listener is a position in the history. When its next event is overwritten
  it is told how many it missed and goes on at the oldest kept one;
* `publishAll` : numbers events in the order in which they are made and publishes them.
-/

namespace SharedCounter

/-- A broadcast ring of events. -/
structure Bus where
  /-- How many of the latest events are kept. -/
  capacity : Nat
  /-- Every event that entered the ring. -/
  history : Array Stamped := #[]
  /-- Publishing ends that are still held. -/
  handles : Nat := 1
  /-- Listeners that are still there. -/
  listeners : Nat := 0
  deriving DecidableEq, Repr

/-- A listener of a bus: the position of its next event in the history. -/
structure Reader where
  next : Nat
  deriving DecidableEq, Repr

/-- What a listener finds at its position. -/
inductive Reading where
  | event (e : Stamped)
  /-- That many events were overwritten before they were read. -/
  | lagged (missed : Nat)
  | empty
  | closed
  deriving DecidableEq, Repr

namespace Bus

/-- A bus whose ring holds at least `requested` events. -/
def create (requested : Nat) (size : SlotSize := default) : Except Panic Bus :=
  let slots := max requested 1
  if ringMax < slots then .error .ringTooLarge
  else if memoryMax < slots.nextPowerOfTwo * size.bytes then .error .ringUnplaceable
  else .ok { capacity := slots.nextPowerOfTwo }

/-- The position of the oldest event that is kept. -/
def oldest (b : Bus) : Nat := b.history.size - b.capacity

def publish (b : Bus) (e : Stamped) : Bus :=
  if 0 < b.listeners then { b with history := b.history.push e } else b

/-- A new listener hears what is published from now on. -/
def subscribe (b : Bus) : Bus × Reader :=
  ({ b with listeners := b.listeners + 1 }, ⟨b.history.size⟩)

def unsubscribe (b : Bus) : Bus := { b with listeners := b.listeners - 1 }

def addHandle (b : Bus) : Bus := { b with handles := b.handles + 1 }

def dropHandle (b : Bus) : Bus := { b with handles := b.handles - 1 }

/-- What a listener finds, and where it goes on. The bus is closed once everything is read and no
publishing end is held. -/
def read (b : Bus) (r : Reader) : Reading × Reader :=
  if r.next < b.oldest then (.lagged (b.oldest - r.next), ⟨b.oldest⟩)
  else
    match b.history[r.next]? with
    | some e => (.event e, ⟨r.next + 1⟩)
    | none => (if b.handles = 0 then .closed else .empty, r)

/-- Reads until `limit` findings or the end, which counts as a finding. -/
def readUpTo (b : Bus) : (limit : Nat) → Reader → List Reading × Reader
  | 0, r => ([], r)
  | limit + 1, r =>
    match b.read r with
    | (.empty, r) => ([.empty], r)
    | (.closed, r) => ([.closed], r)
    | (found, r) => let (rest, r) := readUpTo b limit r; (found :: rest, r)

/-- As many findings as a listener can meet before the end of the history, and the end. -/
def readLimit (b : Bus) (r : Reader) : Nat := b.history.size - r.next + 2

/-- Numbers events from `seq` on and publishes them, the first one first. -/
def publishAll (b : Bus) (seq : Nat) (es : List Event) : Bus :=
  (stampFrom seq es).foldl publish b

theorem oldest_le (b : Bus) : b.oldest ≤ b.history.size := Nat.sub_le _ _

/-- A listener that keeps up is given the events one by one, in the order of publishing. -/
theorem read_of_kept {b : Bus} {r : Reader} (h : b.oldest ≤ r.next) (h' : r.next < b.history.size) :
    b.read r = (.event b.history[r.next], ⟨r.next + 1⟩) := by
  unfold read
  rw [if_neg (by omega), Array.getElem?_eq_getElem h']

end Bus

end SharedCounter
