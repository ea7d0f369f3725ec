import SharedCounter.Phase

/-!
# Lifecycle events

* `EventKind` : what an event tells; `EventKind.all` lists the kinds;
* `Event` : a kind with the details that belong to it, each of them optional;
* `Event.overflow`, `Event.panicked` : the two events that tell of a subscriber;
* `Stamped` : an event with its number. Every event takes the next number when it is made, whether
  or not anyone will read it.
-/

namespace SharedCounter

/-- What an event tells. -/
inductive EventKind where
  | subscriberPanicked
  | subscriberOverflow
  | producerStarting
  | producerFinished
  | completionObserved
  | drainStarted
  | drainFinished
  | counterReported
  deriving DecidableEq, Repr

namespace EventKind

/-- Every kind of event. -/
def all : List EventKind :=
  [subscriberPanicked, subscriberOverflow, producerStarting, producerFinished, completionObserved,
    drainStarted, drainFinished, counterReported]

/-- The kind as a title. -/
def title : EventKind → String
  | subscriberPanicked => "SubscriberPanicked"
  | subscriberOverflow => "SubscriberOverflow"
  | producerStarting => "ProducerStarting"
  | producerFinished => "ProducerFinished"
  | completionObserved => "CompletionObserved"
  | drainStarted => "DrainStarted"
  | drainFinished => "DrainFinished"
  | counterReported => "CounterReported"

theorem mem_all (k : EventKind) : k ∈ all := by cases k <;> simp [all]

/-- The kind of a given title. -/
def ofTitle? (s : String) : Option EventKind := all.find? (·.title == s)

end EventKind

/-- Something that happened in a run, with the details that were noted. -/
structure Event where
  kind : EventKind
  /-- The producer, or the subscriber, that the event is about. -/
  producer : Option String := none
  /-- Completions still to come. -/
  remaining : Option Nat := none
  /-- The value of the counter. -/
  value : Option Int := none
  /-- A number of signals; which ones depends on the kind. -/
  count : Option Nat := none
  phase : Option Phase := none
  reason : Option String := none
  deriving DecidableEq, Repr

namespace Event

/-- Subscriber `subscriber` did not get an event, because of `cause`. -/
def overflow (subscriber cause : String) : Event where
  kind := .subscriberOverflow
  producer := some subscriber
  reason := some ("subscriber=" ++ subscriber ++ " reason=" ++ cause)

/-- Subscriber `subscriber` panicked with `message` over an event. -/
def panicked (subscriber message : String) : Event where
  kind := .subscriberPanicked
  producer := some subscriber
  reason := some message

/-- Whether the event itself tells of a lost event. -/
def isOverflow (e : Event) : Bool := e.kind = .subscriberOverflow

end Event

/-- An event and the number that it took. -/
structure Stamped where
  seq : Nat
  event : Event
  deriving DecidableEq, Repr

/-- Numbers events in the order in which they are made, from `seq` on. -/
def stampFrom (seq : Nat) : List Event → List Stamped
  | [] => []
  | e :: es => ⟨seq, e⟩ :: stampFrom (seq + 1) es

@[simp]
theorem length_stampFrom (seq : Nat) (es : List Event) : (stampFrom seq es).length = es.length := by
  induction es generalizing seq <;> simp_all [stampFrom]

@[simp]
theorem map_event_stampFrom (seq : Nat) (es : List Event) :
    (stampFrom seq es).map Stamped.event = es := by
  induction es generalizing seq <;> simp_all [stampFrom]

end SharedCounter
