import SharedCounter.Desk
import SharedCounter.Limits

/-!
# Audiences: several subscribers, each at a desk of its own

* `open?` : a desk for each subscriber, unless one asks for a queue that cannot be made;
* `emit` : an event is offered at every desk in turn, without waiting. Each refusal is reported by
  an event of its own, except a refusal of such a report;
* `close` : no more events will be offered; the workers handle what is queued and leave.
-/

namespace SharedCounter

/-- The desks of several subscribers. -/
abbrev Audience := List Desk

namespace Audience

/-- A desk for each subscriber. -/
def open? (subscribers : List Subscriber) : Option Audience :=
  if subscribers.all (·.slots ≤ slotMax) then some (subscribers.map fun s => { subscriber := s })
  else none

/-- The report of a refusal of `e`, if there is to be one. -/
def report (d : Desk) (e : Event) : Option Refusal → Option Event
  | some r => if e.isOverflow then none else some (Event.overflow d.subscriber.name r.name)
  | none => none

/-- Offers an event at every desk; the second part holds the reports of its refusals. -/
def emit (a : Audience) (e : Stamped) : Audience × List Event :=
  (a.map fun d => (d.offer e).1, a.filterMap fun d => report d e.event (d.offer e).2)

def close (a : Audience) : Audience := a.map Desk.close

/-- Whether every worker has ended. -/
def allLeft (a : Audience) : Bool := a.all (·.duty ≠ .working)

theorem length_emit (a : Audience) (e : Stamped) : (a.emit e).1.length = a.length :=
  List.length_map _

end Audience

end SharedCounter
