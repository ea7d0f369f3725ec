import SharedCounter.Event

/-!
# Subscribers: who handles events, and how they may fail

* `Subscriber` : a name, the queue it asks for, whether it waits at a gate before each event, and
  the kinds of event on which it panics;
* `PanicMode` : what a panic leaves behind, and whether it comes while the event is handled or
  already when it is handed over;
* `Subscriber.meets` : what a subscriber makes of an event (`Reaction`);
* `panicMessage` : what is reported of a panic.
-/

namespace SharedCounter

/-- How a subscriber panics. -/
inductive PanicMode where
  /-- While handling, with a fixed text. -/
  | text
  /-- While handling, with a text that names the subscriber and the kind of event. -/
  | named
  /-- While handling, with a text of its own. -/
  | saying (text : String)
  /-- While handling, with something that is no text. -/
  | other
  /-- When the event is handed over, before any handling. -/
  | eager
  deriving DecidableEq, Repr

/-- One who handles events. -/
structure Subscriber where
  name : String
  /-- The queue that it asks for. -/
  queueCapacity : Nat := 1024
  /-- Whether it waits for a permit before it handles an event. -/
  gated : Bool := false
  panicsOn : List EventKind := []
  panicMode : PanicMode := .text
  deriving DecidableEq, Repr

/-- What a subscriber makes of an event. -/
inductive Reaction where
  | handled
  /-- It panicked while handling, and left this text, or something that is no text. -/
  | panicked (text : Option String)
  /-- It panicked when the event was handed over, which ends its worker. -/
  | died
  deriving DecidableEq, Repr

/-- What is reported of a panic, by the text that it left. -/
def panicMessage (text : Option String) : String := text.getD "unknown panic"

namespace Subscriber

/-- A subscriber has room for one event at least. -/
def slots (s : Subscriber) : Nat := max s.queueCapacity 1

/-- What a subscriber makes of an event. -/
def meets (s : Subscriber) (e : Event) : Reaction :=
  if e.kind ∈ s.panicsOn then
    match s.panicMode with
    | .text => .panicked (some "boom")
    | .named => .panicked (some (s.name ++ " failed on " ++ e.kind.title))
    | .saying text => .panicked (some text)
    | .other => .panicked none
    | .eager => .died
  else .handled

end Subscriber

end SharedCounter
