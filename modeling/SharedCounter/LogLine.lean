import SharedCounter.Event

/-!
# Log lines

* `Event.logLine` : the one line that a log writer keeps of an event: a tag in brackets for its
  kind, then the two details that matter for that kind;
* a detail that was not noted is written `unknown`.
-/

namespace SharedCounter

namespace EventKind

/-- The tag that opens the line of an event. -/
def tag : EventKind → String
  | producerStarting => "[producer-starting]"
  | producerFinished => "[producer-finished]"
  | completionObserved => "[completion-observed]"
  | drainStarted => "[drain-started]"
  | drainFinished => "[drain-finished]"
  | counterReported => "[counter-reported]"
  | subscriberOverflow => "[subscriber-overflow]"
  | subscriberPanicked => "[subscriber-panicked]"

end EventKind

namespace Event

/-- A detail as it is written into a line. -/
def detail : Option String → String
  | some s => s
  | none => "unknown"

/-- The two details of a line, each with its label. -/
def details (e : Event) : (String × Option String) × (String × Option String) :=
  match e.kind with
  | .producerStarting => (("producer", e.producer), ("signals", e.count.map toString))
  | .producerFinished => (("producer", e.producer), ("signals", e.count.map toString))
  | .completionObserved =>
    (("remaining", e.remaining.map toString), ("applied", e.count.map toString))
  | .drainStarted => (("phase", e.phase.map Phase.name), ("applied", e.count.map toString))
  | .drainFinished => (("phase", e.phase.map Phase.name), ("drained", e.count.map toString))
  | .counterReported => (("value", e.value.map toString), ("applied", e.count.map toString))
  | .subscriberOverflow => (("subscriber", e.producer), ("reason", e.reason))
  | .subscriberPanicked => (("subscriber", e.producer), ("info", e.reason))

/-- The line of an event, with the newline that ends it. -/
def logLine (e : Event) : String :=
  let ((l₁, d₁), (l₂, d₂)) := e.details
  e.kind.tag ++ " " ++ l₁ ++ "=" ++ detail d₁ ++ " " ++ l₂ ++ "=" ++ detail d₂ ++ "\n"

end Event

/-- The name under which a log writer subscribes to events. -/
def logWriterName : String := "LogWriter"

end SharedCounter
