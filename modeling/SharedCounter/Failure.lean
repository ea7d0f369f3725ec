import SharedCounter.Effect
import SharedCounter.Text.Quoted

/-!
# Failures of producers and of runs

* `Disconnected` : a producer found the receiver of a channel gone;
* `RunError` : why a run reports no count;
* each has a `label` for logs, a `message` with its details, and a `display` as a sentence;
* `CrashWording` : how the runtime words the crash of a producer. It is not for a run to choose; in
  `CrashWording.numbered` a task is told by the number that it was given.
-/

namespace SharedCounter

/-- A producer could not send, because the receiver of the channel was gone. -/
structure Disconnected where
  producer : String
  channel : String
  deriving DecidableEq, Repr

namespace Disconnected

def label (_ : Disconnected) : String := "producer_disconnected"

def message (d : Disconnected) : String :=
  "disconnected: producer=" ++ d.producer ++ " channel=" ++ d.channel

def display (d : Disconnected) : String :=
  "producer " ++ d.producer ++ ": " ++ d.channel ++ " channel disconnected"

/-- The failure with its details quoted. -/
def quoted (d : Disconnected) : String :=
  "Disconnected \x7b producer: " ++ Text.quote d.producer ++ ", channel: " ++ Text.quote d.channel
    ++ " \x7d"

end Disconnected

/-- Why a run ended without a count. -/
inductive RunError where
  /-- The completion channel closed while `remaining` completions were missing; `pending` names the
  producers that had started and not finished. -/
  | completionLost (remaining : Nat) (pending : List String)
  | producerFailed (cause : Disconnected)
  | producerPanicked (reason : String)
  /-- The run could not be started. -/
  | startFailed (cause : String)
  deriving DecidableEq, Repr

namespace RunError

def label : RunError → String
  | completionLost _ _ => "runtime_completion_lost"
  | producerFailed _ => "runtime_producer_failed"
  | producerPanicked _ => "runtime_producer_panicked"
  | startFailed _ => "runtime_build_failed"

def message : RunError → String
  | completionLost r ps =>
    "completion lost: remaining=" ++ toString r ++ " pending=" ++ Text.quoteList ps
  | producerFailed d => d.message
  | producerPanicked r => "panicked: " ++ r
  | startFailed c => "runtime: " ++ c

def display : RunError → String
  | completionLost r ps =>
    "completion channel closed with " ++ toString r ++ " producer(s) outstanding; pending: "
      ++ Text.quoteList ps
  | producerFailed d => "producer failed: " ++ d.display
  | producerPanicked r => "producer task panicked: " ++ r
  | startFailed c => "failed to build runtime: " ++ c

/-- The failure behind this one, as a sentence. -/
def source? : RunError → Option String
  | producerFailed d => some d.display
  | startFailed c => some c
  | _ => none

end RunError

/-- How the runtime words the crash of a producer, whose panic left a message or something that is no
text. -/
abbrev CrashWording := Effect → Option String → String

namespace CrashWording

/-- The wording for tasks that were given the numbers `task`. -/
def numbered (task : Effect → String) : CrashWording
  | e, some m => "task " ++ task e ++ " panicked with message " ++ Text.quote m
  | e, none => "task " ++ task e ++ " panicked"

/-- The wording in which no number is told. -/
def unnumbered : CrashWording := numbered fun _ => "N"

end CrashWording

end SharedCounter
