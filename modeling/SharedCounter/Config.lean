import SharedCounter.Limits

/-!
# Configurations of a count

* `Config` : what a run is given; `Config.ofIterations` sizes the signal buffers to the iterations,
  so that no producer has to wait for a slot;
* `signalSlots`, `completionSlots`, `busSlots` : no buffer is smaller than one place;
* `Config.scheduling` : the threads that the run is spread over;
* `Config.expected` : the two producers cancel out, so the counter ends where it began.
-/

namespace SharedCounter

/-- The settings of one run. -/
structure Config where
  /-- Signals sent by each producer. -/
  iterations : Nat := 1000000
  /-- The counter before the first signal. -/
  initial : Int := 0
  signalCapacity : Nat := 1000000
  completionCapacity : Nat := 2
  /-- Threads asked for; none means that everything takes turns on the calling thread. -/
  workers : Nat := 2
  busCapacity : Nat := 1024
  deriving DecidableEq, Repr

/-- Where the tasks of a run are executed. -/
inductive Scheduling where
  | callingThread
  | threadPool (threads : Nat)
  deriving DecidableEq, Repr

namespace Config

/-- A run of `n` iterations with signal buffers that hold them all. -/
def ofIterations (n : Nat) : Config := { iterations := n, signalCapacity := n }

def withInitial (c : Config) (i : Int) : Config := { c with initial := i }

/-- The same run with the smallest signal buffers. -/
def unbuffered (c : Config) : Config := { c with signalCapacity := 0 }

def signalSlots (c : Config) : Nat := max c.signalCapacity 1

def completionSlots (c : Config) : Nat := max c.completionCapacity 1

def busSlots (c : Config) : Nat := max c.busCapacity 1

/-- The value that the counter has to end with. -/
def expected (c : Config) : Int := c.initial

def scheduling (c : Config) : Scheduling :=
  if c.workers = 0 then .callingThread else .threadPool c.workers

end Config

/-- The number of threads that take turns with the tasks. -/
def Scheduling.threads : Scheduling → Nat
  | callingThread => 1
  | threadPool n => n

end SharedCounter
