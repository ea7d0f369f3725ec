import Mathlib.Logic.Function.Basic
import SharedCounter.Audience
import SharedCounter.Bus
import SharedCounter.Coordinator
import SharedCounter.Producer
import SharedCounter.Proofs.Simulation

/-!
# Networks of producers and coordinators, with and without buses

* `Post` : a producer or a coordinator with the channels of its wiring, and the bus that it was
  given, if it was given one;
* `Network`, `Network.act` : any number of posts, wired up in any way. What a post tells is published
  on its bus, and dropped if it has none;
* `Network.mute` : the same network without any bus. Taking the buses away commutes with every move
  (`Network.act_mute`);
* `Broadcast`, `Broadcast.act` : a network with those who listen to its buses: readers, who may lag
  and leave, and audiences, whose subscribers may panic, overflow or be kept waiting;
* `Broadcast.simulation` : but for the steps of those who listen, a network does the same with its
  buses as without them.
-/

namespace SharedCounter

/-- Who moves at a post, with the channels of the wiring. -/
inductive Role where
  | producer (p : Producer) (signals completions : Nat)
  | coordinator (c : Coordinator) (first second completions : Nat)
  deriving DecidableEq, Repr

/-- Somebody at a network. -/
structure Post where
  role : Role
  /-- The bus on which the post publishes, if it was given one. -/
  bus : Option Nat := none
  deriving DecidableEq, Repr

def Post.mute (p : Post) : Post := { p with bus := none }

/-- Channels and buses, and who uses them. -/
structure Network where
  signals : Nat → Channel
  completions : Nat → Channel
  buses : Nat → Bus
  posts : List Post

namespace Network

/-- What can happen in a network. -/
inductive Move where
  /-- The post `i` takes a step, and the next event that is made anywhere takes the number `seq`. A
  running coordinator serves `branch`. -/
  | step (i : Nat) (branch : Branch) (seq : Nat)
  /-- The turn of the producer at post `i` ends before a send, which keeps its place. -/
  | takePlace (i : Nat)
  deriving DecidableEq, Repr

def onBus (n : Network) (k : Nat) (f : Bus → Bus) : Network :=
  { n with buses := Function.update n.buses k (f (n.buses k)) }

/-- Publishes events, if there is a bus for them. -/
def publish (n : Network) (bus : Option Nat) (seq : Nat) (es : List Event) : Network :=
  match bus with
  | some k => n.onBus k (·.publishAll seq es)
  | none => n

/-- The network after the producer at post `i` has moved to `t`. -/
def putProducer (n : Network) (i j k : Nat) (bus : Option Nat) (t : Producer.State) : Network :=
  { n with
    signals := Function.update n.signals j t.outlets.signals
    completions := Function.update n.completions k t.outlets.completions
    posts := n.posts.set i ⟨.producer t.producer j k, bus⟩ }

/-- The network after the coordinator at post `i` has moved to `t`. -/
def putCoordinator (n : Network) (i j k m : Nat) (bus : Option Nat) (t : Coordinator.State) :
    Network :=
  { n with
    signals := Function.update (Function.update n.signals j t.inlets.first) k t.inlets.second
    completions := Function.update n.completions m t.inlets.completions
    posts := n.posts.set i ⟨.coordinator t.coordinator j k m, bus⟩ }

/-- One step of a post, which makes its events known. -/
def step (n : Network) (i : Nat) (b : Branch) (seq : Nat) : Option Network :=
  match n.posts[i]? with
  | some ⟨.producer p j k, bus⟩ =>
    (Producer.State.step ⟨p, ⟨n.signals j, n.completions k⟩, []⟩).map fun t =>
      (n.putProducer i j k bus t).publish bus seq t.events
  | some ⟨.coordinator c j k m, bus⟩ =>
    (Coordinator.State.step ⟨c, ⟨n.signals j, n.signals k, n.completions m⟩, []⟩ b).map fun t =>
      (n.putCoordinator i j k m bus t).publish bus seq t.events
  | none => none

/-- A producer that waits nowhere yet takes a place for its next send. -/
def takePlace (n : Network) (i : Nat) : Option Network :=
  match n.posts[i]? with
  | some ⟨.producer p j k, bus⟩ =>
    if p.sends && p.place.isNone then
      some (n.putProducer i j k bus
        (Producer.State.takePlace ⟨p, ⟨n.signals j, n.completions k⟩, []⟩))
    else none
  | _ => none

def act (n : Network) : Move → Option Network
  | .step i b seq => n.step i b seq
  | .takePlace i => n.takePlace i

/-! ## Without buses -/

/-- The network whose posts were never given a bus, nor used one. -/
def mute (n : Network) : Network :=
  { n with
    buses := fun _ => { capacity := 1 }
    posts := n.posts.map Post.mute }

variable (n : Network)

theorem mute_publish (bus : Option Nat) (seq : Nat) (es : List Event) :
    (n.publish bus seq es).mute = n.mute := by
  cases bus <;> rfl

theorem mute_putProducer (i j k : Nat) (bus : Option Nat) (t : Producer.State) :
    (n.putProducer i j k bus t).mute = n.mute.putProducer i j k none t := by
  simp only [mute, putProducer, List.map_set, Post.mute]

theorem mute_putCoordinator (i j k m : Nat) (bus : Option Nat) (t : Coordinator.State) :
    (n.putCoordinator i j k m bus t).mute = n.mute.putCoordinator i j k m none t := by
  simp only [mute, putCoordinator, List.map_set, Post.mute]

theorem step_mute (i : Nat) (b : Branch) (seq : Nat) :
    (n.step i b seq).map mute = n.mute.step i b seq := by
  have post : n.mute.posts[i]? = n.posts[i]?.map Post.mute := List.getElem?_map
  unfold step
  rw [post]
  rcases n.posts[i]? with _ | ⟨p | c, bus⟩
  · rfl
  · dsimp only [Option.map_some, Post.mute]
    rw [Option.map_map]
    refine congrArg (Option.map · _) (funext fun t => ?_)
    exact (mute_publish _ bus seq _).trans (mute_putProducer ..)
  · dsimp only [Option.map_some, Post.mute]
    rw [Option.map_map]
    refine congrArg (Option.map · _) (funext fun t => ?_)
    exact (mute_publish _ bus seq _).trans (mute_putCoordinator ..)

theorem takePlace_mute (i : Nat) : (n.takePlace i).map mute = n.mute.takePlace i := by
  have post : n.mute.posts[i]? = n.posts[i]?.map Post.mute := List.getElem?_map
  unfold takePlace
  rw [post]
  rcases n.posts[i]? with _ | ⟨p | c, bus⟩
  · rfl
  · dsimp only [Option.map_some, Post.mute]
    rw [apply_ite (Option.map mute), Option.map_some, mute_putProducer]
    rfl
  · rfl

/-- Every move is the same with the buses and without them. -/
theorem act_mute (m : Move) : (n.act m).map mute = n.mute.act m := by
  cases m with
  | step i b seq => exact n.step_mute i b seq
  | takePlace i => exact n.takePlace_mute i

end Network

/-- A network with those who listen to its buses. -/
structure Broadcast where
  network : Network
  /-- Listeners, each with the bus that it listens to. -/
  readers : List (Nat × Reader) := []
  /-- Audiences, each with the bus on which it reports. -/
  audiences : List (Nat × Audience) := []

namespace Broadcast

/-- What can happen in a network that is listened to. Where events are made, the first one takes the
number `seq`. -/
inductive Deed where
  | move (m : Network.Move)
  /-- Somebody begins to listen to the bus `k`. -/
  | subscribe (k : Nat)
  /-- The listener `j` takes what it finds next, if there is anything. -/
  | read (j : Nat)
  /-- The listener `j` is dropped. -/
  | leave (j : Nat)
  /-- Subscribers take their seats, if they can, and report on the bus `k`. -/
  | seat (k : Nat) (subscribers : List Subscriber)
  /-- The audience `j` is offered an event. Refusals are published. -/
  | emit (j : Nat) (e : Stamped) (seq : Nat)
  /-- The worker at desk `i` of the audience `j` takes a step. Panics are published. -/
  | work (j i seq : Nat)
  /-- Permits are given to a gated subscriber. -/
  | release (j i permits : Nat)
  | close (j : Nat)
  /-- Somebody else publishes on the bus `k`. -/
  | publish (k seq : Nat) (es : List Event)
  | addHandle (k : Nat)
  | dropHandle (k : Nat)

/-- The move that is made in the network, if one is. -/
def Deed.move? : Deed → Option Network.Move
  | .move m => some m
  | _ => none

def publish (s : Broadcast) (k seq : Nat) (es : List Event) : Broadcast :=
  { s with network := s.network.publish (some k) seq es }

def onBus (s : Broadcast) (k : Nat) (f : Bus → Bus) : Broadcast :=
  { s with network := s.network.onBus k f }

/-- One deed, undefined where its post waits or has ended, or where nobody is to do it. -/
def act (s : Broadcast) : Deed → Option Broadcast
  | .move m => (s.network.act m).map fun network => { s with network }
  | .subscribe k =>
    some { s.onBus k (·.subscribe.1) with
      readers := s.readers ++ [(k, (s.network.buses k).subscribe.2)] }
  | .read j =>
    s.readers[j]?.map fun (k, r) =>
      { s with readers := s.readers.set j (k, ((s.network.buses k).read r).2) }
  | .leave j =>
    s.readers[j]?.map fun (k, _) =>
      { s.onBus k (·.unsubscribe) with readers := s.readers.eraseIdx j }
  | .seat k subscribers =>
    (Audience.open? subscribers).map fun a => { s with audiences := s.audiences ++ [(k, a)] }
  | .emit j e seq =>
    s.audiences[j]?.map fun (k, a) =>
      { s with audiences := s.audiences.set j (k, (a.emit e).1) }.publish k seq (a.emit e).2
  | .work j i seq => do
    let (k, a) ← s.audiences[j]?
    let d ← a[i]?
    let t ← Desk.State.step ⟨d, []⟩
    some ({ s with audiences := s.audiences.set j (k, a.set i t.desk) }.publish k seq t.events)
  | .release j i n =>
    s.audiences[j]?.map fun (k, a) =>
      { s with audiences := s.audiences.set j (k, a.modify i (·.permit n)) }
  | .close j =>
    s.audiences[j]?.map fun (k, a) => { s with audiences := s.audiences.set j (k, a.close) }
  | .publish k seq es => some (s.publish k seq es)
  | .addHandle k => some (s.onBus k (·.addHandle))
  | .dropHandle k => some (s.onBus k (·.dropHandle))

/-- The network for itself, without its buses. -/
def unheard (s : Broadcast) : Network := s.network.mute

variable {s t : Broadcast} {d : Deed} {m : Network.Move}

/-- Those who listen change nothing but the buses. -/
theorem unheard_of_hidden (h : s.act d = some t) (hidden : d.move? = none) :
    t.unheard = s.unheard := by
  cases d with
  | move m => cases hidden
  | read | leave | seat | emit | release | close =>
    obtain ⟨_, -, rfl⟩ := Option.map_eq_some_iff.mp h
    rfl
  | work j i seq =>
    obtain ⟨⟨k, a⟩, -, h⟩ := Option.bind_eq_some_iff.mp h
    obtain ⟨d, -, h⟩ := Option.bind_eq_some_iff.mp h
    obtain ⟨u, -, ⟨⟩⟩ := Option.bind_eq_some_iff.mp h
    rfl
  | _ =>
    cases h
    rfl

/-- A post takes the same step whether it has a bus or not. -/
theorem act_move (s : Broadcast) (m : Network.Move) :
    (s.act (.move m)).map unheard = s.unheard.act m := by
  rw [unheard, ← Network.act_mute, act, Option.map_map]
  rfl

/-- A network that is listened to and the same network without a bus simulate each other. -/
theorem simulation :
    Simulation act Network.act unheard (fun (_ : Broadcast) (d : Deed) => d.move?) where
  hidden _ _ _ h hidden := unheard_of_hidden h hidden
  visible s d t m h seen := by
    cases d with
    | move m' =>
      obtain rfl := Option.some.inj seen
      rw [← act_move, h]
      rfl
    | _ => cases seen
  lift s m n h := by
    rw [← act_move] at h
    obtain ⟨t, ht, rfl⟩ := Option.map_eq_some_iff.mp h
    exact ⟨.move m, t, rfl, ht, rfl⟩

end Broadcast

end SharedCounter
