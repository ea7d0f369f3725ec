import SharedCounter.Workbench.Basic

/-!
# Steps at the workbench

* `Workbench.Draft` : an event that is asked for, which may turn out to be no event;
* `Workbench.Step` : one thing to do with named parts;
* `Workbench.Answer` : what is seen of it;
* `Workbench.perform` : a step changes the workbench and is answered. A step that names a part that
  is not there, or a sender that is in use, is refused (`Refused`).
-/

namespace SharedCounter.Workbench

/-- A part that can be let go. -/
inductive Part where
  | signalSender
  | signalReceiver
  | completionSender
  | completionReceiver
  | bus
  | listener
  | audience
  deriving DecidableEq, Repr

/-- A member of an audience: a subscriber, or a roster under a name. -/
inductive Member where
  | plain (subscriber : Subscriber)
  | roster (name : String)
  deriving DecidableEq, Repr

/-- An event that is asked for. -/
inductive Draft where
  | whole (event : Event)
  /-- It cannot be made. If that was found after it was `begun`, it has taken a number. -/
  | broken (begun : Bool) (reason : String)
  deriving DecidableEq, Repr

/-- One thing to do. -/
inductive Step where
  | signal (id : String) (effect : Effect) (capacity : Nat)
  | completion (id : String) (capacity : Nat)
  | cloneCompletion (source id : String)
  | send (channel errand : String) (n : Nat)
  | complete (channel name errand : String)
  | poll (errand : String)
  | cancel (errand : String)
  | receive (channel : String)
  | tryReceive (channel : String)
  | receiveCompletion (channel : String)
  | drop (part : Part) (id : String)
  | producer (errand signals completions : String) (iterations : Nat) (bus : Option String)
  | coordinator (errand : String) (initial : Int) (producers : Nat)
      (first second completions : String) (bus : Option String)
  | bus (id : String) (capacity : Nat)
  | subscribe (bus id : String)
  | publish (bus : String) (event : Draft)
  | read (listener : String) (limit : Option Nat)
  | audience (id bus : String) (members : List Member)
  | emit (audience : String) (event : Draft) (n : Nat)
  | settle
  | release (subscriber : String) (n : Nat)
  | seen (subscriber : String)
  | snapshot (roster : String)
  | shutdown (audience errand : String)
  deriving DecidableEq, Repr

/-- Why a step is not taken. -/
inductive Refused where
  | noSuchId
  | senderBusy
  | brokenEvent (reason : String)
  deriving DecidableEq, Repr

namespace Refused

def message : Refused → String
  | noSuchId => "no such id"
  | senderBusy => "sender busy"
  | brokenEvent reason => reason

end Refused

/-- What is seen of a step. -/
inductive Answer where
  | done
  /-- The names that the two ends of a signal channel go by. -/
  | ends (sender receiver : String)
  | polled (p : Polled)
  /-- A send was begun; the buffered items are seen while the receiving end is held. -/
  | sending (p : Polled) (buffered : Option Nat)
  | received (r : Receipt) (buffered : Nat)
  | taken (found : Bool) (buffered : Nat)
  | completionReceived (r : Receipt) (buffered : Nat)
  | producer (effect : Effect)
  | audience (size : Nat)
  | readings (rs : List Reading)
  | seen (es : List Stamped)
  | names (ns : List String)
  | panicked (panic : Panic)
  deriving Repr

/-! ## Taking parts -/

/-- The items buffered in the channel of a receiving end that is held. -/
def bufferedAt (w : Workbench) (id : String) : Option Nat :=
  (w.signalReceivers.find? id).map fun s => (w.channel s.channel).buffered

/-- Whether a pending send holds the sender of this signal channel. -/
def signalBusy (w : Workbench) (channel : Nat) : Bool :=
  w.errands.any fun
    | (_, .sending _ i) => i = channel
    | _ => false

/-- Whether a pending completion holds this sending end. -/
def completionBusy (w : Workbench) (held : CompletionEnd) : Bool :=
  w.errands.any fun
    | (_, .completing _ h) => h = held
    | _ => false

def dropSignalSender (w : Workbench) (id : String) : Workbench :=
  match w.signalSenders.find? id with
  | some s => { w.onChannel s.channel Channel.dropSender with
      signalSenders := w.signalSenders.remove id }
  | none => w

def dropSignalReceiver (w : Workbench) (id : String) : Workbench :=
  match w.signalReceivers.find? id with
  | some s => { w.onChannel s.channel Channel.hangUp with
      signalReceivers := w.signalReceivers.remove id }
  | none => w

def dropCompletionSender (w : Workbench) (id : String) : Workbench :=
  match w.completionSenders.find? id with
  | some s => { w.onChannel s.channel Channel.dropSender with
      completionSenders := w.completionSenders.remove id }
  | none => w

def dropCompletionReceiver (w : Workbench) (id : String) : Workbench :=
  match w.completionReceivers.find? id with
  | some i => { w.onChannel i Channel.hangUp with
      completionReceivers := w.completionReceivers.remove id }
  | none => w

def dropBusName (w : Workbench) (id : String) : Workbench :=
  match w.busNames.find? id with
  | some i => { w.dropBus (some i) with busNames := w.busNames.remove id }
  | none => w

def dropListener (w : Workbench) (id : String) : Workbench :=
  match w.listeners.find? id with
  | some l => { w.onBus l.bus Bus.unsubscribe with listeners := w.listeners.remove id }
  | none => w

def dropAudience (w : Workbench) (id : String) : Workbench :=
  match w.audiences.find? id with
  | some a => { (w.closeAudience a).dropBus (some a.bus) with audiences := w.audiences.remove id }
  | none => w

/-- Whether a part is held under a name. -/
def holds (w : Workbench) : Part → String → Bool
  | .signalSender, id => (w.signalSenders.find? id).isSome
  | .signalReceiver, id => (w.signalReceivers.find? id).isSome
  | .completionSender, id => (w.completionSenders.find? id).isSome
  | .completionReceiver, id => (w.completionReceivers.find? id).isSome
  | .bus, id => (w.busNames.find? id).isSome
  | .listener, id => (w.listeners.find? id).isSome
  | .audience, id => (w.audiences.find? id).isSome

/-- Lets go of a part, if it is held. -/
def letGo (w : Workbench) : Part → String → Workbench
  | .signalSender, id => w.dropSignalSender id
  | .signalReceiver, id => w.dropSignalReceiver id
  | .completionSender, id => w.dropCompletionSender id
  | .completionReceiver, id => w.dropCompletionReceiver id
  | .bus, id => w.dropBusName id
  | .listener, id => w.dropListener id
  | .audience, id => w.dropAudience id

/-! ## Making parts -/

def makeSignal (w : Workbench) (id : String) (effect : Effect) (capacity : Nat) : Workbench :=
  let made : SignalEnd := ⟨w.channels.size, effect⟩
  let w := (w.dropSignalSender id).dropSignalReceiver id
  { w with
    channels := w.channels.push (.create capacity)
    signalSenders := w.signalSenders.put id made
    signalReceivers := w.signalReceivers.put id made }

def makeCompletion (w : Workbench) (id : String) (capacity : Nat) : Workbench :=
  let channel := w.channels.size
  let w := (w.dropCompletionSender id).dropCompletionReceiver id
  { w with
    channels := w.channels.push (.create capacity)
    completionSenders := w.completionSenders.put id ⟨channel, w.nextKey⟩
    completionReceivers := w.completionReceivers.put id channel
    nextKey := w.nextKey + 1 }

def cloneCompletion (w : Workbench) (source : CompletionEnd) (id : String) : Workbench :=
  let w := (w.onChannel source.channel Channel.addSender).dropCompletionSender id
  { w with
    completionSenders := w.completionSenders.put id ⟨source.channel, w.nextKey⟩
    nextKey := w.nextKey + 1 }

def makeBus (w : Workbench) (id : String) (b : Bus) : Workbench :=
  let w := w.dropBusName id
  { w with buses := w.buses.push b, busNames := w.busNames.put id w.buses.size }

def makeListener (w : Workbench) (id : String) (bus : Nat) : Workbench :=
  match w.buses[bus]? with
  | some b =>
    let (b, reader) := b.subscribe
    let w := (w.onBus bus fun _ => b).dropListener id
    { w with listeners := w.listeners.put id ⟨bus, reader⟩ }
  | none => w

/-- The subscriber that stands for a member. -/
def Member.subscriber : Member → Subscriber
  | plain s => s
  | roster _ => { name := Roster.subscriberName }

/-- The member has a desk, and its name leads there, and to its gate if it has one. -/
def enroll (w : Workbench) (m : Member) (desk : Nat) : Workbench :=
  match m with
  | .plain s =>
    { w with
      subscribers := w.subscribers.put s.name desk
      gates := if s.gated then w.gates.put s.name desk else w.gates }
  | .roster name => { w with rosters := w.rosters.put name desk }

/-- Desks for the members of an audience, which are numbered `desks`; their workers begin to run. -/
def makeDesks (w : Workbench) (bus : Nat) (members : List Member) (ds : List Desk)
    (desks : List Nat) : Workbench :=
  let w := { w with desks := w.desks ++ (ds.map fun d => (d, bus)).toArray }
  let w := (members.zip desks).foldl (fun w (m, i) => w.enroll m i) w
  let w := w.onBus bus fun b => { b with handles := b.handles + ds.countP (·.duty = .working) }
  let running := (desks.zip ds).filter (·.2.duty = .working)
  { w with rota := running.foldl (fun r (i, _) => r.wake i) w.rota }

/-- The desks that are left behind when one of the subscribers asks for too large a queue: those
before it are closed at once, and the others never had a worker. -/
def brokenDesks (subscribers : List Subscriber) : List Desk :=
  let desk (working : Bool) (s : Subscriber) : Desk :=
    { subscriber := s, isOpen := false, duty := if working then .working else .left }
  (subscribers.takeWhile (·.slots ≤ slotMax)).map (desk true)
    ++ (subscribers.dropWhile (·.slots ≤ slotMax)).map (desk false)

/-- An audience of which every worker, and the audience itself, holds an end of the bus. -/
def makeAudience (w : Workbench) (id : String) (bus : Nat) (members : List Member) :
    Workbench × Answer :=
  let subscribers := members.map Member.subscriber
  let desks := List.range' w.desks.size members.length
  match Audience.open? subscribers with
  | some a =>
    let w := (w.makeDesks bus members a desks).onBus bus Bus.addHandle
    let w := w.dropAudience id
    ({ w with audiences := w.audiences.put id ⟨desks, bus⟩ }, .audience a.length)
  | none => (w.makeDesks bus members (brokenDesks subscribers) desks, .panicked .queueTooLarge)

/-- Makes an event and offers it at the desks of an audience. -/
def emit (w : Workbench) (a : HeldAudience) (e : Event) : Workbench :=
  let stamped : Stamped := ⟨w.seq, e⟩
  let present : Audience := a.desks.filterMap fun i => (w.desks[i]?).map (·.1)
  let (after, reports) := present.emit stamped
  let w := (a.desks.zip after).foldl (fun w (i, d) => w.onDesk i fun _ => d) w
  { w with seq := w.seq + 1 }.publish (some a.bus) reports

/-- Gives permits to the gate at a desk. A worker that waits there gets the first one, and the gate
holds the others. If they are too many by themselves, the gate does not take them, and the worker
does not hear of its permit; if they are too many only beside those that the gate holds already, it
takes them all the same. -/
def givePermits (w : Workbench) (i n : Nat) : Workbench × Answer :=
  match w.desks[i]? with
  | some (d, bus) =>
    let first := if d.inHand.isSome && d.permits = 0 then min n 1 else 0
    let others := n - first
    if slotMax < others then
      ({ w with desks := w.desks.setIfInBounds i (d.permit first, bus) },
        .panicked .permitsTooMany)
    else if 0 < others ∧ slotMax < d.spare + others then
      (w.onDesk i (·.overfill others), .panicked (.permitsOverflow others))
    else (w.onDesk i (·.permit n), .done)
  | none => (w, .done)

/-- Makes an event and uses it, unless it cannot be made. -/
def withEvent (w : Workbench) (d : Draft) (use : Workbench → Event → Workbench) :
    Workbench × Except Refused Answer :=
  match d with
  | .whole e => (use w e, .ok .done)
  | .broken begun reason => ({ w with seq := w.seq + begun.toNat }, .error (.brokenEvent reason))

/-! ## Steps that take parts over -/

/-- The bus under a name, for a part that may do without one. -/
def busFor (w : Workbench) : Option String → Except Refused (Option Nat)
  | none => .ok none
  | some name =>
    match w.busNames.find? name with
    | some i => .ok (some i)
    | none => .error .noSuchId

/-- One more publishing end of the bus, if there is one. -/
def addBus (w : Workbench) : Option Nat → Workbench
  | some i => w.onBus i Bus.addHandle
  | none => w

/-- A producer takes over a completion sender and a signal sender. Nothing is taken unless all parts
are there; the completion sender is taken first, and is lost if the signal sender is busy. -/
def hireProducer (w : Workbench) (errand signals completions : String) (iterations : Nat)
    (bus : Option String) : Workbench × Except Refused Answer :=
  match w.busFor bus, w.signalSenders.find? signals, w.completionSenders.find? completions with
  | .ok bus, some s, some held =>
    if w.completionBusy held then (w, .error .senderBusy)
    else
      let w := { w with completionSenders := w.completionSenders.remove completions }
      if w.signalBusy s.channel then
        (w.onChannel held.channel Channel.dropSender, .error .senderBusy)
      else
        let w := { w with signalSenders := w.signalSenders.remove signals }.addBus bus
        (w.keep errand (.producing (.orderly s.effect.name iterations) s.channel held.channel bus),
          .ok (.producer s.effect))
  | _, _, _ => (w, .error .noSuchId)

/-- A coordinator takes over three receivers, one after the other. What was taken is lost when the
next one is not there. -/
def hireCoordinator (w : Workbench) (errand : String) (initial : Int) (producers : Nat)
    (first second completions : String) (bus : Option String) :
    Workbench × Except Refused Answer :=
  match w.busFor bus, w.signalReceivers.find? first with
  | .ok bus, some a =>
    let w := { w with signalReceivers := w.signalReceivers.remove first }
    match w.signalReceivers.find? second with
    | none => (w.hangUp [a.channel], .error .noSuchId)
    | some b =>
      let w := { w with signalReceivers := w.signalReceivers.remove second }
      match w.completionReceivers.find? completions with
      | none => (w.hangUp [a.channel, b.channel], .error .noSuchId)
      | some k =>
        let w := { w with completionReceivers := w.completionReceivers.remove completions }
        let c := Coordinator.create initial producers a.effect b.effect
        ((w.addBus bus).keep errand (.coordinating c a.channel b.channel k bus), .ok .done)
  | _, _ => (w, .error .noSuchId)

/-- The closing of an audience: its workers are told, and are waited for. If some have not ended,
the closing is kept under its name, the workers run until they wait, and it is polled again. -/
def shutDown (w : Workbench) (errand : String) (a : HeldAudience) : Workbench × Polled :=
  match (w.closeAudience a).begin errand (.closing a) with
  | (w, .pending) => w.settle.proceed errand (.closing a)
  | ended => ended

/-! ## Performing steps -/

/-- A step changes the workbench and is answered, or it is refused. -/
def perform (w : Workbench) : Step → Workbench × Except Refused Answer
  | .signal id effect capacity =>
    (w.makeSignal id effect capacity, .ok (.ends effect.name effect.name))
  | .completion id capacity => (w.makeCompletion id capacity, .ok .done)
  | .cloneCompletion source id =>
    match w.completionSenders.find? source with
    | some held => (w.cloneCompletion held id, .ok .done)
    | none => (w, .error .noSuchId)
  | .send channel errand n =>
    match w.signalSenders.find? channel with
    | some s =>
      let p : Producer := { name := s.effect.name, acts := [.send n], holdsCompletion := false }
      let (w, polled) := (w.onChannel s.channel Channel.addSender).begin errand
        (.sending p s.channel)
      (w, .ok (.sending polled (w.bufferedAt channel)))
    | none => (w, .error .noSuchId)
  | .complete channel name errand =>
    match w.completionSenders.find? channel with
    | some held =>
      let p : Producer := { name, acts := [.complete], holdsSignals := false }
      let (w, polled) := (w.onChannel held.channel Channel.addSender).begin errand
        (.completing p held)
      (w, .ok (.polled polled))
    | none => (w, .error .noSuchId)
  | .poll errand =>
    match w.errands.find? errand with
    | some e =>
      let (w, polled) := w.proceed errand e
      (w, .ok (.polled polled))
    | none => (w, .error .noSuchId)
  | .cancel errand =>
    match w.errands.find? errand with
    | some e => ({ w.abandon e with errands := w.errands.remove errand }, .ok .done)
    | none => (w, .error .noSuchId)
  | .receive channel =>
    match w.signalReceivers.find? channel with
    | some s =>
      let (r, c) := (w.channel s.channel).receive
      (w.setChannel s.channel c, .ok (.received r c.buffered))
    | none => (w, .error .noSuchId)
  | .tryReceive channel =>
    match w.signalReceivers.find? channel with
    | some s =>
      match (w.channel s.channel).take? with
      | some c => (w.setChannel s.channel c, .ok (.taken true c.buffered))
      | none => (w, .ok (.taken false (w.channel s.channel).buffered))
    | none => (w, .error .noSuchId)
  | .receiveCompletion channel =>
    match w.completionReceivers.find? channel with
    | some i =>
      let (r, c) := (w.channel i).receive
      (w.setChannel i c, .ok (.completionReceived r c.buffered))
    | none => (w, .error .noSuchId)
  | .drop part id => if w.holds part id then (w.letGo part id, .ok .done) else (w, .error .noSuchId)
  | .producer errand signals completions iterations bus =>
    w.hireProducer errand signals completions iterations bus
  | .coordinator errand initial producers first second completions bus =>
    w.hireCoordinator errand initial producers first second completions bus
  | .bus id capacity =>
    match Bus.create capacity w.slotSize with
    | .ok b => (w.makeBus id b, .ok .done)
    | .error p => (w, .ok (.panicked p))
  | .subscribe bus id =>
    match w.busNames.find? bus with
    | some i => (w.makeListener id i, .ok .done)
    | none => (w, .error .noSuchId)
  | .publish bus event =>
    match w.busNames.find? bus with
    | some i => w.withEvent event fun w e => w.publish (some i) [e]
    | none => (w, .error .noSuchId)
  | .read listener limit =>
    match w.listeners.find? listener with
    | some l =>
      match w.buses[l.bus]? with
      | some b =>
        let (rs, reader) := b.readUpTo (limit.getD (b.readLimit l.reader)) l.reader
        ({ w with listeners := w.listeners.put listener { l with reader } }, .ok (.readings rs))
      | none => (w, .error .noSuchId)
    | none => (w, .error .noSuchId)
  | .audience id bus members =>
    match w.busNames.find? bus with
    | some i =>
      let (w, answer) := w.makeAudience id i members
      (w, .ok answer)
    | none => (w, .error .noSuchId)
  | .emit audience event n =>
    match w.audiences.find? audience with
    | some a =>
      if n = 0 then (w, .ok .done)
      else w.withEvent event fun w e => (List.range n).foldl (fun w _ => w.emit a e) w
    | none => (w, .error .noSuchId)
  | .settle => (w.settle, .ok .done)
  | .release subscriber n =>
    match w.gates.find? subscriber with
    | some i =>
      let (w, answer) := w.givePermits i n
      (w, .ok answer)
    | none => (w, .error .noSuchId)
  | .seen subscriber =>
    match (w.subscribers.find? subscriber).bind (w.desks[·]?) with
    | some (d, _) => (w, .ok (.seen d.handled.toList))
    | none => (w, .error .noSuchId)
  | .snapshot roster =>
    match (w.rosters.find? roster).bind (w.desks[·]?) with
    | some (d, _) => (w, .ok (.names d.roster.names))
    | none => (w, .error .noSuchId)
  | .shutdown audience errand =>
    match w.audiences.find? audience with
    | some a =>
      let (w, polled) := { w with audiences := w.audiences.remove audience }.shutDown errand a
      (w, .ok (.polled polled))
    | none => (w, .error .noSuchId)

end SharedCounter.Workbench
