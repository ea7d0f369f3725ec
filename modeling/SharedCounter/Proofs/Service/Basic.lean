import SharedCounter.Coordinator.Effort
import SharedCounter.Proofs.Service.Lines
import SharedCounter.Workbench.Basic

/-!
# Services: a coordinator at work among its clients

* `Service`, `Service.start` : a coordinator and its lines, from the hand-over on;
* `Coordinator.answer` : what a poll of the coordinator says. The workbench sees the same
  (`Workbench.polled_coordinating`), and of a send as well (`Workbench.poll_sending`,
  `Workbench.poll_completing`);
* `State.Steps` : any number of steps with any choice of branches. `State.settle` takes steps until
  every branch waits (`State.steps_settle`, `State.waits_settle`), and the coordinator's own poll is
  a case of it (`Coordinator.run_eq_settle`);
* `Service.Step`, `Service.Walk` : acts of the clients and turns of the coordinator, in any order. A
  turn may stop at the states that `rest` allows;
* `Service.performAll` : such walks are found by performing a list of deeds
  (`Service.walk_of_performAll`).
-/

namespace SharedCounter

/-! ## Polls -/

namespace Coordinator

/-- What a poll says that has brought the coordinator here. -/
def answer (c : Coordinator) : Polled :=
  match c.stage with
  | .ended (.counted l) => .counted l
  | .ended (.lost n) => .lost (.completionLost n [])
  | .ended .overflowed => .panicked .sumOverflow
  | _ => .pending

theorem answer_eq_counted_iff {c : Coordinator} {l : Ledger} :
    c.answer = .counted l ↔ c.stage = .ended (.counted l) := by
  unfold answer
  split <;> simp_all

theorem answer_eq_lost_iff {c : Coordinator} {e : RunError} :
    c.answer = .lost e ↔ ∃ n, c.stage = .ended (.lost n) ∧ e = .completionLost n [] := by
  unfold answer
  split <;> simp_all [eq_comm]

namespace State

/-- Steps with any choice of branches. -/
def Steps : State → State → Prop := Relation.ReflTransGen fun s t => ∃ b, s.step b = some t

/-- A coordinator taken as far as it gets without waiting, where `order` tells which branches are
tried, and which of them first. -/
def settle (order : State → List Branch) (s : State) : State :=
  advance (fun t => (order t).findSome? t.step) s.effort s

theorem steps_settle (order : State → List Branch) (s : State) : s.Steps (s.settle order) := by
  refine advance_invariant (P := s.Steps) (fun t u h steps => ?_) s.effort .refl
  obtain ⟨b, -, hb⟩ := List.exists_of_findSome?_eq_some h
  exact Relation.ReflTransGen.tail steps ⟨b, hb⟩

theorem waits_settle {order : State → List Branch} (all : ∀ t b, b ∈ order t) (s : State) :
    (s.settle order).Waits := by
  have stops : (order (s.settle order)).findSome? (s.settle order).step = none := by
    refine advance_stops (f := fun t => (order t).findSome? t.step) (μ := effort)
      (fun t u h => ?_) (Nat.le_refl _)
    obtain ⟨b, -, hb⟩ := List.exists_of_findSome?_eq_some h
    exact effort_step hb
  exact fun b => List.findSome?_eq_none_iff.mp stops b (all _ b)

theorem mem_preference (s : State) (b : Branch) : b ∈ s.preference := by
  unfold preference
  split <;> rcases b with (_ | _) | _ <;> simp

end State

/-- The coordinator's own way to take its steps is one of these. -/
theorem run_eq_settle (c : Coordinator) (i : Inlets) :
    c.run i = State.settle State.preference ⟨c, i, []⟩ := rfl

end Coordinator

/-- The workbench says what the coordinator says after its poll. -/
theorem Workbench.polled_coordinating (w : Workbench) (c : Coordinator) (i j k : Nat)
    (bus : Option Nat) : (w.poll (.coordinating c i j k bus)).2.1
      = (c.run ⟨w.channel i, w.channel j, w.channel k⟩).coordinator.answer := by
  unfold Workbench.poll Coordinator.answer
  dsimp only
  generalize (c.run ⟨w.channel i, w.channel j, w.channel k⟩).coordinator.stage = stage
  rcases stage with _ | _ | _ | (_ | _ | _) <;> rfl

/-- A poll of a send on the workbench comes out as a poll of it on a line does. -/
theorem Workbench.poll_sending (w : Workbench) (side : Side) (f : Sending) (i : Nat) :
    ∃ p d, Sending.Polled (.signals side) f (w.channel i) p d ∧
      w.poll (.sending (f.future (.signals side)) i) = (w.setChannel i d,
        Workbench.polledVerdict .sent p.verdict, if p.ended then none else some (.sending p i)) :=
  ⟨_, _, f.polled _ _, rfl⟩

theorem Workbench.poll_completing (w : Workbench) (f : Sending) (held : CompletionEnd) :
    ∃ p d, Sending.Polled .completions f (w.channel held.channel) p d ∧
      w.poll (.completing (f.future .completions) held) = (w.setChannel held.channel d,
        Workbench.polledVerdict .sent p.verdict,
        if p.ended then none else some (.completing p held)) :=
  ⟨_, _, f.polled _ _, rfl⟩

/-! ## Services -/

/-- A coordinator and the lines that it was given. -/
structure Service where
  coordinator : Coordinator
  lines : Lines
  /-- Whether it was given the second signal line before the first one. -/
  flipped : Bool := false
  deriving DecidableEq, Repr

/-- What happens next: an act of a client, or a poll of the coordinator. -/
inductive Deed where
  | client (branch : Branch) (act : Line.Act)
  | turn
  deriving DecidableEq, Repr

namespace Service

/-- A coordinator is given its lines. -/
def start (initial : Int) (producers : Nat) (given : Lines) (flipped : Bool) : Service where
  coordinator := .create initial producers (given.effect (Side.first.flip flipped))
    (given.effect (Side.second.flip flipped))
  lines := given.handOver
  flipped := flipped

def state (s : Service) : Coordinator.State := ⟨s.coordinator, s.lines.inlets s.flipped, []⟩

/-- The service after the coordinator has moved. -/
def put (s : Service) (u : Coordinator.State) : Service :=
  { s with coordinator := u.coordinator, lines := s.lines.putInlets s.flipped u.inlets }

/-- The service after its line of branch `b` has changed. -/
def setLine (s : Service) (b : Branch) (m : Line) : Service :=
  { s with lines := s.lines.setLine b m }

theorem state_put (s : Service) (u : Coordinator.State) :
    (s.put u).state = { u with events := [] } := by
  simp [state, put]

variable {rest : Coordinator.State → Prop} {s t : Service}

/-- One deed, where a turn of the coordinator stops at a state that `rest` allows. -/
inductive Step (rest : Coordinator.State → Prop) (s : Service) : Deed → Service → Prop where
  | client {b : Branch} {a : Line.Act} {m : Line} (act : (s.lines.line b).act b a = some m) :
      Step rest s (.client b a) (s.setLine b m)
  | turn {u : Coordinator.State} (steps : s.state.Steps u) (rests : rest u) :
      Step rest s .turn (s.put u)

/-- Deeds one after the other, the last one first. -/
inductive Walk (rest : Coordinator.State → Prop) (s : Service) : List Deed → Service → Prop where
  | nil : Walk rest s [] s
  | cons {d : Deed} {ds : List Deed} {t u : Service} (walk : Walk rest s ds t)
      (step : Step rest t d u) : Walk rest s (d :: ds) u

/-- One deed, where the coordinator tries its branches in some order. -/
def perform (order : Coordinator.State → List Branch) (s : Service) : Deed → Option Service
  | .client b a => ((s.lines.line b).act b a).map (s.setLine b)
  | .turn => some (s.put (s.state.settle order))

/-- All deeds of a list, the last one first. -/
def performAll (order : Coordinator.State → List Branch) (s : Service) :
    List Deed → Option Service
  | [] => some s
  | d :: ds => (performAll order s ds).bind (perform order · d)

theorem step_of_perform {order : Coordinator.State → List Branch} (all : ∀ t b, b ∈ order t)
    {d : Deed} (h : s.perform order d = some t) : Step Coordinator.State.Waits s d t := by
  cases d with
  | client b a =>
    obtain ⟨m, act, rfl⟩ := Option.map_eq_some_iff.mp h
    exact .client act
  | turn =>
    cases h
    exact .turn (s.state.steps_settle order) (Coordinator.State.waits_settle all s.state)

theorem walk_of_performAll {order : Coordinator.State → List Branch} (all : ∀ t b, b ∈ order t)
    {ds : List Deed} (h : s.performAll order ds = some t) :
    Walk Coordinator.State.Waits s ds t := by
  induction ds generalizing t with
  | nil =>
    cases h
    exact .nil
  | cons d ds ih =>
    obtain ⟨u, hu, step⟩ := Option.bind_eq_some_iff.mp h
    exact .cons (ih hu) (step_of_perform all step)

theorem Walk.mono {rest' : Coordinator.State → Prop} (weaker : ∀ u, rest u → rest' u)
    {ds : List Deed} (walk : Walk rest s ds t) : Walk rest' s ds t := by
  induction walk with
  | nil => exact .nil
  | cons _ step ih =>
    cases step with
    | client act => exact .cons ih (.client act)
    | turn steps rests => exact .cons ih (.turn steps (weaker _ rests))

end Service

end SharedCounter
