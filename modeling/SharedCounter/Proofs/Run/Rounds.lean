import Mathlib.Data.Nat.Find
import SharedCounter.Proofs.Run.Bare

/-!
# Counts that are taken one item at a time

* `Team.still`, `Bare.still` : a count with at most one item on the way, when its coordinator has
  counted so many signals and completions. A producer that sends puts an item on the way
  (`Bare.act_send`, `Bare.act_complete`), and the coordinator takes it from there (`Bare.act_count`,
  `Bare.act_observe`), or a sum leaves its range (`Bare.act_overflow`);
* `Bare.tally c n` : the producers have told that they start, and `n e` signals of each effect are
  sent and counted. One more signal is a round (`Bare.leads_round`);
* `Bare.leads_whole` : there is a schedule in which everything is counted, as long as the counter
  begins in its range;
* `Bare.leads_overflow` : there is one in which the counter leaves its range, if the signals of one
  producer alone take it there.
-/

namespace SharedCounter

open Producer (State)

namespace Team

variable {c : Config} {q : Effect → Producer} {n : Effect → Nat} {k : Nat} {e : Effect}
  {way : Option Branch}

/-- The channels of `c`, empty but for the item on the `way`, on which the producers `q` hold their
ends. -/
def pathway (c : Config) (q : Effect → Producer) (way : Option Branch) : Inlets where
  first := { Channel.create c.signalSlots with
    buffered := if way = some (.signals .first) then 1 else 0
    senders := (q .increment).holdsSignals.toNat }
  second := { Channel.create c.signalSlots with
    buffered := if way = some (.signals .second) then 1 else 0
    senders := (q .decrement).holdsSignals.toNat }
  completions := { Channel.create c.completionSlots with
    buffered := if way = some .completions then 1 else 0
    senders := (q .increment).holdsCompletion.toNat + (q .decrement).holdsCompletion.toNat }

/-- A coordinator that has counted `n e` signals of each effect and `k` completions. -/
def counting (c : Config) (n : Effect → Nat) (k : Nat) : Coordinator :=
  { Coordinator.create c.initial 2 .increment .decrement with
    counter := c.initial + n .increment - n .decrement
    remaining := 2 - k
    ledger :=
      { value := c.initial, increments := n .increment, decrements := n .decrement,
        completions := k } }

/-- The team of `c` with at most one item on the way: the producers stand as in `q`, and the
coordinator has counted `n e` signals of each effect and `k` completions. -/
def still (c : Config) (q : Effect → Producer) (n : Effect → Nat) (k : Nat)
    (way : Option Branch) : Team where
  incrementer := q .increment
  decrementer := q .decrement
  coordinator := counting c n k
  inlets := pathway c q way

theorem producer_still : (still c q n k way).producer e = q e := by cases e <;> rfl

/-- The channels on which a producer sends. -/
def pathwayOf (c : Config) (q : Effect → Producer) (way : Option Branch) (e : Effect) : Outlets :=
  ⟨(pathway c q way).signals (side e), (pathway c q way).completions⟩

theorem producerState_still :
    (still c q n k way).producerState e = ⟨q e, pathwayOf c q way e, []⟩ := by
  cases e <;> rfl

theorem putProducer_still {u : State} {i : Item}
    (outlets : u.outlets = pathwayOf c (Function.update q e u.producer) way e)
    (own : way = none ∨ way = some (branch e i)) :
    (still c q n k none).putProducer e u = still c (Function.update q e u.producer) n k way := by
  obtain ⟨p, o, es⟩ := u
  dsimp only at outlets
  subst outlets
  rcases own with rfl | rfl
  · cases e <;> rfl
  · cases e <;> cases i <;> rfl

theorem pathwayOf_update {p : Producer} (signals : p.holdsSignals = (q e).holdsSignals)
    (completion : p.holdsCompletion = (q e).holdsCompletion) :
    pathwayOf c (Function.update q e p) way e = pathwayOf c q way e := by
  cases e <;> simp [pathwayOf, pathway, side, Inlets.signals, signals, completion]

end Team

namespace Bare

open Team (pathwayOf)

variable {c : Config} {q : Effect → Producer} {n : Effect → Nat} {k : Nat} {e : Effect}
  {way : Option Branch} {j : List Effect} {rest : List Act} {i : Item} {u : State}

/-- A count with at most one item on the way, whose producers `j` have ended. -/
def still (c : Config) (q : Effect → Producer) (n : Effect → Nat) (k : Nat) (way : Option Branch)
    (j : List Effect) : Bare :=
  { team := .still c q n k way, joined := j }

theorem act_producer (step : State.step ⟨q e, pathwayOf c q none e, []⟩ = some u)
    (outlets : u.outlets = pathwayOf c (Function.update q e u.producer) way e)
    (own : way = none ∨ way = some (Team.branch e i)) :
    (still c q n k none j).act (.producer e)
      = some (still c (Function.update q e u.producer) n k way
          (if u.producer.ended then j ++ [e] else j)) := by
  have put := Team.putProducer_still (n := n) (k := k) outlets own
  simp only [act, stepProducer, still, Team.step, Team.producerState_still, step, Option.map_some,
    put, Team.producer_still, Function.update_self]
  split <;> rfl

theorem act_send {left : Nat} (acts : (q e).acts = .send (left + 1) :: rest)
    (fresh : (q e).place = none) (going : (q e).verdict = none)
    (holds : (q e).holdsSignals = true) :
    (still c q n k none j).act (.producer e)
      = some (still c (Function.update q e ((q e).next (.send left :: rest))) n k
          (some (Team.branch e .signal)) j) := by
  have room := clampSlots_pos c.signalSlots
  let u : State := ⟨(q e).next (.send left :: rest),
    pathwayOf c q (some (Team.branch e .signal)) e, []⟩
  have step : State.step ⟨q e, pathwayOf c q none e, []⟩ = some u := by
    rw [State.step]
    simp only [going, acts, State.perform, holds, if_true, State.sendTo, fresh]
    cases e <;> simp [u, Team.branch, pathwayOf, Team.pathway, Team.side, Inlets.signals,
      Channel.create, Channel.pollSend, Channel.free, room]
  have outlets : u.outlets = pathwayOf c (Function.update q e u.producer)
      (some (Team.branch e .signal)) e := (Team.pathwayOf_update (p := u.producer) rfl rfl).symm
  have ended : u.producer.ended = false := by simp [Producer.ended, Producer.next, going, u]
  rw [act_producer step outlets (.inr rfl), ended]
  rfl

theorem act_complete (acts : (q e).acts = .complete :: rest)
    (fresh : (q e).place = none) (going : (q e).verdict = none)
    (holds : (q e).holdsCompletion = true) :
    (still c q n k none j).act (.producer e)
      = some (still c (Function.update q e ((q e).next rest)) n k (some .completions) j) := by
  have room := clampSlots_pos c.completionSlots
  let u : State := ⟨(q e).next rest, pathwayOf c q (some .completions) e, []⟩
  have step : State.step ⟨q e, pathwayOf c q none e, []⟩ = some u := by
    rw [State.step]
    simp only [going, acts, State.perform, holds, if_true, State.sendTo, fresh]
    cases e <;> simp [u, pathwayOf, Team.pathway, Team.side, Inlets.signals,
      Channel.create, Channel.pollSend, Channel.free, room]
  have outlets : u.outlets = pathwayOf c (Function.update q e u.producer) (some .completions) e :=
    (Team.pathwayOf_update (p := u.producer) rfl rfl).symm
  have ended : u.producer.ended = false := by simp [Producer.ended, Producer.next, going, u]
  rw [act_producer (i := .completion) step outlets (.inr rfl), ended]
  rfl

theorem act_quiet {p : Producer} {es : List Event}
    (step : State.step ⟨q e, pathwayOf c q none e, []⟩ = some ⟨p, pathwayOf c q none e, es⟩)
    (signals : p.holdsSignals = (q e).holdsSignals)
    (completion : p.holdsCompletion = (q e).holdsCompletion) :
    (still c q n k none j).act (.producer e)
      = some (still c (Function.update q e p) n k none (if p.ended then j ++ [e] else j)) :=
  act_producer (i := .signal) step (Team.pathwayOf_update signals completion).symm (.inl rfl)

/-- A count with the producers `q` and a coordinator at work. -/
def around (q : Effect → Producer) (s : Coordinator.State) (j : List Effect) : Bare :=
  { team := ⟨q .increment, q .decrement, s.coordinator, s.inlets⟩, joined := j }

theorem act_around {s t : Coordinator.State} {b : Branch}
    (going : ∀ o, s.coordinator.stage ≠ .ended o)
    (step : Coordinator.State.step ⟨s.coordinator, s.inlets, []⟩ b = some t) :
    (around q s j).act (.main b) = some (around q t j) := by
  have moved : (around q s j).team.step (.coordinator b)
      = some ((around q t j).team, t.events) := by
    show (Coordinator.State.step ⟨s.coordinator, s.inlets, []⟩ b).map _ = _
    rw [step]
    rfl
  show (around q s j).stepMain b = _
  unfold stepMain
  dsimp only [around] at moved ⊢
  split
  next stands => exact absurd stands (going .overflowed)
  next o _ stands => exact absurd stands (going o)
  next => rw [moved]; rfl

theorem act_serve {b : Branch} {t : Coordinator.State} (missing : k < 2)
    (served : Coordinator.State.serve ⟨Team.counting c n k, Team.pathway c q way, []⟩ b = some t) :
    (still c q n k way j).act (.main b) = some (around q t j) := by
  have remaining : 2 - k ≠ 0 := by omega
  let s : Coordinator.State := ⟨Team.counting c n k, Team.pathway c q way, []⟩
  have step : s.step b = some t := by
    rw [← served]
    exact if_neg remaining
  exact act_around (s := s) (by rintro o ⟨⟩) step

theorem serve_signal :
    Coordinator.State.serve
        ⟨Team.counting c n k, Team.pathway c q (some (Team.branch e .signal)), []⟩
        (Team.branch e .signal)
      = some (Coordinator.State.apply ⟨Team.counting c n k, Team.pathway c q none, []⟩ e) := by
  cases e <;> rfl

theorem act_count (missing : k < 2) (fits : (Team.counting c n k).Fits e) :
    (still c q n k (some (Team.branch e .signal)) j).act (.main (Team.branch e .signal))
      = some (still c q (Function.update n e (n e + 1)) k none j) := by
  have fits' : (Coordinator.State.coordinator
      ⟨Team.counting c n k, Team.pathway c q none, []⟩).Fits e := fits
  have credit : (Team.counting c n k).credit e
      = Team.counting c (Function.update n e (n e + 1)) k := by
    cases e <;> simp [Team.counting, Coordinator.credit, Effect.delta, Ledger.booked] <;> omega
  have served := serve_signal (c := c) (q := q) (n := n) (k := k) (e := e)
  rw [Coordinator.State.apply_of_fits fits'] at served
  rw [act_serve missing served]
  simp only [credit]
  rfl

theorem act_overflow (missing : k < 2) (out : ¬ (Team.counting c n k).Fits e) :
    ∃ v, follow act (still c q n k (some (Team.branch e .signal)) j)
        [.main (Team.branch e .signal), .main .completions] = some v ∧
      v.main = .coordinating ∧ v.team.coordinator.stage = .ended .overflowed := by
  have out' : ¬ (Coordinator.State.coordinator
      ⟨Team.counting c n k, Team.pathway c q none, []⟩).Fits e := out
  have served := serve_signal (c := c) (q := q) (n := n) (k := k) (e := e)
  rw [Coordinator.State.apply_of_not_fits out'] at served
  rw [follow_cons, act_serve missing served]
  exact ⟨_, rfl, rfl, rfl⟩

theorem act_observe (missing : k < 2) (few : n .increment + n .decrement ≤ countMax) :
    (still c q n k (some .completions) j).act (.main .completions)
      = some (still c q n (k + 1) none j) := by
  have fits : (Coordinator.State.coordinator
      ⟨Team.counting c n k, Team.pathway c q none, []⟩).ledger.applied ≤ countMax := few
  have served : Coordinator.State.serve
        ⟨Team.counting c n k, Team.pathway c q (some .completions), []⟩ .completions
      = some (Coordinator.State.complete ⟨Team.counting c n k, Team.pathway c q none, []⟩) := rfl
  have countDown : (Team.counting c n k).countDown = Team.counting c n (k + 1) := by
    simp only [Team.counting, Coordinator.countDown, Coordinator.create, Nat.sub_sub]
  rw [Coordinator.State.complete_of_le fits] at served
  rw [act_serve missing served]
  simp only [Coordinator.State.note, countDown]
  rfl

/-! ## Counts that are taken one item at a time -/

/-- A producer that is about to start. -/
def ready (c : Config) (e : Effect) : Producer := .orderly e.name c.iterations

/-- A producer that has told that it starts, with `left` signals to send. -/
def sending (c : Config) (left : Nat) (e : Effect) : Producer where
  name := e.name
  acts := [.send left, .complete, .announce .producerFinished (some c.iterations)]

/-- A producer that has finished. -/
def finished (e : Effect) : Producer where
  name := e.name
  acts := []
  holdsSignals := false
  holdsCompletion := false
  verdict := some .finished

/-- The count when `n e` signals of each effect are sent and counted, and nothing is on the way. -/
def tally (c : Config) (n : Effect → Nat) : Bare :=
  still c (fun e => sending c (c.iterations - n e) e) n 0 none []

theorem leads_announce {c : Config} {q : Effect → Producer} {e : Effect} (fresh : q e = ready c e) :
    Leads act (still c q n k none j)
      (still c (Function.update q e (sending c c.iterations e)) n k none j) := by
  let starting : Event :=
    { kind := .producerStarting, producer := some e.name, count := some c.iterations }
  have step : State.step ⟨q e, pathwayOf c q none e, []⟩
      = some ⟨sending c c.iterations e, pathwayOf c q none e, [starting]⟩ := by
    rw [fresh]
    rfl
  have told := act_quiet (n := n) (k := k) (j := j) step (by rw [fresh]; rfl) (by rw [fresh]; rfl)
  exact (Leads.refl _).move told

theorem leads_tally (c : Config) :
    Leads act (start c (Team.orderlyActs c)) (tally c fun _ => 0) := by
  have fresh : start c (Team.orderlyActs c) = still c (ready c) (fun _ => 0) 0 none [] := by
    simp only [still, Team.still, Team.counting, Int.natCast_zero, Int.add_zero, Int.sub_zero]
    rfl
  have both : Function.update (Function.update (ready c) .increment
        (sending c c.iterations .increment)) .decrement (sending c c.iterations .decrement)
      = sending c (c.iterations - 0) := by
    funext e
    cases e <;> rfl
  have first : Leads act (still c (ready c) (fun _ => 0) 0 none []) _ :=
    leads_announce (e := .increment) rfl
  have told := first.trans (leads_announce (e := .decrement) rfl)
  rw [both] at told
  rw [fresh]
  exact told

theorem act_tally {c : Config} {n : Effect → Nat} {e : Effect} (more : n e < c.iterations) :
    (tally c n).act (.producer e)
      = some (still c (fun f => sending c (c.iterations - Function.update n e (n e + 1) f) f) n 0
          (some (Team.branch e .signal)) []) := by
  have left : c.iterations - n e = c.iterations - (n e + 1) + 1 := by omega
  have acts : (sending c (c.iterations - n e) e).acts
      = .send (c.iterations - (n e + 1) + 1) ::
        [.complete, .announce .producerFinished (some c.iterations)] := by
    rw [← left]
    rfl
  have sent := act_send (c := c) (q := fun f => sending c (c.iterations - n f) f) (n := n) (k := 0)
    (e := e) (j := []) acts rfl rfl rfl
  have same : Function.update (fun f => sending c (c.iterations - n f) f) e
        (sending c (c.iterations - (n e + 1)) e)
      = fun f => sending c (c.iterations - Function.update n e (n e + 1) f) f := by
    funext f
    cases e <;> cases f <;> rfl
  rw [← same]
  exact sent

theorem leads_round {c : Config} {n : Effect → Nat} {e : Effect} (more : n e < c.iterations)
    (fits : (Team.counting c n 0).Fits e) :
    Leads act (tally c n) (tally c (Function.update n e (n e + 1))) :=
  ((Leads.refl _).move (act_tally more)).move (act_count Nat.two_pos fits)

/-! ## Finishing -/

theorem leads_quiet {p : Producer} (p' : Producer)
    (step : ∀ o, ∃ es, State.step ⟨p, o, []⟩ = some ⟨p', o, es⟩)
    (signals : p'.holdsSignals = p.holdsSignals)
    (completion : p'.holdsCompletion = p.holdsCompletion) (going : p'.ended = false) :
    Leads act (still c (Function.update q e p) n k none j)
      (still c (Function.update q e p') n k none j) := by
  have stands : Function.update q e p e = p := Function.update_self ..
  rw [← stands] at step signals completion
  obtain ⟨es, step⟩ := step (pathwayOf c _ none e)
  have moved := act_quiet (n := n) (k := k) (j := j) step signals completion
  rw [Function.update_idem, going] at moved
  exact (Leads.refl _).move moved

theorem leads_complete {p : Producer} (acts : p.acts = .complete :: rest) (fresh : p.place = none)
    (going : p.verdict = none) (holds : p.holdsCompletion = true) (missing : k < 2)
    (few : n .increment + n .decrement ≤ countMax) :
    Leads act (still c (Function.update q e p) n k none j)
      (still c (Function.update q e (p.next rest)) n (k + 1) none j) := by
  have stands : Function.update q e p e = p := Function.update_self ..
  rw [← stands] at acts fresh going holds
  have sent := act_complete (c := c) (n := n) (k := k) (j := j) acts fresh going holds
  rw [Function.update_idem, Function.update_self] at sent
  exact ((Leads.refl _).move sent).move (act_observe missing few)

theorem leads_let_go (stands : q e = { name := e.name, acts := [], verdict := some .finished }) :
    Leads act (still c q n k none j)
      (still c (Function.update q e (finished e)) n k none (j ++ [e])) := by
  let p : Producer :=
    { name := e.name, acts := [], holdsSignals := false, verdict := some .finished }
  have first : (still c q n k none j).act (.producer e)
      = some (still c (Function.update q e p) n k none j) := by
    refine act_producer (u := ⟨p, pathwayOf c (Function.update q e p) none e, []⟩) (i := .signal)
      ?_ rfl (.inl rfl)
    rw [stands]
    cases e <;> simp [p, State.step, State.letGoSignals, pathwayOf, Team.pathway, Team.side,
      Inlets.signals, Channel.dropSender, Channel.create, stands]
  have second : (still c (Function.update q e p) n k none j).act (.producer e)
      = some (still c (Function.update q e (finished e)) n k none (j ++ [e])) := by
    rw [← Function.update_idem p (finished e) q]
    let last := pathwayOf c (Function.update (Function.update q e p) e (finished e)) none e
    refine act_producer (u := ⟨finished e, last, []⟩) (i := .signal) ?_ rfl (.inl rfl)
    rw [Function.update_self]
    cases e <;> simp [p, last, finished, State.step, State.letGoCompletion, pathwayOf, Team.pathway,
      Team.side, Inlets.signals, Channel.dropSender, Channel.create]
  exact ((Leads.refl _).move first).move second

/-- A producer that has sent every signal sends its completion, which is counted, and finishes. -/
theorem leads_finished (sends : q e = sending c 0 e) (missing : k < 2)
    (few : n .increment + n .decrement ≤ countMax) :
    Leads act (still c q n k none j)
      (still c (Function.update q e (finished e)) n (k + 1) none (j ++ [e])) := by
  have stands : q = Function.update q e (sending c 0 e) := by
    rw [← sends, Function.update_eq_self]
  let said := [Act.announce .producerFinished (some c.iterations)]
  have sent : Leads act (still c q n k none j)
      (still c (Function.update q e { name := e.name, acts := .complete :: said }) n k none j) := by
    rw [stands, Function.update_idem]
    exact leads_quiet _ (fun _ => ⟨[], rfl⟩) rfl rfl rfl
  have completed := sent.trans (leads_complete (e := e) rfl rfl rfl rfl missing few)
  have told := completed.trans
    (leads_quiet { name := e.name, acts := [] } (fun _ => ⟨_, rfl⟩) rfl rfl rfl)
  have ended := told.trans (leads_quiet { name := e.name, acts := [], verdict := some .finished }
    (fun _ => ⟨[], rfl⟩) rfl rfl rfl)
  have gone := ended.trans (leads_let_go (Function.update_self ..))
  rwa [Function.update_idem] at gone

/-- The books of a whole count. -/
def wholeLedger (c : Config) : Ledger :=
  { value := c.initial, increments := c.iterations, decrements := c.iterations, completions := 2 }

/-- When every signal and both completions are counted, the coordinator closes the books. -/
theorem leads_counted (few : 2 * c.iterations ≤ countMax) :
    ∃ s, Leads act (still c q (fun _ => c.iterations) 2 none j) (around q s j) ∧
      s.coordinator.stage = .ended (.counted (wholeLedger c)) := by
  let total := c.iterations + c.iterations
  let full := Team.counting c (fun _ => c.iterations) 2
  let there (stage : Stage) : Coordinator.State := ⟨{ full with stage }, Team.pathway c q none, []⟩
  let settled (stage : Stage) : Coordinator.State :=
    ⟨{ full with ledger := wholeLedger c, stage }, Team.pathway c q none, []⟩
  have applied : ∀ stage, (there stage).coordinator.ledger.applied? = some total := fun _ =>
    Ledger.applied?_of_le (show total ≤ countMax by omega)
  have closing : { full.ledger with drained := total - total, value := full.counter }
      = wholeLedger c := by
    have value : full.counter = c.initial := by
      show c.initial + c.iterations - c.iterations = c.initial
      omega
    rw [value, Nat.sub_self]
    rfl
  have begins : (there .running).step .completions
      = some ((there (.draining total .first false)).note
          { kind := .drainStarted, phase := some .draining, count := some total }) := by
    show some (there .running).startDrain = _
    unfold Coordinator.State.startDrain
    rw [applied]
  have closes : (there (.draining total .second false)).step .completions
      = some ((settled (.leaving (.counted (wholeLedger c)))).note
          { kind := .drainFinished, phase := some .done, count := some (total - total) }) := by
    show some ((there (.draining total .second false)).finishDrain total) = _
    unfold Coordinator.State.finishDrain
    rw [applied]
    dsimp only [settled]
    rw [← closing]
  have first := (Leads.refl _).move
    (act_around (q := q) (j := j) (s := there .running) (by rintro o ⟨⟩) begins)
  have second := first.move (act_around (t := there (.draining total .second false))
    (b := .completions) (by rintro o ⟨⟩) rfl)
  have third := second.move (act_around (b := .completions) (by rintro o ⟨⟩) closes)
  have ended := third.move (act_around (b := .completions) (by rintro o ⟨⟩) rfl)
  exact ⟨_, ended, rfl⟩

/-! ## Within the range -/

/-- A signal of each effect is sent and counted, that of `e` first. -/
theorem leads_pair {k : Nat} {e f : Effect} (other : f ≠ e) (more : k < c.iterations)
    (few : c.iterations ≤ countMax) (low : counterMin ≤ c.initial) (high : c.initial ≤ counterMax)
    (down : counterMin ≤ c.initial + e.delta) (up : c.initial + e.delta ≤ counterMax) :
    Leads act (tally c fun _ => k) (tally c fun _ => k + 1) := by
  have there : (Team.counting c (fun _ => k) 0).Fits e := by
    refine ⟨?_, ?_, ?_⟩
    · show counterMin ≤ c.initial + k - k + e.delta
      omega
    · show c.initial + k - k + e.delta ≤ counterMax
      omega
    · cases e <;> exact Nat.le_trans more few
  have back : (Team.counting c (Function.update (fun _ => k) e (k + 1)) 0).Fits f := by
    cases e <;> cases f <;> first
      | exact absurd rfl other
      | refine ⟨?_, ?_, Nat.le_trans more few⟩ <;>
          simp [Team.counting, Function.update, Effect.delta] <;> omega
  have both := (leads_round (n := fun _ => k) more there).trans (leads_round (e := f)
    (by rw [Function.update_of_ne other]; exact more) back)
  have same : Function.update (Function.update (fun _ => k) e (k + 1)) f
      (Function.update (fun _ => k) e (k + 1) f + 1) = fun _ => k + 1 := by
    funext g
    cases e <;> cases f <;> cases g <;> first | rfl | exact absurd rfl other
  rwa [same] at both

/-- Both producers take turns, and the counter stays within one of where it began. -/
theorem leads_balanced (few : c.iterations ≤ countMax) (low : counterMin ≤ c.initial)
    (high : c.initial ≤ counterMax) :
    Leads act (start c (Team.orderlyActs c)) (tally c fun _ => c.iterations) := by
  have pair : ∀ k < c.iterations, Leads act (tally c fun _ => k) (tally c fun _ => k + 1) := by
    intro k more
    have wide : counterMin < counterMax := by decide
    by_cases room : c.initial < counterMax
    · refine leads_pair (e := .increment) (f := .decrement) (by rintro ⟨⟩) more few low high ?_ ?_
      · show counterMin ≤ c.initial + 1
        omega
      · exact room
    · refine leads_pair (e := .decrement) (f := .increment) (by rintro ⟨⟩) more few low high ?_ ?_
      · show counterMin ≤ c.initial + -1
        omega
      · show c.initial + -1 ≤ counterMax
        omega
  have upto : ∀ k ≤ c.iterations,
      Leads act (start c (Team.orderlyActs c)) (tally c fun _ => k) := by
    intro k le
    induction k with
    | zero => exact leads_tally c
    | succ k ih => exact (ih (by omega)).trans (pair k le)
  exact upto _ (Nat.le_refl _)

theorem leads_whole (few : 2 * c.iterations ≤ countMax) (low : counterMin ≤ c.initial)
    (high : c.initial ≤ counterMax) :
    ∃ s, Leads act (start c (Team.orderlyActs c)) (around finished s [.increment, .decrement]) ∧
      s.coordinator.stage = .ended (.counted (wholeLedger c)) := by
  have balanced := leads_balanced (c := c) (by omega) low high
  have total : c.iterations + c.iterations ≤ countMax := by omega
  have sent : (fun e => sending c (c.iterations - c.iterations) e) = sending c 0 := by
    rw [Nat.sub_self]
  rw [tally, sent] at balanced
  have first := balanced.trans (leads_finished (e := .increment) rfl Nat.two_pos total)
  have second := first.trans (leads_finished (e := .decrement) rfl Nat.one_lt_two total)
  have both : Function.update (Function.update (sending c 0) .increment (finished .increment))
      .decrement (finished .decrement) = finished := by
    funext e
    cases e <;> rfl
  rw [both] at second
  obtain ⟨s, counted, stands⟩ := leads_counted (q := finished) (j := [.increment, .decrement]) few
  exact ⟨s, second.trans counted, stands⟩

/-! ## Out of the range -/

theorem leads_alone {m : Nat} (more : m ≤ c.iterations)
    (fits : ∀ i < m, (Team.counting c (Function.update (fun _ => 0) e i) 0).Fits e) :
    Leads act (start c (Team.orderlyActs c)) (tally c (Function.update (fun _ => 0) e m)) := by
  induction m with
  | zero =>
    rw [show Function.update (fun _ => 0) e 0 = fun _ : Effect => 0 from Function.update_eq_self ..]
    exact leads_tally c
  | succ m ih =>
    have before := ih (by omega) fun i hi => fits i (by omega)
    have round := leads_round (e := e) (n := Function.update (fun _ => 0) e m)
      (by rw [Function.update_self]; exact more) (fits m (by omega))
    rw [Function.update_self, Function.update_idem] at round
    exact before.trans round

theorem counter_alone (c : Config) (e : Effect) (m : Nat) :
    (Team.counting c (Function.update (fun _ => 0) e m) 0).counter = c.initial + m * e.delta := by
  cases e <;> simp [Team.counting, Function.update, Effect.delta]; omega

/-- A producer that goes ahead alone takes the counter out of its range, if its signals suffice. -/
theorem leads_overflow (low : counterMin ≤ c.initial) (high : c.initial ≤ counterMax)
    (beyond : c.initial + c.iterations * e.delta < counterMin ∨
      counterMax < c.initial + c.iterations * e.delta) :
    ∃ v, Leads act (start c (Team.orderlyActs c)) v ∧ v.main = .coordinating ∧
      v.team.coordinator.stage = .ended .overflowed := by
  let Out (m : Nat) : Prop :=
    m < c.iterations ∧ ¬ (Team.counting c (Function.update (fun _ => 0) e m) 0).Fits e
  have out : ∃ m, Out m := by
    -- the last signal does not fit, if those before it did
    obtain ⟨m, last⟩ : ∃ m, c.iterations = m + 1 := by
      refine Nat.exists_eq_succ_of_ne_zero fun none_sent => ?_
      rw [none_sent] at beyond
      simp at beyond
      omega
    refine ⟨m, by omega, fun fits => ?_⟩
    obtain ⟨above, below, -⟩ := fits
    rw [counter_alone] at above below
    rw [last] at beyond
    cases e <;> simp [Effect.delta] at above below beyond <;> omega
  classical
  have first := Nat.find_spec out
  have fits : ∀ i < Nat.find out,
      (Team.counting c (Function.update (fun _ => 0) e i) 0).Fits e := fun i hi =>
    not_not.mp fun misfit => Nat.find_min out hi ⟨by omega, misfit⟩
  generalize Nat.find out = m at first fits
  obtain ⟨more, misfit⟩ := first
  have before := leads_alone (Nat.le_of_lt more) fits
  have sent := before.move (act_tally (by rw [Function.update_self]; exact more))
  obtain ⟨v, gone, coordinating, stands⟩ := act_overflow Nat.two_pos misfit
  exact ⟨v, sent.trans ⟨_, gone⟩, coordinating, stands⟩

end Bare
end SharedCounter
