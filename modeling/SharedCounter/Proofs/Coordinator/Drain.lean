import Mathlib.Algebra.BigOperators.Group.List.Basic
import Mathlib.Algebra.Ring.Int.Defs
import Mathlib.Data.List.Count
import Mathlib.Data.List.Infix
import SharedCounter.Proofs.Channel.Queue
import SharedCounter.Proofs.Coordinator.Change

/-!
# Draining takes turns, and takes everything

* `turns a b` : the order in which `a` items of one channel and `b` of another are taken by turns,
  the longer channel going on alone; `Inlets.ahead` is what is left of it in the middle of a round
  (`Inlets.ahead_of_take?`, `Inlets.ahead_of_empty`);
* `drainStep_of_fits`, `drainStep_of_not_fits`, `drainStep_of_empty`, `drainStep_of_nothing` : what
  one step of draining does;
* `Drain` : a moment of draining, with the channels that gave an item so far. `State.drain` is the
  last one, and the steps that lead to it are those of the coordinator (`step_drainFor`);
* `Credited` : a coordinator after some signals, none of which took the counter out of its range;
* `Moment` : draining goes on (`Going`), or a sum has left its range, or the books are closed
  (`Sealed`). Steps keep it (`Moment.next`), and all the while the channels are `Kept`;
* `State.drains_exactly` : draining ends. It runs out of range exactly if the order of the signals
  does (`State.Exceeds`), and otherwise applies all of them in that order and nothing else.
-/

namespace SharedCounter

/-! ## Taking turns -/

/-- The channel on the other side. -/
def Side.other : Side → Side
  | .first => .second
  | .second => .first

theorem Side.count_add (p : List Side) : p.count .first + p.count .second = p.length := by
  induction p with
  | nil => rfl
  | cons side p ih =>
    rw [List.length_cons, ← ih]
    cases side <;> simp <;> omega

/-- The order in which `a` items of the first and `b` of the second channel are taken by turns. -/
def turns (a b : Nat) : List Side :=
  (List.replicate (min a b) [Side.first, .second]).flatten
    ++ List.replicate (a - b) .first ++ List.replicate (b - a) .second

theorem length_turns (a b : Nat) : (turns a b).length = a + b := by
  simp [turns]
  omega

theorem turns_succ (a b : Nat) : turns (a + 1) (b + 1) = .first :: .second :: turns a b := by
  simp [turns, List.replicate_succ]

theorem turns_zero_left (b : Nat) : turns 0 b = List.replicate b .second := by
  simp [turns]

theorem turns_zero_right (a : Nat) : turns a 0 = List.replicate a .first := by
  simp [turns]

example : turns 4 2 = [.first, .second, .first, .second, .first, .first] := by decide

namespace Inlets

variable {i : Inlets} {side : Side} {ch : Channel}

/-- The order in which the buffered signals are taken when it is the turn of a side. -/
def ahead (i : Inlets) : Side → List Side
  | .first => turns i.first.buffered i.second.buffered
  | .second =>
    List.replicate (min i.second.buffered 1) .second
      ++ turns i.first.buffered (i.second.buffered - 1)

theorem ahead_of_take? (taken : (i.signals side).take? = some ch) :
    i.ahead side = side :: (i.setSignals side ch).ahead side.other := by
  have one := Channel.buffered_of_take? taken
  cases side with
  | first =>
    simp only [signals] at one
    simp only [ahead, Side.other, setSignals, one]
    cases i.second.buffered with
    | zero => simp [turns_zero_right, List.replicate_succ]
    | succ b => simp [turns_succ]
  | second =>
    simp only [signals] at one
    simp [ahead, Side.other, setSignals, one]

theorem ahead_of_empty (empty : (i.signals side).buffered = 0) :
    i.ahead side = i.ahead side.other := by
  cases side with
  | first =>
    simp only [signals] at empty
    simp only [ahead, Side.other, empty, turns_zero_left]
    cases i.second.buffered <;> simp [List.replicate_succ]
  | second =>
    simp only [signals] at empty
    simp [ahead, Side.other, empty]

/-- The signal channels that have less in `j` than in `i`. -/
def lowered (i j : Inlets) : List Side :=
  [Side.first, .second].filter fun side => (j.signals side).buffered < (i.signals side).buffered

theorem lowered_self (i : Inlets) : i.lowered i = [] := by
  simp [lowered]

theorem lowered_setSignals (taken : (i.signals side).take? = some ch) :
    i.lowered (i.setSignals side ch) = [side] := by
  have one := Channel.buffered_of_take? taken
  cases side <;> simp only [signals] at one <;> simp [lowered, signals, setSignals, one]

end Inlets

namespace Coordinator

/-- What the signals of these sides do to the counter. -/
def shift (c : Coordinator) (p : List Side) : Int := (p.map fun side => (c.effect side).delta).sum

/-- How many signals of effect `e` these sides give. -/
def tally (c : Coordinator) (p : List Side) (e : Effect) : Nat := p.countP (c.effect · = e)

theorem shift_concat (c : Coordinator) (p : List Side) (side : Side) :
    c.shift (p ++ [side]) = c.shift p + (c.effect side).delta := by
  simp [shift]

theorem tally_concat (c : Coordinator) (p : List Side) (side : Side) (e : Effect) :
    c.tally (p ++ [side]) e = c.tally p e + if c.effect side = e then 1 else 0 := by
  simp [tally, List.countP_singleton]

theorem tally_eq (c : Coordinator) (p : List Side) (e : Effect) :
    c.tally p e = (if c.firstEffect = e then p.count .first else 0)
      + if c.secondEffect = e then p.count .second else 0 := by
  induction p using List.reverseRecOn with
  | nil => simp [tally]
  | append_singleton p side ih =>
    rw [tally_concat, ih, List.count_append, List.count_append]
    by_cases up : c.firstEffect = e <;> by_cases down : c.secondEffect = e <;>
      cases side <;> simp [effect, up, down] <;> omega

/-- Each signal has one of the two effects. -/
theorem tally_add (c : Coordinator) (p : List Side) :
    c.tally p .increment + c.tally p .decrement = p.length := by
  rw [tally_eq, tally_eq, ← Side.count_add]
  cases c.firstEffect <;> cases c.secondEffect <;> simp
  omega

namespace State

variable {s : State} {before : Nat} {side : Side} {progressed : Bool} {ch : Channel}

/-! ## One step -/

theorem drainStep_of_fits (taken : (s.inlets.signals side).take? = some ch)
    (draining : s.coordinator.stage = .draining before side progressed)
    (fits : s.coordinator.Fits (s.coordinator.effect side)) :
    s.drainStep before side progressed =
      { s with
        coordinator := { s.coordinator.credit (s.coordinator.effect side) with
          stage := found before side }
        inlets := s.inlets.setSignals side ch } := by
  have applied := apply_of_fits (s := { s with inlets := s.inlets.setSignals side ch }) fits
  unfold drainStep
  rw [taken]
  cases side <;> simp [applied, found, credit, draining]

theorem drainStep_of_not_fits (taken : (s.inlets.signals side).take? = some ch)
    (out : ¬ s.coordinator.Fits (s.coordinator.effect side)) :
    s.drainStep before side progressed =
      { s with inlets := s.inlets.setSignals side ch }.leave .overflowed := by
  have applied := apply_of_not_fits (s := { s with inlets := s.inlets.setSignals side ch }) out
  unfold drainStep
  rw [taken]
  cases side <;> simp [applied, leave]

/-- Unless a whole round has found nothing, an empty channel is passed by. -/
theorem drainStep_of_empty (taken : (s.inlets.signals side).take? = none)
    (draining : s.coordinator.stage = .draining before side progressed)
    (more : side = .first ∨ progressed = true) :
    s.drainStep before side progressed =
      { s with coordinator := { s.coordinator with
          stage := .draining before side.other (progressed && side = .first) } } := by
  unfold drainStep
  rw [taken]
  rcases more with rfl | rfl
  · simp [draining, Side.other]
  · cases side <;> simp [draining, Side.other]

theorem nothing_of_not_more (h : ¬ (side = .first ∨ progressed = true)) :
    side = .second ∧ progressed = false := by
  cases side <;> cases progressed <;> simp_all

/-- A whole round has found nothing. -/
theorem drainStep_of_nothing (taken : (s.inlets.signals .second).take? = none) :
    s.drainStep before .second false = s.finishDrain before := by
  unfold drainStep
  rw [taken]

theorem inlets_drainStep_of_take? (taken : (s.inlets.signals side).take? = some ch)
    (draining : s.coordinator.stage = .draining before side progressed) :
    (s.drainStep before side progressed).inlets = s.inlets.setSignals side ch := by
  by_cases fits : s.coordinator.Fits (s.coordinator.effect side)
  · rw [drainStep_of_fits taken draining fits]
  · rw [drainStep_of_not_fits taken fits]
    rfl

theorem inlets_drainStep_of_none (taken : (s.inlets.signals side).take? = none)
    (draining : s.coordinator.stage = .draining before side progressed) :
    (s.drainStep before side progressed).inlets = s.inlets := by
  by_cases more : side = .first ∨ progressed = true
  · rw [drainStep_of_empty taken draining more]
  · obtain ⟨rfl, rfl⟩ := nothing_of_not_more more
    rw [drainStep_of_nothing taken, inlets_finishDrain]

theorem startDrain_of_le (fits : s.coordinator.ledger.applied ≤ countMax) :
    s.startDrain =
      { s with coordinator := { s.coordinator with
          stage := .draining s.coordinator.ledger.applied .first false } }.note
        { kind := .drainStarted, phase := some .draining,
          count := some s.coordinator.ledger.applied } := by
  unfold startDrain
  rw [Ledger.applied?_of_le fits]

theorem startDrain_of_lt (out : countMax < s.coordinator.ledger.applied) :
    s.startDrain = s.leave .overflowed := by
  unfold startDrain
  rw [Ledger.applied?_of_lt out]

theorem finishDrain_of_le (fits : s.coordinator.ledger.applied ≤ countMax) :
    s.finishDrain before =
      { s with coordinator := { s.coordinator with
          ledger := s.coordinator.closing before
          stage := .leaving (.counted (s.coordinator.closing before)) } }.note
        { kind := .drainFinished, phase := some .done,
          count := some (s.coordinator.ledger.applied - before) } := by
  unfold finishDrain
  rw [Ledger.applied?_of_le fits]
  rfl

theorem finishDrain_of_lt (out : countMax < s.coordinator.ledger.applied) :
    s.finishDrain before = s.leave .overflowed := by
  unfold finishDrain
  rw [Ledger.applied?_of_lt out]

end State

/-! ## Moments of draining -/

/-- A moment of draining. -/
structure Drain where
  state : State
  /-- The channels that have given an item, in order. -/
  taken : List Side

/-- Draining goes on until an outcome stands. -/
def Drain.next (d : Drain) : Option Drain :=
  if d.state.coordinator.outcome?.isSome then none
  else (d.state.step .completions).map fun t => ⟨t, d.taken ++ d.state.inlets.lowered t.inlets⟩

namespace State

/-- Draining after so many steps, without a pause in which others could send. -/
def drainFor (s : State) (n : Nat) : Drain := advance Drain.next n ⟨s.startDrain, []⟩

/-- Draining from its start to its end. -/
def drain (s : State) : Drain := s.drainFor s.startDrain.effort

/-- The order in which the buffered signals are to be taken. -/
def order (s : State) : List Side := turns s.inlets.first.buffered s.inlets.second.buffered

/-- Somewhere in the order of the signals, after at least one of them, the counter is out of its
range, or they are too many together with those that were applied before. -/
def Exceeds (s : State) : Prop :=
  (∃ p, p <+: s.order ∧ p ≠ [] ∧
    ¬ (counterMin ≤ s.coordinator.counter + s.coordinator.shift p
      ∧ s.coordinator.counter + s.coordinator.shift p ≤ counterMax))
    ∨ countMax
      < s.coordinator.ledger.applied + s.inlets.first.buffered + s.inlets.second.buffered

end State

/-- `d` is `c` after the signals of the sides `p`, of which none took the counter out of its
range. -/
structure Credited (c : Coordinator) (p : List Side) (d : Coordinator) : Prop where
  counter : d.counter = c.counter + c.shift p
  signals : ∀ e, d.ledger.of e = c.ledger.of e + c.tally p e
  effect : ∀ side, d.effect side = c.effect side
  range : ∀ q, q <+: p → q ≠ [] →
    counterMin ≤ c.counter + c.shift q ∧ c.counter + c.shift q ≤ counterMax

namespace Credited

variable {c d : Coordinator} {p : List Side} {side : Side}

theorem start (c : Coordinator) (stage : Stage) : Credited c [] { c with stage } where
  counter := by simp [shift]
  signals e := rfl
  effect side := by cases side <;> rfl
  range q before some := absurd (List.prefix_nil.mp before) some

theorem applied (h : Credited c p d) : d.ledger.applied = c.ledger.applied + p.length := by
  have up := h.signals .increment
  have down := h.signals .decrement
  have both := c.tally_add p
  simp only [Ledger.of] at up down
  simp only [Ledger.applied]
  omega

/-- Where the next signal leads to. -/
theorem counter_concat (h : Credited c p d) (side : Side) :
    c.counter + c.shift (p ++ [side]) = d.counter + (d.effect side).delta := by
  rw [shift_concat, h.counter, h.effect]
  omega

theorem next (h : Credited c p d) (fits : d.Fits (d.effect side)) (stage : Stage) :
    Credited c (p ++ [side]) { d.credit (d.effect side) with stage } := by
  have here := h.counter_concat side
  refine ⟨here.symm, fun e => ?_, fun side' => ?_, fun q before some => ?_⟩
  · rw [tally_concat, ← Nat.add_assoc, ← h.signals, ← h.effect]
    exact Ledger.of_booked _ _ _
  · rw [← h.effect]
    cases side' <;> rfl
  · rcases List.prefix_concat_iff.mp before with rfl | earlier
    · rw [here]
      exact ⟨fits.1, fits.2.1⟩
    · exact h.range q earlier some

/-- Closing the books and changing the stage does not touch what was credited. -/
theorem congr {d' : Coordinator} (h : Credited c p d) (counter : d'.counter = d.counter)
    (signals : ∀ e, d'.ledger.of e = d.ledger.of e)
    (effect : ∀ side, d'.effect side = d.effect side) : Credited c p d' where
  counter := counter.trans h.counter
  signals e := (signals e).trans (h.signals e)
  effect side := (effect side).trans (h.effect side)
  range := h.range

/-- A signal does not fit when it takes the counter out of its range, or when there are too many. -/
theorem out_of_not_fits (h : Credited c p d) (out : ¬ d.Fits (d.effect side)) :
    ¬ (counterMin ≤ c.counter + c.shift (p ++ [side])
        ∧ c.counter + c.shift (p ++ [side]) ≤ counterMax)
      ∨ countMax < c.ledger.applied + (p ++ [side]).length := by
  rw [h.counter_concat, List.length_append, List.length_singleton, ← Nat.add_assoc, ← h.applied]
  by_cases range : counterMin ≤ d.counter + (d.effect side).delta
      ∧ d.counter + (d.effect side).delta ≤ counterMax
  · have many : countMax < d.ledger.of (d.effect side) + 1 := by
      by_contra few
      exact out ⟨range.1, range.2, Nat.not_lt.mp few⟩
    have of_le : d.ledger.of (d.effect side) ≤ d.ledger.applied := by
      cases d.effect side <;> simp [Ledger.of, Ledger.applied]
    exact .inr (by omega)
  · exact .inl range

end Credited

/-- What holds at every moment: items were taken in the order that was due, and nothing else
happened to the channels. Who waits for a slot still has to use it. -/
structure Kept (s : State) (d : Drain) : Prop where
  order : d.taken <+: s.order
  /-- Every signal that was buffered has been taken or still is. -/
  counted : ∀ side, (d.state.inlets.signals side).buffered + d.taken.count side
    = (s.inlets.signals side).buffered
  queue : ∀ side, (d.state.inlets.signals side).queue = (s.inlets.signals side).queue
  drawn : s.inlets.Drawn d.state.inlets
  completions : d.state.inlets.completions = s.inlets.completions

/-- Draining goes on, and a side has its turn. -/
structure Going (s : State) (side : Side) (progressed : Bool) (d : Drain) : Prop where
  kept : Kept s d
  credited : Credited s.coordinator d.taken d.state.coordinator
  stage : d.state.coordinator.stage = .draining s.coordinator.ledger.applied side progressed
  /-- What is still to be taken is the rest of the order. -/
  ahead : d.taken ++ d.state.inlets.ahead side = s.order
  /-- A round that has found nothing yet has found the first channel empty. -/
  idle : side = .second → progressed = false → d.state.inlets.first.buffered = 0

/-- The books are closed over all that was buffered. -/
structure Sealed (s : State) (d : Drain) : Prop where
  order : d.taken = s.order
  empty : ∀ side, (d.state.inlets.signals side).buffered = 0
  counter : d.state.coordinator.counter = s.coordinator.counter + s.coordinator.shift s.order
  signals : ∀ e, d.state.coordinator.ledger.of e
    = s.coordinator.ledger.of e + s.coordinator.signalsOf s.inlets e
  outcome : d.state.coordinator.outcome? = some (.counted d.state.coordinator.ledger)
  value : d.state.coordinator.ledger.value = d.state.coordinator.counter
  drained : d.state.coordinator.ledger.drained
    = s.inlets.first.buffered + s.inlets.second.buffered

/-- The moments of draining. -/
inductive Moment (s : State) (d : Drain) : Prop where
  | going {side : Side} {progressed : Bool} (going : Going s side progressed d)
  | burst (kept : Kept s d) (out : d.state.coordinator.outcome? = some .overflowed)
      (exceeds : s.Exceeds)
  | closed (kept : Kept s d) (credited : Credited s.coordinator d.taken d.state.coordinator)
      (books : Sealed s d) (fits : ¬ s.Exceeds)

/-! ## What every step keeps -/

variable {s t : State} {d d' : Drain} {side : Side} {progressed : Bool} {ch : Channel}

theorem Kept.start {t : State} (same : t.inlets = s.inlets) : Kept s ⟨t, []⟩ := by
  refine ⟨List.nil_prefix, fun side => ?_, fun side => ?_, ?_, ?_⟩ <;> dsimp only <;> rw [same]
  · simp
  · exact .refl _

theorem Kept.stay (h : Kept s d) (same : t.inlets = d.state.inlets) : Kept s ⟨t, d.taken⟩ := by
  refine ⟨h.order, ?_, ?_, ?_, ?_⟩ <;> dsimp only <;> rw [same]
  · exact h.counted
  · exact h.queue
  · exact h.drawn
  · exact h.completions

theorem Kept.take (h : Kept s d) (taken : (d.state.inlets.signals side).take? = some ch)
    (due : d.taken ++ [side] <+: s.order) (same : t.inlets = d.state.inlets.setSignals side ch) :
    Kept s ⟨t, d.taken ++ [side]⟩ := by
  have one := Channel.buffered_of_take? taken
  have queue := Channel.queue_of_take? taken
  refine ⟨due, fun side' => ?_, fun side' => ?_, ?_, ?_⟩ <;> dsimp only <;> rw [same]
  · rw [← h.counted side', List.count_append, List.count_singleton]
    cases side <;> cases side' <;> simp [Inlets.signals, Inlets.setSignals] at one ⊢ <;> omega
  · rw [← h.queue side']
    cases side <;> cases side' <;> first | exact queue | rfl
  · exact h.drawn.trans (.setSignals taken)
  · rw [← h.completions]
    cases side <;> rfl

theorem Moment.start (s : State) : Moment s ⟨s.startDrain, []⟩ := by
  by_cases fits : s.coordinator.ledger.applied ≤ countMax
  · rw [State.startDrain_of_le fits]
    exact .going ⟨Kept.start rfl, Credited.start _ _, rfl, rfl, nofun⟩
  · have out := Nat.not_le.mp fits
    rw [State.startDrain_of_lt out]
    exact .burst (Kept.start rfl) rfl (.inr (by omega))

namespace Going

theorem taken_of_take? (h : Going s side progressed d)
    (taken : (d.state.inlets.signals side).take? = some ch) : d.taken ++ [side] <+: s.order := by
  rw [← h.ahead, Inlets.ahead_of_take? taken]
  exact ⟨_, List.append_assoc _ _ _⟩

theorem take (h : Going s side progressed d)
    (taken : (d.state.inlets.signals side).take? = some ch)
    (fits : d.state.coordinator.Fits (d.state.coordinator.effect side)) :
    Moment s ⟨d.state.drainStep s.coordinator.ledger.applied side progressed,
      d.taken ++ [side]⟩ := by
  rw [State.drainStep_of_fits taken h.stage fits]
  refine .going (?_ : Going s side.other (side = .first) _)
  refine ⟨h.kept.take taken (h.taken_of_take? taken) rfl, h.credited.next fits _, ?_, ?_, ?_⟩
  · cases side <;> rfl
  · rw [List.append_assoc, List.singleton_append, ← Inlets.ahead_of_take? taken]
    exact h.ahead
  · cases side <;> simp [Side.other]

/-- An item is taken whose effect leads out of range. -/
theorem burst (h : Going s side progressed d)
    (taken : (d.state.inlets.signals side).take? = some ch)
    (out : ¬ d.state.coordinator.Fits (d.state.coordinator.effect side)) :
    Moment s ⟨d.state.drainStep s.coordinator.ledger.applied side progressed,
      d.taken ++ [side]⟩ := by
  have due := h.taken_of_take? taken
  have length := due.length_le
  rw [State.order, length_turns] at length
  rw [State.drainStep_of_not_fits taken out]
  refine .burst (h.kept.take taken due rfl) rfl ?_
  rcases h.credited.out_of_not_fits out with range | many
  · exact .inl ⟨_, due, by simp, range⟩
  · exact .inr (by omega)

theorem pass (h : Going s side progressed d)
    (taken : (d.state.inlets.signals side).take? = none)
    (more : side = .first ∨ progressed = true) :
    Moment s ⟨d.state.drainStep s.coordinator.ledger.applied side progressed, d.taken⟩ := by
  have empty := Channel.take?_eq_none_iff.mp taken
  rw [State.drainStep_of_empty taken h.stage more]
  refine .going (?_ : Going s side.other (progressed && side = .first) _)
  refine ⟨h.kept.stay rfl, ?_, rfl, ?_, ?_⟩
  · exact h.credited.congr rfl (fun _ => rfl) fun side' => by cases side' <;> rfl
  · rw [← Inlets.ahead_of_empty empty]
    exact h.ahead
  · cases side with
    | first => exact fun _ _ => empty
    | second => nofun

/-- When a whole round has found nothing, nothing is left and everything was taken. -/
theorem nothing_left (h : Going s .second false d)
    (taken : (d.state.inlets.signals .second).take? = none) :
    d.taken = s.order ∧ ∀ side, (d.state.inlets.signals side).buffered = 0 := by
  have first : d.state.inlets.first.buffered = 0 := h.idle rfl rfl
  have second : d.state.inlets.second.buffered = 0 := Channel.take?_eq_none_iff.mp taken
  constructor
  · have ahead := h.ahead
    simpa [Inlets.ahead, first, second, turns_zero_left] using ahead
  · intro side
    cases side
    · exact first
    · exact second

theorem finish (h : Going s .second false d)
    (taken : (d.state.inlets.signals .second).take? = none) :
    Moment s ⟨d.state.drainStep s.coordinator.ledger.applied .second false, d.taken⟩ := by
  obtain ⟨all, empty⟩ := h.nothing_left taken
  have each (side : Side) : d.taken.count side = (s.inlets.signals side).buffered := by
    rw [← h.kept.counted side, empty, Nat.zero_add]
  have length : d.taken.length = s.inlets.first.buffered + s.inlets.second.buffered := by
    rw [all]
    exact length_turns _ _
  have applied := h.credited.applied
  rw [State.drainStep_of_nothing taken]
  by_cases fits : d.state.coordinator.ledger.applied ≤ countMax
  · rw [State.finishDrain_of_le fits]
    have credited : Credited s.coordinator d.taken { d.state.coordinator with
        ledger := d.state.coordinator.closing s.coordinator.ledger.applied
        stage := .leaving (.counted
          (d.state.coordinator.closing s.coordinator.ledger.applied)) } :=
      h.credited.congr rfl (of_closing _ _) fun side => by cases side <;> rfl
    refine .closed (h.kept.stay rfl) credited
      ⟨all, empty, all ▸ credited.counter, fun e => ?_, rfl, rfl, ?_⟩ ?_
    · refine (credited.signals e).trans ?_
      rw [tally_eq, each, each]
      rfl
    · change d.state.coordinator.ledger.applied - s.coordinator.ledger.applied = _
      omega
    · rintro (⟨p, before, some, out⟩ | many)
      · exact out (h.credited.range p (all ▸ before) some)
      · omega
  · have out := Nat.not_le.mp fits
    rw [State.finishDrain_of_lt out]
    exact .burst (h.kept.stay rfl) rfl (.inr (by omega))

theorem step_eq (h : Going s side progressed d) (b : Branch) :
    d.state.step b
      = some (d.state.drainStep s.coordinator.ledger.applied side progressed) := by
  simp [State.step, h.stage]

theorem next_eq (h : Going s side progressed d) :
    d.next = (d.state.step .completions).map fun t =>
      ⟨t, d.taken ++ d.state.inlets.lowered t.inlets⟩ := by
  have going : d.state.coordinator.outcome? = none := by simp [outcome?, h.stage]
  simp [Drain.next, going]

theorem next (h : Going s side progressed d) (step : d.next = some d') : Moment s d' := by
  rw [h.next_eq, h.step_eq, Option.map_some, Option.some.injEq] at step
  subst step
  cases taken : (d.state.inlets.signals side).take? with
  | some ch =>
    rw [State.inlets_drainStep_of_take? taken h.stage, Inlets.lowered_setSignals taken]
    by_cases fits : d.state.coordinator.Fits (d.state.coordinator.effect side)
    · exact h.take taken fits
    · exact h.burst taken fits
  | none =>
    rw [State.inlets_drainStep_of_none taken h.stage, Inlets.lowered_self, List.append_nil]
    by_cases more : side = .first ∨ progressed = true
    · exact h.pass taken more
    · obtain ⟨rfl, rfl⟩ := State.nothing_of_not_more more
      exact h.finish taken

end Going

/-! ## Draining from its start to its end -/

theorem Moment.next (h : Moment s d) (step : d.next = some d') : Moment s d' := by
  cases h with
  | going going => exact going.next step
  | burst _ out =>
    rw [Drain.next, out] at step
    cases step
  | closed _ _ books =>
    rw [Drain.next, books.outcome] at step
    cases step

/-- Every moment of draining is one of these. -/
theorem moment_drainFor (s : State) (n : Nat) : Moment s (s.drainFor n) :=
  advance_invariant (fun _ _ step h => h.next step) n (.start s)

theorem Moment.kept (h : Moment s d) : Kept s d := by
  cases h with
  | going going => exact going.kept
  | burst kept => exact kept
  | closed kept => exact kept

theorem Drain.effort_next (step : d.next = some d') : d'.state.effort < d.state.effort := by
  unfold Drain.next at step
  split at step
  · cases step
  · obtain ⟨t, moved, rfl⟩ := Option.map_eq_some_iff.mp step
    exact State.effort_step moved

/-- Draining ends. -/
theorem next_drain (s : State) : s.drain.next = none :=
  advance_stops (fun _ _ => Drain.effort_next) (Nat.le_refl _)

theorem Moment.stands (h : Moment s d) (stopped : d.next = none) :
    (d.state.coordinator.outcome? = some .overflowed ∧ s.Exceeds) ∨ Sealed s d ∧ ¬ s.Exceeds := by
  cases h with
  | going going =>
    rw [going.next_eq, going.step_eq] at stopped
    cases stopped
  | burst _ out exceeds => exact .inl ⟨out, exceeds⟩
  | closed _ _ books fits => exact .inr ⟨books, fits⟩

/-- A running coordinator that misses no completion begins to drain. -/
theorem step_of_complete (running : s.coordinator.stage = .running)
    (complete : s.coordinator.remaining = 0) (b : Branch) :
    s.step b = some (s.drainFor 0).state := by
  rw [State.step, running]
  exact if_pos complete

/-- While draining goes on, these are the steps of the coordinator, whichever branch is chosen. -/
theorem step_drainFor (s : State) (n : Nat) (b : Branch)
    (going : (s.drainFor n).state.coordinator.outcome? = none) :
    (s.drainFor n).state.step b = some (s.drainFor (n + 1)).state := by
  have later : s.drainFor (n + 1) = advance Drain.next 1 (s.drainFor n) := advance_add n 1 _
  cases moment_drainFor s n with
  | going h =>
    rw [later, h.step_eq, advance, h.next_eq, h.step_eq]
    rfl
  | burst _ out =>
    rw [out] at going
    cases going
  | closed _ _ books =>
    rw [books.outcome] at going
    cases going

/-- Draining ends, out of range or with the books closed. It runs out of range exactly if the
counter does somewhere in the order of the signals, or if they are too many. Otherwise it takes all
of them in that order, and nothing else. At every moment the counter is what the signals taken so
far make of it. -/
theorem State.drains_exactly (s : State) :
    (s.drain.state.coordinator.outcome? = some .overflowed ↔ s.Exceeds)
      ∧ (s.Exceeds ∨ Sealed s s.drain)
      ∧ ∀ n, Kept s (s.drainFor n)
        ∧ ((s.drainFor n).state.coordinator.outcome? = some .overflowed
          ∨ Credited s.coordinator (s.drainFor n).taken (s.drainFor n).state.coordinator) := by
  have stands := Moment.stands (d := s.drain) (moment_drainFor s _) (next_drain s)
  refine ⟨?_, stands.elim (fun burst => .inl burst.2) fun closed => .inr closed.1,
    fun n => ⟨(moment_drainFor s n).kept, ?_⟩⟩
  · rcases stands with ⟨out, exceeds⟩ | ⟨books, fits⟩
    · exact iff_of_true out exceeds
    · refine iff_of_false (fun out => ?_) fits
      rw [books.outcome] at out
      cases out
  · cases moment_drainFor s n with
    | going going => exact .inr going.credited
    | burst _ out => exact .inl out
    | closed _ credited => exact .inr credited

end Coordinator

end SharedCounter
