import Mathlib.Data.Nat.Find
import Mathlib.Order.Nat
import SharedCounter.Proofs.Coordinator.Change

/-!
# A running coordinator comes to rest

While completions are missing, a poll of the coordinator consists of rounds. In each of them the
sources are asked one after the other, beginning with any of them, and the first that is ready is
served. Nobody else moves between the rounds of one poll.

* `Branch.cycle` : the order in which the sources are asked, from a first one on;
* `State.asked`, `State.look` : a side that was found closed is not asked, and what comes of asking
  the others is a `Look`;
* `State.round`, `State.after` : the rounds of a poll, where a sequence of choices tells which source
  is asked first in each;
* `Progress`, `Round` : a round takes an item, or closes a side, or finds the completions lost
  (`State.round_of_not_rests`). Each of these uses up some of the `State.work` (`Progress.work_lt`);
* `State.Rests`, `Stops` : where no choice leads on, and what such a state looks like; `Cut` : where
  one does, but the poll may make no more rounds;
* `State.never_spins` : a poll comes to rest after no more rounds than there are items and sources,
  unless it is cut short. `State.pending_with_items` is a poll that is;
* `run_eq_of_after` : the coordinator's own run is such a poll and what follows it.
-/

namespace SharedCounter

/-- The sources in the order in which they are asked, from a first one on. -/
def Branch.cycle : Branch → List Branch
  | .signals .first => [.signals .first, .signals .second, .completions]
  | .signals .second => [.signals .second, .completions, .signals .first]
  | .completions => [.completions, .signals .first, .signals .second]

theorem Branch.mem_cycle (a b : Branch) : b ∈ a.cycle := by
  rcases a with (_ | _) | _ <;> rcases b with (_ | _) | _ <;> decide

namespace Inlets

/-- The channel of a branch is replaced. -/
def put (i : Inlets) (ch : Channel) : Branch → Inlets
  | .signals side => i.setSignals side ch
  | .completions => { i with completions := ch }

theorem buffered_put {i : Inlets} {b : Branch} {ch : Channel}
    (taken : (i.channel b).take? = some ch) : i.buffered = (i.put ch b).buffered + 1 := by
  cases b with
  | signals side => exact buffered_setSignals taken
  | completions =>
    have one := Channel.buffered_of_take? taken
    simp only [channel] at one
    simp only [buffered, put]
    omega

end Inlets

namespace Coordinator

/-- Whether a source is asked while completions are missing. -/
def asks (c : Coordinator) : Branch → Bool
  | .signals side => c.isOpen side
  | .completions => true

theorem isOpen_of_close {c : Coordinator} {closing side : Side}
    (isOpen : (c.close closing).isOpen side = true) : c.isOpen side = true := by
  cases closing <;> cases side <;> simp_all [close, Coordinator.isOpen]

/-- What comes of asking the sources. -/
inductive Look where
  /-- One of them was ready and has been served. -/
  | served (t : State)
  /-- None of those that were asked is ready. -/
  | nothing
  /-- None was asked. -/
  | stranded
  deriving DecidableEq

namespace State

variable {s t : State} {first b : Branch} {choices : Nat → Branch} {n m : Nat}

/-! ## Asking the sources -/

/-- The sources that are asked, in their order. -/
def asked (s : State) (first : Branch) : List Branch := first.cycle.filter s.coordinator.asks

/-- The first source that is ready is served. -/
def look (s : State) (first : Branch) : Look :=
  if s.asked first = [] then .stranded
  else
    match (s.asked first).findSome? s.serve with
    | some t => .served t
    | none => .nothing

theorem mem_asked_iff : b ∈ s.asked first ↔ s.coordinator.asks b = true := by
  simp [asked, Branch.mem_cycle]

/-- The completions are always asked for. -/
theorem asked_ne_nil (s : State) (first : Branch) : s.asked first ≠ [] :=
  List.ne_nil_of_mem (mem_asked_iff (b := .completions).mpr rfl)

theorem look_of_some (found : (s.asked first).findSome? s.serve = some t) :
    s.look first = .served t := by
  rw [look, if_neg (asked_ne_nil s first), found]

theorem look_of_none (found : (s.asked first).findSome? s.serve = none) :
    s.look first = .nothing := by
  rw [look, if_neg (asked_ne_nil s first), found]

theorem look_ne_stranded (s : State) (first : Branch) : s.look first ≠ .stranded := by
  cases found : (s.asked first).findSome? s.serve with
  | some t =>
    rw [look_of_some found]
    nofun
  | none =>
    rw [look_of_none found]
    nofun

theorem findSome?_of_look (look : s.look first = .served t) :
    (s.asked first).findSome? s.serve = some t := by
  cases found : (s.asked first).findSome? s.serve with
  | some u =>
    rw [look_of_some found] at look
    cases look
    rfl
  | none =>
    rw [look_of_none found] at look
    cases look

theorem serve_of_not_asks (out : ¬ s.coordinator.asks b = true) : s.serve b = none := by
  cases b with
  | signals side => exact if_neg out
  | completions => exact absurd rfl out

/-- A source that is not asked would not be served either. -/
theorem findSome?_asked (s : State) (first : Branch) :
    (s.asked first).findSome? s.serve = first.cycle.findSome? s.serve := by
  rw [asked, ← List.head?_filterMap, ← List.head?_filterMap, List.filterMap_filter]
  congr 2
  funext b
  by_cases asks : s.coordinator.asks b = true
  · rw [if_pos asks]
  · rw [if_neg asks, serve_of_not_asks asks]

/-- Whether one of the sources is ready does not hang on which is asked first. -/
theorem findSome?_asked_eq_none_iff :
    (s.asked first).findSome? s.serve = none ↔ ∀ b, s.serve b = none := by
  rw [findSome?_asked, List.findSome?_eq_none_iff]
  exact ⟨fun none b => none b (Branch.mem_cycle first b), fun none b _ => none b⟩

/-! ## Rounds -/

/-- Completions are missing, and nothing has ended the count yet. -/
def Missing (s : State) : Prop := s.coordinator.stage = .running ∧ s.coordinator.remaining ≠ 0

instance : DecidablePred Missing :=
  fun s => inferInstanceAs (Decidable (s.coordinator.stage = .running ∧ _))

theorem step_of_missing (missing : s.Missing) (b : Branch) : s.step b = s.serve b := by
  rw [step, missing.1]
  exact if_neg missing.2

/-- One round, if there is one to be made. -/
def round (s : State) (first : Branch) : State :=
  if s.Missing then
    match s.look first with
    | .served t => t
    | _ => s
  else s

/-- A poll after `n` rounds, or at its end if that comes sooner: so also the whole of a poll that may
make `n` rounds and no more. The round after `m` others asks `choices m` first. -/
def after (choices : Nat → Branch) (s : State) : (n : Nat) → State
  | 0 => s
  | n + 1 => (after choices s n).round (choices n)

/-- No choice leads on. -/
def Rests (s : State) : Prop := s.Missing → ∀ b, s.serve b = none

theorem round_of_rests (rests : s.Rests) (first : Branch) : s.round first = s := by
  unfold round
  split
  next missing => rw [look_of_none (findSome?_asked_eq_none_iff.mpr (rests missing))]
  next => rfl

/-- A poll that has come to rest stays there. -/
theorem after_of_rests (rests : (s.after choices n).Rests) (later : n ≤ m) :
    s.after choices m = s.after choices n := by
  induction m, later using Nat.le_induction with
  | base => rfl
  | succ m _ ih => rw [after, ih, round_of_rests rests]

end State

open State

/-! ## What a round does -/

/-- What is used up from `s` to `t`. -/
inductive Progress (s t : State) : Prop
  /-- An item is taken. Its slot may go to a send that waits, which puts nothing in yet. -/
  | item {b : Branch} {ch : Channel} (asks : s.coordinator.asks b = true)
      (taken : (s.inlets.channel b).take? = some ch) (inlets : t.inlets = s.inlets.put ch b)
      (sides : ∀ side, t.coordinator.isOpen side = s.coordinator.isOpen side)
  /-- A side is found closed, and will not be asked any more. -/
  | close {side : Side} (isOpen : s.coordinator.isOpen side = true)
      (empty : (s.inlets.signals side).buffered = 0) (gone : (s.inlets.signals side).senders = 0)
      (closed : t = { s with coordinator := s.coordinator.close side })
  /-- The completions are found lost, which ends the count. -/
  | lose (empty : s.inlets.completions.buffered = 0) (gone : s.inlets.completions.senders = 0)
      (lost : t = s.leave (.lost s.coordinator.remaining))

/-- A round in which `first` is asked first. -/
structure Round (s : State) (first : Branch) (t : State) : Prop where
  missing : s.Missing
  served : s.look first = .served t
  /-- It is a step of the coordinator, by a source that was asked. -/
  step : ∃ b ∈ s.asked first, s.step b = some t
  progress : Progress s t
  /-- The count breaks off only where a sum leaves its range. -/
  range : t.coordinator.stage = .leaving .overflowed → s.Overflows

/-- Where a poll has come to rest. -/
inductive Stops (s : State) : Prop
  /-- No completion is missing. -/
  | complete (running : s.coordinator.stage = .running) (complete : s.coordinator.remaining = 0)
  /-- Every completion sender went while completions were missing. -/
  | lost (left : s.coordinator.stage = .leaving (.lost s.coordinator.remaining))
      (missing : s.coordinator.remaining ≠ 0) (empty : s.inlets.completions.buffered = 0)
      (gone : s.inlets.completions.senders = 0)
  | overflowed (left : s.coordinator.stage = .leaving .overflowed)
  /-- Every source that is asked is empty and can still be sent on. -/
  | pending (missing : s.Missing) (nothing : ∀ first, s.look first = .nothing) (waits : s.Waits)
      (empty : ∀ b, s.coordinator.asks b = true →
        (s.inlets.channel b).buffered = 0 ∧ (s.inlets.channel b).senders ≠ 0)

/-- Where a poll has been cut short: a source that is asked holds an item, or nobody can send on it. -/
structure Cut (s : State) : Prop where
  missing : s.Missing
  ready : ∃ b, s.coordinator.asks b = true ∧
    ((s.inlets.channel b).buffered ≠ 0 ∨ (s.inlets.channel b).senders = 0)

namespace State

theorem isOpen_apply (s : State) (e : Effect) (side : Side) :
    (s.apply e).coordinator.isOpen side = s.coordinator.isOpen side := by
  unfold apply
  split <;> cases side <;> rfl

theorem isOpen_complete (s : State) (side : Side) :
    s.complete.coordinator.isOpen side = s.coordinator.isOpen side := by
  unfold complete
  dsimp only
  split <;> cases side <;> rfl

/-- Whatever rounds can use up: the buffered items, the sides that can close, and the completions
that can be lost. -/
def work (s : State) : Nat :=
  s.inlets.buffered + s.coordinator.firstOpen.toNat + s.coordinator.secondOpen.toNat
    + if s.coordinator.stage = .running then 1 else 0

theorem work_le (s : State) : s.work ≤ s.inlets.buffered + 3 := by
  have first := s.coordinator.firstOpen.toNat_le
  have second := s.coordinator.secondOpen.toNat_le
  unfold work
  split <;> omega

end State

namespace Progress

variable {s t : State} {b : Branch} {side : Side}

theorem of_serve (served : s.serve b = some t) : Progress s t := by
  cases b with
  | signals side =>
    simp only [serve] at served
    split at served
    next isOpen =>
      split at served
      next ch received =>
        cases served
        exact .item (b := .signals side) isOpen (Channel.take?_of_receive received)
          (inlets_apply _ _) (isOpen_apply _ _)
      next received =>
        cases served
        obtain ⟨empty, gone, -⟩ := Channel.receive_closed_iff.mp received
        exact .close isOpen empty gone rfl
      next => cases served
    next => cases served
  | completions =>
    simp only [serve] at served
    split at served
    next ch received =>
      cases served
      exact .item (b := .completions) rfl (Channel.take?_of_receive received)
        (inlets_complete _) (isOpen_complete _)
    next received =>
      cases served
      obtain ⟨empty, gone, -⟩ := Channel.receive_closed_iff.mp received
      exact .lose empty gone rfl
    next => cases served

/-- A side that was closed is not opened again. -/
theorem isOpen (progress : Progress s t) (isOpen : t.coordinator.isOpen side = true) :
    s.coordinator.isOpen side = true := by
  cases progress with
  | item _ _ _ sides => rw [← sides, isOpen]
  | close _ _ _ closed =>
    subst closed
    exact isOpen_of_close isOpen
  | lose _ _ lost =>
    subst lost
    cases side <;> exact isOpen

theorem work_lt (progress : Progress s t) (running : s.coordinator.stage = .running) :
    t.work < s.work := by
  have before : s.work = s.inlets.buffered + s.coordinator.firstOpen.toNat
      + s.coordinator.secondOpen.toNat + 1 := by rw [work, if_pos running]
  rw [before]
  cases progress with
  | item _ taken inlets sides =>
    have one := Inlets.buffered_put taken
    have first : t.coordinator.firstOpen = s.coordinator.firstOpen := sides .first
    have second : t.coordinator.secondOpen = s.coordinator.secondOpen := sides .second
    -- The item may take a sum out of its range, so the stage is either of the two.
    rw [work, inlets, first, second]
    split <;> omega
  | @close side isOpen _ _ closed =>
    subst closed
    cases side <;> simp only [Coordinator.isOpen] at isOpen <;>
      simp [work, Coordinator.close, running, isOpen]
  | lose _ _ lost =>
    subst lost
    simp [work, leave]

theorem ready (progress : Progress s t) : ∃ b, s.coordinator.asks b = true ∧
    ((s.inlets.channel b).buffered ≠ 0 ∨ (s.inlets.channel b).senders = 0) := by
  cases progress with
  | @item b _ asks taken =>
    have one := Channel.buffered_of_take? taken
    exact ⟨b, asks, .inl (by omega)⟩
  | @close side isOpen _ gone => exact ⟨.signals side, isOpen, .inr gone⟩
  | lose _ gone => exact ⟨.completions, rfl, .inr gone⟩

end Progress

theorem Round.cut {s t : State} {first : Branch} (round : Round s first t) : Cut s :=
  ⟨round.missing, round.progress.ready⟩

/-- The coordinator goes on running, or the poll has come to rest with an outcome. -/
theorem Round.running_or_stops {s t : State} {first : Branch} (round : Round s first t) :
    t.coordinator.stage = .running ∨ Stops t := by
  obtain ⟨running, missing⟩ := round.missing
  obtain ⟨b, -, step⟩ := round.step
  cases Change.of_step step with
  | signal | completion => exact .inl running
  | close => exact .inl (by rw [stage_close, running])
  | lose _ _ empty gone => exact .inr (.lost rfl missing empty gone)
  | begin _ complete => exact absurd complete missing
  | overflow _ _ left => exact .inr (.overflowed left)
  | drain draining | pass draining | again draining | finish draining | depart draining =>
    cases running.symm.trans draining

namespace State

variable {s t : State} {first : Branch} {side : Side} {choices : Nat → Branch} {n m : Nat}

/-- A running coordinator breaks off only where a sum leaves its range. -/
theorem Change.overflows_of_left (change : Change s t) (running : s.coordinator.stage = .running)
    (left : t.coordinator.stage = .leaving .overflowed) : s.Overflows := by
  cases change with
  | overflow _ overflows => exact overflows
  | signal | completion => cases running.symm.trans left
  | close =>
    rw [stage_close, running] at left
    cases left
  | lose | begin => cases left
  | drain draining | pass draining | again draining | finish draining | depart draining =>
    cases running.symm.trans draining

/-- Whichever source is asked first, a poll that does not rest goes on. -/
theorem round_of_not_rests (going : ¬ s.Rests) (first : Branch) :
    Round s first (s.round first) := by
  obtain ⟨missing, ready⟩ := Classical.not_imp.mp going
  cases found : (s.asked first).findSome? s.serve with
  | none => exact absurd (findSome?_asked_eq_none_iff.mp found) ready
  | some t =>
    obtain ⟨b, asked, served⟩ := List.exists_of_findSome?_eq_some found
    have look := look_of_some found
    have step : s.step b = some t := (step_of_missing missing b).trans served
    have here : s.round first = t := by rw [round, if_pos missing, look]
    rw [here]
    exact ⟨missing, look, ⟨b, asked, step⟩, .of_serve served,
      (Change.of_step step).overflows_of_left missing.1⟩

theorem Rests.stops (rests : s.Rests) (running : s.coordinator.stage = .running) : Stops s := by
  by_cases complete : s.coordinator.remaining = 0
  · exact .complete running complete
  · have missing : s.Missing := ⟨running, complete⟩
    have none := rests missing
    refine .pending missing (fun first => look_of_none (findSome?_asked_eq_none_iff.mpr none))
      (fun b => (step_of_missing missing b).trans (none b)) fun b asks => ?_
    refine Channel.receive_fst_eq_empty_iff.mp ?_
    cases b with
    | signals side => exact receive_of_serve_signals asks (none _)
    | completions => exact receive_of_serve_completions (none _)

/-! ## Whole polls -/

theorem round_after (going : ¬ (s.after choices n).Rests) :
    Round (s.after choices n) (choices n) (s.after choices (n + 1)) :=
  round_of_not_rests going (choices n)

theorem running_or_stops_after (running : s.coordinator.stage = .running) (n : Nat) :
    (s.after choices n).coordinator.stage = .running ∨ Stops (s.after choices n) := by
  induction n with
  | zero => exact .inl running
  | succ n ih =>
    by_cases rests : (s.after choices n).Rests
    · rw [after_of_rests rests (Nat.le_succ n)]
      exact ih
    · exact (round_after rests).running_or_stops

/-- As long as a poll goes on, every round uses something up. -/
theorem add_work_le (going : ∀ m < n, ¬ (s.after choices m).Rests) :
    n + (s.after choices n).work ≤ s.work := by
  induction n with
  | zero => exact Nat.le_of_eq (Nat.zero_add _)
  | succ n ih =>
    have before := ih fun m less => going m (Nat.lt_succ_of_lt less)
    have round := round_after (going n (Nat.lt_succ_self n))
    have less := round.progress.work_lt round.missing.1
    omega

/-- A poll comes to rest, at the latest when everything is used up. -/
theorem exists_rests (choices : Nat → Branch) (s : State) :
    ∃ n ≤ s.work, (s.after choices n).Rests ∧ ∀ m < n, ¬ (s.after choices m).Rests := by
  classical
  have some : ∃ n, (s.after choices n).Rests := by
    by_contra endless
    have spent : s.work + 1 + (s.after choices (s.work + 1)).work ≤ s.work :=
      add_work_le fun m _ rests => endless ⟨m, rests⟩
    omega
  have going : ∀ m < Nat.find some, ¬ (s.after choices m).Rests := fun m => Nat.find_min some
  have spent := add_work_le going
  exact ⟨Nat.find some, by omega, Nat.find_spec some, going⟩

theorem isOpen_round (isOpen : (s.round first).coordinator.isOpen side = true) :
    s.coordinator.isOpen side = true := by
  by_cases rests : s.Rests
  · rwa [round_of_rests rests] at isOpen
  · exact (round_of_not_rests rests first).progress.isOpen isOpen

/-- A side that was found closed stays closed. -/
theorem isOpen_after (later : n ≤ m)
    (isOpen : (s.after choices m).coordinator.isOpen side = true) :
    (s.after choices n).coordinator.isOpen side = true := by
  induction m, later using Nat.le_induction with
  | base => exact isOpen
  | succ m _ ih => exact ih (isOpen_round isOpen)

/-- Whichever source is asked first in each round, a poll of a running coordinator makes no more
rounds than there are buffered items, and three. Then it rests: no completion is missing, or they are
lost, or a sum has left its range, or all sources that are asked are empty. Every round takes an
item, or closes a side, or finds the completions lost. There is always a source to be asked, and a
side that was found closed is never among them. A poll that may make only `m` rounds comes to the same
if that is enough. Otherwise it makes the first `m` of these rounds and is cut short, pending with a
source that is ready. -/
theorem never_spins (running : s.coordinator.stage = .running) (choices : Nat → Branch) :
    ∃ n ≤ s.inlets.first.buffered + s.inlets.second.buffered + s.inlets.completions.buffered + 3,
      (∀ m < n, Round (s.after choices m) (choices m) (s.after choices (m + 1))) ∧
      Stops (s.after choices n) ∧ (∀ m ≥ n, s.after choices m = s.after choices n) ∧
      (∀ m < n, Cut (s.after choices m)) ∧
      ∀ m first, (s.after choices m).look first ≠ .stranded ∧
        ∀ side k, m ≤ k → (s.after choices m).coordinator.isOpen side = false →
          .signals side ∉ (s.after choices k).asked first := by
  obtain ⟨n, bound, rests, going⟩ := exists_rests choices s
  refine ⟨n, bound.trans s.work_le, fun m less => round_after (going m less), ?_,
    fun m later => after_of_rests rests later, fun m less => (round_after (going m less)).cut,
    fun m first => ⟨look_ne_stranded _ _, fun side k later closed asked => ?_⟩⟩
  · rcases running_or_stops_after running n with running | stops
    · exact rests.stops running
    · exact stops
  · have isOpen := isOpen_after later (mem_asked_iff.mp asked)
    rw [closed] at isOpen
    cases isOpen

/-- With one signal and one completion of two, and nobody left to send, it takes all five rounds to
find the other completion lost. A poll that may make only two is pending. -/
theorem never_spins_of_lost :
    let gone : Channel := { capacity := 1, senders := 0 }
    let given : State := ⟨.create 0 2 .increment .decrement,
      ⟨{ gone with buffered := 1 }, gone, { gone with buffered := 1 }⟩, []⟩
    let last : State := given.after (fun _ => .signals .first) 5
    given.coordinator.stage = .running ∧
      (∀ m < 5, Round (given.after (fun _ => .signals .first) m) (.signals .first)
        (given.after (fun _ => .signals .first) (m + 1))) ∧
      Stops last ∧ last.coordinator.stage = .leaving (.lost 1) ∧
      Cut (given.after (fun _ => .signals .first) 2) := by
  intro gone given last
  obtain ⟨n, bound, rounds, stops, still, cut, -⟩ :=
    never_spins (s := given) rfl fun _ => .signals .first
  have moved : given.after (fun _ => .signals .first) 4 ≠ last := by decide +kernel
  have least : ¬ n ≤ 4 := fun less =>
    moved ((still 4 less).trans (still 5 (Nat.le_succ_of_le less)).symm)
  obtain rfl : n = 5 := Nat.le_antisymm bound (Nat.not_le.mp least)
  exact ⟨rfl, rounds, stops, by decide +kernel, cut 2 (by decide)⟩

/-- A turn's length of signals on one side keeps the coordinator from the signal on the other. The
poll is cut short before it, and pending while completions are missing and both sides are open. -/
theorem pending_with_items :
    let idle : Channel := { capacity := 1000 }
    let given : State := ⟨.create 0 2 .increment .decrement,
      ⟨{ idle with buffered := turnLength }, { idle with buffered := 1 }, idle⟩, []⟩
    let cut := given.after (fun _ => .signals .first) turnLength
    (∀ m < turnLength, Round (given.after (fun _ => .signals .first) m) (.signals .first)
      (given.after (fun _ => .signals .first) (m + 1))) ∧
      cut.Missing ∧ cut.coordinator.isOpen .second = true ∧ cut.inlets.second.buffered = 1 := by
  intro idle given cut
  have seen : cut.Missing ∧ cut.coordinator.isOpen .second = true ∧
      cut.inlets.second.buffered = 1 ∧ cut.serve (.signals .second) ≠ none := by decide +kernel
  obtain ⟨missing, isOpen, buffered, ready⟩ := seen
  refine ⟨fun m less => round_after fun rests => ?_, missing, isOpen, buffered⟩
  -- A poll that had come to rest would still be there.
  have here : cut = given.after (fun _ => .signals .first) m := after_of_rests rests less.le
  rw [← here] at rests
  exact ready (rests missing _)

/-- A send that waits is given the slot of the item that was taken, but its own item is not there
yet, and so nothing is ready. -/
example :
    let idle : Channel := { capacity := 1 }
    let full : Channel := { idle with buffered := 1, waiting := [0], nextTicket := 1 }
    let given : State := ⟨.create 0 1 .increment .decrement, ⟨full, idle, idle⟩, []⟩
    let next := given.round .completions
    next.inlets.first = { full with buffered := 0, granted := [0], waiting := [] } ∧
      next.look .completions = .nothing := by decide +kernel

/-! ## The coordinator's own poll -/

theorem exists_cycle (s : State) : ∃ first : Branch, s.preference = first.cycle := by
  unfold preference
  split
  · exact ⟨.signals .first, rfl⟩
  · exact ⟨.signals .second, rfl⟩
  · exact ⟨.completions, rfl⟩

theorem stepAny_of_not_rests (going : ¬ s.Rests) (order : s.preference = first.cycle) :
    s.stepAny = some (s.round first) := by
  have round := round_of_not_rests going first
  rw [stepAny, order, funext (step_of_missing round.missing), ← findSome?_asked]
  exact findSome?_of_look round.served

/-- With some choices the coordinator's own steps are the rounds of a poll, until that rests. -/
theorem exists_choices (s : State) : ∃ choices : Nat → Branch, ∀ n, ∃ m ≤ n,
    s.after choices n = advance stepAny m s ∧ (m = n ∨ (s.after choices n).Rests) := by
  choose first order using exists_cycle
  refine ⟨fun m => first (advance stepAny m s), fun n => ?_⟩
  induction n with
  | zero => exact ⟨0, Nat.le_refl _, rfl, .inl rfl⟩
  | succ n ih =>
    obtain ⟨m, le, same, last⟩ := ih
    by_cases rests : (s.after (fun m => first (advance stepAny m s)) n).Rests
    · rw [after_of_rests rests (Nat.le_succ n)]
      exact ⟨m, Nat.le_succ_of_le le, same, .inr rests⟩
    · obtain rfl := last.resolve_right rests
      refine ⟨m + 1, Nat.le_refl _, ?_, .inl rfl⟩
      have next := stepAny_of_not_rests rests (order _)
      rw [advance_add, ← same, advance, next, after, ← same]
      rfl

end State

/-- The coordinator's own run goes on from every moment of such a poll. -/
theorem run_eq_of_after (c : Coordinator) (i : Inlets) : ∃ choices : Nat → Branch, ∀ n,
    c.run i = advance stepAny (effort ⟨c, i, []⟩) (State.after choices ⟨c, i, []⟩ n) := by
  obtain ⟨choices, own⟩ := exists_choices ⟨c, i, []⟩
  refine ⟨choices, fun n => ?_⟩
  obtain ⟨m, -, same, -⟩ := own n
  rw [same, ← advance_add, Nat.add_comm, advance_add]
  exact (advance_of_none (c.stepAny_run i) m).symm

end Coordinator

end SharedCounter
