import SharedCounter.Proofs.Run.Poll
import SharedCounter.Proofs.Run.Rounds
import SharedCounter.Proofs.Run.Verdicts

/-!
# Out of the range the result hangs on the schedule

* `Run.leads_of_bare` : what can happen to a count can happen in a run, while those who listen stay
  where they are;
* `Run.leads_returned` : a run that has joined its producers returns, if its listener has read
  everything and has not looked at the stop sign since;
* `Run.range_exact` : a run can always return a full count. It can panic as well exactly if the
  signals of one producer alone take the counter out of its range.
-/

namespace SharedCounter

/-! ## Workers with nothing to do -/

/-- Nothing is left to do at a desk to which nothing more can come. -/
structure Desk.Spent (d : Desk) : Prop where
  working : d.duty = .working
  inHand : d.inHand = none
  queue : d.queue = []
  closed : d.isOpen = false

theorem Desk.Spent.step {d : Desk} (h : d.Spent) :
    State.step ⟨d, []⟩ = some ⟨{ d with duty := .left }, []⟩ := by
  obtain ⟨working, in_hand, queue, closed⟩ := h
  simp [State.step, working, in_hand, queue, closed]

namespace Run

variable {c : Config} {subscribers : List Subscriber} {size : SlotSize} {wording : CrashWording}
  {r r₀ t : Run} {v : Bare} {l : Ledger}

theorem leads_left (before after : Audience) (spent : ∀ d ∈ after, d.Spent) :
    Leads act { r with audience := before ++ after }
      { r with audience := before ++ after.map fun d => { d with duty := .left } } := by
  induction after generalizing before with
  | nil => exact .refl _
  | cons d after ih =>
    have here : (before ++ d :: after)[before.length]? = some d := by simp
    have step : act { r with audience := before ++ d :: after }
        (.move (.task (.worker before.length)))
        = some { r with audience := before ++ { d with duty := .left } :: after } := by
      refine stepWorker_eq_some_iff.mpr ⟨d, _, here, (spent d List.mem_cons_self).step, ?_⟩
      simp [publish, Bus.publishAll, stampFrom]
    have rest := ih (before ++ [{ d with duty := .left }]) fun d' hd' =>
      spent d' (List.mem_cons_of_mem _ hd')
    simp only [List.append_assoc, List.singleton_append] at rest
    exact ((Leads.refl _).move step).trans rest

/-! ## From a count to a run -/

/-- Those who listen stay where they are. -/
structure Aside (r t : Run) : Prop where
  listened : 0 < t.bus.listeners
  listener : t.listener = r.listener
  audience : t.audience = r.audience

theorem exists_deed {m : Bare.Move} (listened : 0 < r.bus.listeners)
    (h : r.bare.act m = some v) : ∃ d t, r.act d = some t ∧ t.bare = v ∧ Aside r t := by
  obtain ⟨d, t, seen, happens, hv⟩ := lift_of_act h
  rcases d with d | o
  · have act : r.act d = some t := happens
    have listener : d ≠ .move (.task .listener) := by
      rintro rfl
      cases seen
    have beside := beside_of_act listened act listener
    refine ⟨d, t, act, hv, ?_, beside.listener, ?_⟩
    · rw [beside.listeners]
      exact listened
    · refine audience_of_act act listener ?_
      rintro i rfl
      cases seen
  · cases seen

theorem leads_of_bare (listened : 0 < r.bus.listeners) (h : Leads Bare.act r.bare v) :
    ∃ t, Leads act r t ∧ t.bare = v ∧ Aside r t := by
  obtain ⟨moves, run⟩ := h
  induction moves generalizing r with
  | nil =>
    cases run
    exact ⟨r, .refl r, rfl, listened, rfl, rfl⟩
  | cons m moves ih =>
    rw [follow_cons] at run
    obtain ⟨w, first, rest⟩ := Option.bind_eq_some_iff.mp run
    obtain ⟨d, s, step, rfl, aside⟩ := exists_deed listened first
    obtain ⟨t, leads, hv, aside'⟩ := ih aside.listened rest
    exact ⟨t, ((Leads.refl r).move step).trans leads, hv, aside'.listened,
      aside'.listener.trans aside.listener, aside'.audience.trans aside.audience⟩

/-! ## Returning -/

theorem leads_returned (coordinating : r.main = .coordinating)
    (stands : r.team.coordinator.stage = .ended (.counted l)) (joined : r.joined.length = 2)
    (checking : r.listener = .checkingStop) (spent : ∀ d ∈ r.audience.close, d.Spent) :
    ∃ t, Leads act r t ∧ t.main = .returned (.counted l) ∧ t.team = r.team ∧
      t.joined = r.joined := by
  let o : Outcome := .counted l
  let main : Deed := .move (.main .completions)
  let listen : Deed := .move (.task .listener)
  have joins : r.act main = some { r with main := .joining o 0 } := by
    show r.stepMain .completions = _
    simp [stepMain, coordinating, stands, o]
  have hears : ∀ n < 2, act { r with main := .joining o n } main
      = some { r with main := .joining o (n + 1) } := by
    intro n hn
    show stepMain { r with main := .joining o n } .completions = _
    simp [stepMain, joined, hn]
  let s : Run := { r.publish (counterReport o) with main := .stopping o }
  have reports : act { r with main := .joining o 2 } main = some s := by
    show stepMain { r with main := .joining o 2 } .completions = _
    simp [stepMain, joined, Effect.all, s, publish]
  let w : Run := { s with stop := true, main := .awaiting o }
  have stops : s.act main = some w := rfl
  have leaves : w.act listen
      = some { w with audience := w.audience.close, listener := .closing } := by
    have here : w.listener = .checkingStop := checking
    have told : w.stop = true := rfl
    show w.stepListener = _
    simp [stepListener, here, told]
  let left : Audience := w.audience.close.map fun d => { d with duty := .left }
  have workers : Leads act { w with audience := w.audience.close, listener := .closing }
      { w with audience := left, listener := .closing } :=
    leads_left (r := { w with listener := .closing }) [] w.audience.close spent
  have gone : act { w with audience := left, listener := .closing } listen
      = some { w with audience := left, listener := .gone } := by
    have all : left.allLeft = true := by simp [left, Audience.allLeft]
    exact if_pos all
  have returns : act { w with audience := left, listener := .gone } main
      = some { w with audience := left, listener := .gone, main := .returned o } := rfl
  have stopped := (((((Leads.refl r).move joins).move (hears 0 (by omega))).move
    (hears 1 (by omega))).move reports).move stops
  exact ⟨_, (((stopped.move leaves).trans workers).move gone).move returns, rfl, rfl, rfl⟩

/-! ## The range -/

/-- A run that begins may have its listener look at the bus before anything is published. -/
theorem leads_checking (start : Run.start c (Team.orderlyActs c) subscribers size = .ok r₀) :
    ∃ r, Leads act r₀ r ∧ r.bare = .start c (Team.orderlyActs c) ∧ 0 < r.bus.listeners ∧
      r.listener = .checkingStop ∧ ∀ d ∈ r.audience.close, d.Spent := by
  obtain ⟨told, -, -, -⟩ := TracedListener.start start
  obtain ⟨empty, -, audience⟩ := fresh_of_start start
  have listening := listener_of_start start
  have held : r₀.holders ≠ 0 := holders_pos (by rw [listening]; rintro ⟨⟩)
  have look : r₀.stepListener = some { r₀ with listener := .checkingStop } := by
    simp [stepListener, listening, Bus.read, Bus.oldest, empty, held]
  have fresh : r₀.bare = .start c (Team.orderlyActs c) := bare_start start
  refine ⟨_, (Leads.refl r₀).move (a := .move (.task .listener)) look, fresh, told.listened, rfl,
    fun d mem => ?_⟩
  obtain ⟨d', seated, rfl⟩ := List.mem_map.mp mem
  have seated : d' ∈ r₀.audience := seated
  rw [audience] at seated
  obtain ⟨s, -, rfl⟩ := List.mem_map.mp seated
  exact ⟨rfl, rfl, rfl, rfl⟩

theorem leads_full (few : 2 * c.iterations ≤ countMax) (low : counterMin ≤ c.initial)
    (high : c.initial ≤ counterMax)
    (start : Run.start c (Team.orderlyActs c) subscribers size = .ok r₀) :
    ∃ r, Leads act r₀ r ∧ r.result? wording = some (.returned (.ok (Bare.wholeLedger c))) := by
  obtain ⟨r, looked, bare, listened, checking, spent⟩ := leads_checking start
  obtain ⟨s, whole, stands⟩ := Bare.leads_whole few low high
  rw [← bare] at whole
  obtain ⟨t, counted, hv, aside⟩ := leads_of_bare listened whole
  have coordinating : t.main = .coordinating := by
    have settled := congrArg Bare.main hv
    cases main : t.main with
    | coordinating => rfl
    | _ => simp [Run.bare, main, MainStage.settled, Bare.around] at settled
  have team : t.team =
      ⟨Bare.finished .increment, Bare.finished .decrement, s.coordinator, s.inlets⟩ :=
    congrArg Bare.team hv
  have joined : t.joined = [.increment, .decrement] := congrArg Bare.joined hv
  obtain ⟨u, rest, returned, same, still⟩ := leads_returned (l := Bare.wholeLedger c) coordinating
    (by rw [team]; exact stands) (by rw [joined]; rfl) (aside.listener.trans checking)
    (by rw [aside.audience]; exact spent)
  have verdict : ∀ e, (u.team.producer e).verdict = some .finished := by
    intro e
    rw [same, team]
    cases e <;> rfl
  refine ⟨u, (looked.trans counted).trans rest, result?_eq_ok_iff.mpr ⟨returned, ?_, ?_⟩⟩
  · refine Team.crash?_eq_none_iff.mpr fun e _ m => ?_
    rw [verdict]
    rintro ⟨⟩
  · refine Team.failure?_eq_none_iff.mpr fun e _ d => ?_
    rw [verdict]
    rintro ⟨⟩

theorem leads_panic {e : Effect} (low : counterMin ≤ c.initial) (high : c.initial ≤ counterMax)
    (beyond : c.initial + c.iterations * e.delta < counterMin ∨
      counterMax < c.initial + c.iterations * e.delta)
    (start : Run.start c (Team.orderlyActs c) subscribers size = .ok r₀) :
    ∃ r, Leads act r₀ r ∧ r.result? wording = some (.panicked .sumOverflow) := by
  obtain ⟨v, gone, settled, stands⟩ := Bare.leads_overflow low high beyond
  rw [← bare_start start] at gone
  obtain ⟨t, counted, rfl, -⟩ := leads_of_bare (TracedListener.start start).1.listened gone
  have coordinating : t.main = .coordinating := by
    cases main : t.main with
    | coordinating => rfl
    | _ => simp [Run.bare, main, MainStage.settled] at settled
  have overflow : t.act (.move (.main .completions))
      = some { t with main := .returned .overflowed } := by
    have stands : t.team.coordinator.stage = .ended .overflowed := stands
    show t.stepMain .completions = _
    simp [stepMain, coordinating, stands]
  exact ⟨_, counted.move overflow, rfl⟩

theorem Orderly.not_panicked {deeds : List Deed} (up : c.initial + c.iterations ≤ counterMax)
    (down : counterMin ≤ c.initial - c.iterations)
    (start : Run.start c (Team.orderlyActs c) subscribers size = .ok r₀)
    (h : follow act r₀ deeds = some r) (p : Panic) : r.result? wording ≠ some (.panicked p) := by
  have orderly : Orderly c.iterations c.initial r := by
    refine follow_invariant (fun s d t step orderly => ?_) h (.start start)
    cases d with
    | move m => exact orderly.step up down step
    | takePlace e =>
      obtain ⟨-, ⟨⟩⟩ := Option.ite_none_right_eq_some.mp step
      exact orderly.takePlace
  intro result
  obtain ⟨l, ⟨⟩, -⟩ := orderly.result result

/-- The condition on the range is exact. Whatever the capacities are and whoever listens: some
schedule lets a run of orderly producers return a full count, with the value that it began with; and
some schedule lets it panic over a sum exactly if the signals of one producer, without those of the
other, leave the range of the counter. -/
theorem range_exact (wording : CrashWording) (low : counterMin ≤ c.initial)
    (high : c.initial ≤ counterMax) (few : 2 * c.iterations ≤ countMax)
    (start : Run.start c (Team.orderlyActs c) subscribers size = .ok r₀) :
    (∃ deeds r l, follow act r₀ deeds = some r ∧ r.result? wording = some (.returned (.ok l)) ∧
      l.value = c.initial ∧ l.increments = c.iterations ∧ l.decrements = c.iterations) ∧
    ((∃ deeds r, follow act r₀ deeds = some r ∧
        r.result? wording = some (.panicked .sumOverflow)) ↔
      counterMax < c.initial + c.iterations ∨ c.initial - c.iterations < counterMin) := by
  constructor
  · obtain ⟨r, ⟨deeds, run⟩, result⟩ := leads_full few low high start
    exact ⟨deeds, r, _, run, result, rfl, rfl, rfl⟩
  constructor
  · rintro ⟨deeds, r, run, result⟩
    by_contra inside
    exact Orderly.not_panicked (by omega) (by omega) start run _ result
  · intro outside
    have beyond : ∃ e : Effect, c.initial + c.iterations * e.delta < counterMin ∨
        counterMax < c.initial + c.iterations * e.delta := by
      rcases outside with above | below
      · refine ⟨.increment, .inr ?_⟩
        simp only [Effect.delta]
        omega
      · refine ⟨.decrement, .inl ?_⟩
        simp only [Effect.delta]
        omega
    obtain ⟨e, beyond⟩ := beyond
    obtain ⟨r, ⟨deeds, run⟩, result⟩ := leads_panic low high beyond start
    exact ⟨deeds, r, run, result⟩

/-- At the upper end of the range two signals of each producer are too many. -/
theorem range_exact_of_edge :
    let c : Config := { iterations := 2, initial := counterMax - 1, signalCapacity := 3 }
    let gated : Subscriber := { name := "gated", gated := true }
    ∃ r₀, Run.start c (Team.orderlyActs c) [gated] = .ok r₀ ∧
      (∃ deeds r l, follow act r₀ deeds = some r ∧ r.result? = some (.returned (.ok l)) ∧
        l.value = counterMax - 1 ∧ l.increments = 2 ∧ l.decrements = 2) ∧
      ∃ deeds r, follow act r₀ deeds = some r ∧ r.result? = some (.panicked .sumOverflow) := by
  intro c gated
  have seen : (Run.start c (Team.orderlyActs c) [gated]).toOption.isSome = true := by decide +kernel
  obtain ⟨r₀, started⟩ := Option.isSome_iff_exists.mp seen
  have start := start_of_toOption started
  obtain ⟨returns, panics⟩ := range_exact .unnumbered (by decide) (by decide) (by decide) start
  exact ⟨r₀, start, returns, panics.mpr (.inl (by decide))⟩

end Run

end SharedCounter
