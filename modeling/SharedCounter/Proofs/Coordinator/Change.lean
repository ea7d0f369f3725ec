import Mathlib.Tactic.Common
import SharedCounter.Coordinator.Effort
import SharedCounter.Proofs.Channel.Items

/-!
# What one step of a coordinator changes

* `Ledger.booked`, `Coordinator.credit` : one more signal, when every sum stays in range (`Fits`);
* `Ledger.applied` : the signals of both effects;
* `Change s t` : the ways in which a coordinator can get from `s` to `t` in one step, with all that
  holds when it does. Every step is one of them (`Change.of_step`), and `Change.overflow` is taken
  only where a sum really leaves its range;
* `signalsOf` : the signals of an effect that still wait in the buffers. Taking one lowers it by one
  (`signalsOf_setSignals`);
* `Inlets.Drawn` : some items were taken. Nothing else happens to the channels while the receiving
  ends are held (`Receiving`), until the coordinator departs and hangs up (`Change.inlets`,
  `drawn_or_hangUp_of_step`), and its effects stay the same (`Change.effect_eq`);
* `Waits` : whichever branch is chosen there is nothing to do. A running coordinator waits for a
  source only when that source has nothing (`receive_of_serve_signals`,
  `receive_of_serve_completions`).
-/

namespace SharedCounter

namespace Ledger

/-- The books after one more signal. -/
def booked (l : Ledger) : Effect → Ledger
  | .increment => { l with increments := l.increments + 1 }
  | .decrement => { l with decrements := l.decrements + 1 }

/-- The signals applied of both effects. -/
def applied (l : Ledger) : Nat := l.increments + l.decrements

theorem of_booked (l : Ledger) (e f : Effect) :
    (l.booked e).of f = l.of f + if e = f then 1 else 0 := by
  cases e <;> cases f <;> rfl

@[simp]
theorem completions_booked (l : Ledger) (e : Effect) :
    (l.booked e).completions = l.completions := by
  cases e <;> rfl

theorem book?_of_le {l : Ledger} {e : Effect} (h : l.of e + 1 ≤ countMax) :
    l.book? e = some (l.booked e) := by
  cases e <;> simp_all [book?, booked, addCount, of]

theorem book?_of_lt {l : Ledger} {e : Effect} (h : countMax < l.of e + 1) : l.book? e = none := by
  cases e <;> simp_all [book?, addCount, of]

theorem applied?_of_le {l : Ledger} (h : l.applied ≤ countMax) : l.applied? = some l.applied :=
  applied?_eq_some_iff.mpr ⟨rfl, h⟩

theorem applied?_of_lt {l : Ledger} (h : countMax < l.applied) : l.applied? = none := by
  cases hs : l.applied? with
  | none => rfl
  | some n =>
    obtain ⟨rfl, hn⟩ := applied?_eq_some_iff.mp hs
    exact absurd hn (Nat.not_le.mpr h)

end Ledger

namespace Inlets

def channel (i : Inlets) : Branch → Channel
  | .signals side => i.signals side
  | .completions => i.completions

/-- `j` is `i` after some items were taken. -/
structure Drawn (i j : Inlets) : Prop where
  first : Channel.Drawn i.first j.first
  second : Channel.Drawn i.second j.second
  completions : Channel.Drawn i.completions j.completions

theorem Drawn.refl (i : Inlets) : i.Drawn i := ⟨.refl _, .refl _, .refl _⟩

theorem Drawn.trans {i j k : Inlets} (h₁ : i.Drawn j) (h₂ : j.Drawn k) : i.Drawn k :=
  ⟨h₁.first.trans h₂.first, h₁.second.trans h₂.second, h₁.completions.trans h₂.completions⟩

theorem Drawn.hangUp_eq {i j : Inlets} (h : i.Drawn j) : j.hangUp = i.hangUp := by
  unfold hangUp
  rw [h.first.hangUp_eq, h.second.hangUp_eq, h.completions.hangUp_eq]

theorem Drawn.setSignals {i : Inlets} {side : Side} {ch : Channel}
    (taken : (i.signals side).take? = some ch) : i.Drawn (i.setSignals side ch) := by
  cases side
  · exact ⟨(Channel.Drawn.refl _).take taken, .refl _, .refl _⟩
  · exact ⟨.refl _, (Channel.Drawn.refl _).take taken, .refl _⟩

theorem Drawn.channel {i j : Inlets} (h : i.Drawn j) (b : Branch) :
    Channel.Drawn (i.channel b) (j.channel b) := by
  rcases b with (_ | _) | _
  · exact h.first
  · exact h.second
  · exact h.completions

@[simp]
theorem channel_hangUp (i : Inlets) (b : Branch) : i.hangUp.channel b = (i.channel b).hangUp := by
  rcases b with (_ | _) | _ <;> rfl

end Inlets

namespace Coordinator

/-- One more signal of effect `e` leaves every sum in its range. -/
def Fits (c : Coordinator) (e : Effect) : Prop :=
  counterMin ≤ c.counter + e.delta ∧ c.counter + e.delta ≤ counterMax ∧ c.ledger.of e + 1 ≤ countMax

/-- The coordinator after one more signal. -/
def credit (c : Coordinator) (e : Effect) : Coordinator :=
  { c with counter := c.counter + e.delta, ledger := c.ledger.booked e }

/-- The coordinator after one more completion. -/
def countDown (c : Coordinator) : Coordinator :=
  { c with
    remaining := c.remaining - 1
    ledger := { c.ledger with completions := c.ledger.completions + 1 } }

/-- The books as they are closed, after draining that began with `before` signals. -/
def closing (c : Coordinator) (before : Nat) : Ledger :=
  { c.ledger with drained := c.ledger.applied - before, value := c.counter }

@[simp]
theorem stage_credit (c : Coordinator) (e : Effect) : (c.credit e).stage = c.stage := rfl

@[simp]
theorem stage_countDown (c : Coordinator) : c.countDown.stage = c.stage := rfl

@[simp]
theorem stage_close (c : Coordinator) (side : Side) : (c.close side).stage = c.stage := by
  cases side <;> rfl

@[simp]
theorem of_closing (c : Coordinator) (before : Nat) (e : Effect) :
    (c.closing before).of e = c.ledger.of e := by
  cases e <;> rfl

/-- The receiving ends are still held. -/
def Receiving (c : Coordinator) : Prop := ∀ o, c.stage ≠ .ended o

theorem receiving_of_running {c : Coordinator} (h : c.stage = .running) : c.Receiving := by
  intro o ho
  rw [h] at ho
  cases ho

theorem receiving_of_draining {c : Coordinator} {before : Nat} {side : Side} {progressed : Bool}
    (h : c.stage = .draining before side progressed) : c.Receiving := by
  intro o ho
  rw [h] at ho
  cases ho

theorem receiving_of_leaving {c : Coordinator} {o : Outcome} (h : c.stage = .leaving o) :
    c.Receiving := by
  intro o' ho
  rw [h] at ho
  cases ho

theorem receiving_or_ended (c : Coordinator) : c.Receiving ∨ ∃ o, c.stage = .ended o := by
  by_cases ended : ∃ o, c.stage = .ended o
  · exact .inr ended
  · exact .inl fun o h => ended ⟨o, h⟩

theorem outcome?_of_leaving {c : Coordinator} {o : Outcome} (h : c.stage = .leaving o) :
    c.outcome? = some o := by
  rw [outcome?, h]

theorem outcome?_of_ended {c : Coordinator} {o : Outcome} (h : c.stage = .ended o) :
    c.outcome? = some o := by
  rw [outcome?, h]

/-- The stage after a signal was found on a side while draining. -/
def found (before : Nat) : Side → Stage
  | .first => .draining before .second true
  | .second => .draining before .first false

/-- The signals of effect `e` in the buffers of a coordinator. -/
def signalsOf (c : Coordinator) (i : Inlets) (e : Effect) : Nat :=
  (if c.firstEffect = e then i.first.buffered else 0)
    + (if c.secondEffect = e then i.second.buffered else 0)

theorem signalsOf_setSignals {c : Coordinator} {i : Inlets} {side : Side} {ch : Channel}
    (taken : (i.signals side).take? = some ch) (e : Effect) :
    c.signalsOf i e
      = c.signalsOf (i.setSignals side ch) e + if c.effect side = e then 1 else 0 := by
  have h := Channel.buffered_of_take? taken
  cases side
  · simp only [Inlets.signals] at h
    by_cases hf : c.firstEffect = e <;> simp [signalsOf, effect, Inlets.setSignals, hf, h]
    omega
  · simp only [Inlets.signals] at h
    by_cases hs : c.secondEffect = e <;> simp [signalsOf, effect, Inlets.setSignals, hs, h]
    omega

namespace State

theorem apply_of_fits {s : State} {e : Effect} (h : s.coordinator.Fits e) :
    s.apply e = { s with coordinator := s.coordinator.credit e } := by
  obtain ⟨hl, hu, hc⟩ := h
  unfold apply addCounter
  rw [if_pos ⟨hl, hu⟩, Ledger.book?_of_le hc]
  rfl

theorem apply_of_not_fits {s : State} {e : Effect} (h : ¬ s.coordinator.Fits e) :
    s.apply e = s.leave .overflowed := by
  unfold apply addCounter
  by_cases hr : counterMin ≤ s.coordinator.counter + e.delta ∧
      s.coordinator.counter + e.delta ≤ counterMax
  · have hc : countMax < s.coordinator.ledger.of e + 1 := by
      by_contra hle
      exact h ⟨hr.1, hr.2, Nat.not_lt.mp hle⟩
    rw [if_pos hr, Ledger.book?_of_lt hc]
  · rw [if_neg hr]

theorem complete_of_le {s : State} (h : s.coordinator.ledger.applied ≤ countMax) :
    s.complete = { s with coordinator := s.coordinator.countDown }.note
      { kind := .completionObserved, remaining := some (s.coordinator.remaining - 1),
        count := some s.coordinator.ledger.applied } := by
  have hs : s.coordinator.countDown.ledger.applied? = some s.coordinator.ledger.applied :=
    Ledger.applied?_of_le h
  unfold complete
  simp only [countDown] at hs ⊢
  rw [hs]

theorem complete_of_lt {s : State} (h : countMax < s.coordinator.ledger.applied) :
    s.complete = { s with coordinator := s.coordinator.countDown }.leave .overflowed := by
  have hs : s.coordinator.countDown.ledger.applied? = none := Ledger.applied?_of_lt h
  unfold complete
  simp only [countDown] at hs ⊢
  rw [hs]

/-- A sum leaves its range in the next step. -/
inductive Overflows (s : State) : Prop where
  | signal (side : Side) (found : 0 < (s.inlets.signals side).buffered)
      (out : ¬ s.coordinator.Fits (s.coordinator.effect side))
  | sum (out : countMax < s.coordinator.ledger.applied)

/-- What one step changes. -/
inductive Change (s : State) : State → Prop where
  | signal {side : Side} {ch : Channel} (running : s.coordinator.stage = .running)
      (missing : s.coordinator.remaining ≠ 0) (isOpen : s.coordinator.isOpen side = true)
      (taken : (s.inlets.signals side).take? = some ch)
      (fits : s.coordinator.Fits (s.coordinator.effect side)) :
      Change s { s with coordinator := s.coordinator.credit (s.coordinator.effect side),
                        inlets := s.inlets.setSignals side ch }
  | close {side : Side} (running : s.coordinator.stage = .running)
      (missing : s.coordinator.remaining ≠ 0) (isOpen : s.coordinator.isOpen side = true)
      (empty : (s.inlets.signals side).buffered = 0) (gone : (s.inlets.signals side).senders = 0) :
      Change s { s with coordinator := s.coordinator.close side }
  | completion {ch : Channel} (running : s.coordinator.stage = .running)
      (missing : s.coordinator.remaining ≠ 0) (taken : s.inlets.completions.take? = some ch)
      (fits : s.coordinator.ledger.applied ≤ countMax) :
      Change s { coordinator := s.coordinator.countDown
                 inlets := { s.inlets with completions := ch }
                 events := s.events ++ [{ kind := .completionObserved
                                          remaining := some (s.coordinator.remaining - 1)
                                          count := some s.coordinator.ledger.applied }] }
  | lose (running : s.coordinator.stage = .running) (missing : s.coordinator.remaining ≠ 0)
      (empty : s.inlets.completions.buffered = 0) (gone : s.inlets.completions.senders = 0) :
      Change s (s.leave (.lost s.coordinator.remaining))
  | begin (running : s.coordinator.stage = .running) (complete : s.coordinator.remaining = 0)
      (fits : s.coordinator.ledger.applied ≤ countMax) :
      Change s ({ s with coordinator :=
                    { s.coordinator with
                      stage := .draining s.coordinator.ledger.applied .first false } }.note
                { kind := .drainStarted, phase := some .draining,
                  count := some s.coordinator.ledger.applied })
  | drain {before : Nat} {side : Side} {progressed : Bool} {ch : Channel}
      (draining : s.coordinator.stage = .draining before side progressed)
      (taken : (s.inlets.signals side).take? = some ch)
      (fits : s.coordinator.Fits (s.coordinator.effect side)) :
      Change s { s with coordinator := { s.coordinator.credit (s.coordinator.effect side) with
                                         stage := found before side },
                        inlets := s.inlets.setSignals side ch }
  | pass {before : Nat} {progressed : Bool}
      (draining : s.coordinator.stage = .draining before .first progressed)
      (empty : s.inlets.first.buffered = 0) :
      Change s { s with coordinator :=
                   { s.coordinator with stage := .draining before .second progressed } }
  | again {before : Nat} (draining : s.coordinator.stage = .draining before .second true)
      (empty : s.inlets.second.buffered = 0) :
      Change s { s with coordinator :=
                   { s.coordinator with stage := .draining before .first false } }
  | finish {before : Nat} (draining : s.coordinator.stage = .draining before .second false)
      (empty : s.inlets.second.buffered = 0) (fits : s.coordinator.ledger.applied ≤ countMax) :
      Change s ({ s with coordinator :=
                    { s.coordinator with
                      ledger := s.coordinator.closing before
                      stage := .leaving (.counted (s.coordinator.closing before)) } }.note
                { kind := .drainFinished, phase := some .done,
                  count := some (s.coordinator.ledger.applied - before) })
  | depart {o : Outcome} (leaving : s.coordinator.stage = .leaving o) :
      Change s { s with coordinator := { s.coordinator with stage := .ended o },
                        inlets := s.inlets.hangUp }
  | overflow {t : State} (going : s.coordinator.outcome? = none) (overflows : s.Overflows)
      (left : t.coordinator.stage = .leaving .overflowed) : Change s t

theorem Overflows.signal_of_take? {s : State} {side : Side} {ch : Channel}
    (taken : (s.inlets.signals side).take? = some ch)
    (out : ¬ s.coordinator.Fits (s.coordinator.effect side)) : s.Overflows := by
  have h := Channel.buffered_of_take? taken
  exact .signal side (by omega) out

/-- Serving a source of a coordinator that misses completions. -/
theorem Change.of_serve {s t : State} {b : Branch} (running : s.coordinator.stage = .running)
    (missing : s.coordinator.remaining ≠ 0) (h : s.serve b = some t) : Change s t := by
  have going : s.coordinator.outcome? = none := by simp [outcome?, running]
  cases b with
  | signals side =>
    simp only [serve] at h
    split at h
    next isOpen =>
      split at h
      next ch hr =>
        cases h
        have taken := Channel.take?_of_receive hr
        by_cases fits : s.coordinator.Fits (s.coordinator.effect side)
        · rw [apply_of_fits (s := { s with inlets := s.inlets.setSignals side ch }) fits]
          exact .signal running missing isOpen taken fits
        · rw [apply_of_not_fits (s := { s with inlets := s.inlets.setSignals side ch }) fits]
          exact .overflow going (.signal_of_take? taken fits) rfl
      next hr =>
        cases h
        obtain ⟨empty, gone, -⟩ := Channel.receive_closed_iff.mp hr
        exact .close running missing isOpen empty gone
      next => simp at h
    next => simp at h
  | completions =>
    simp only [serve] at h
    split at h
    next ch hr =>
      cases h
      have taken := Channel.take?_of_receive hr
      by_cases fits : s.coordinator.ledger.applied ≤ countMax
      · rw [complete_of_le (s := { s with inlets := { s.inlets with completions := ch } }) fits]
        exact .completion running missing taken fits
      · have out := Nat.not_le.mp fits
        rw [complete_of_lt (s := { s with inlets := { s.inlets with completions := ch } }) out]
        exact .overflow going (.sum out) rfl
    next hr =>
      cases h
      obtain ⟨empty, gone, -⟩ := Channel.receive_closed_iff.mp hr
      exact .lose running missing empty gone
    next => simp at h

theorem Change.of_startDrain {s : State} (running : s.coordinator.stage = .running)
    (complete : s.coordinator.remaining = 0) : Change s s.startDrain := by
  by_cases fits : s.coordinator.ledger.applied ≤ countMax
  · unfold startDrain
    rw [Ledger.applied?_of_le fits]
    exact .begin running complete fits
  · have out := Nat.not_le.mp fits
    refine .overflow (by simp [outcome?, running]) (.sum out) ?_
    unfold startDrain
    rw [Ledger.applied?_of_lt out]
    rfl

theorem Change.of_finishDrain {s : State} {before : Nat}
    (draining : s.coordinator.stage = .draining before .second false)
    (empty : s.inlets.second.buffered = 0) : Change s (s.finishDrain before) := by
  by_cases fits : s.coordinator.ledger.applied ≤ countMax
  · unfold finishDrain
    rw [Ledger.applied?_of_le fits]
    exact .finish draining empty fits
  · have out := Nat.not_le.mp fits
    refine .overflow (by simp [outcome?, draining]) (.sum out) ?_
    unfold finishDrain
    rw [Ledger.applied?_of_lt out]
    rfl

theorem Change.of_drainStep {s : State} {before : Nat} {side : Side} {progressed : Bool}
    (draining : s.coordinator.stage = .draining before side progressed) :
    Change s (s.drainStep before side progressed) := by
  have going : s.coordinator.outcome? = none := by simp [outcome?, draining]
  unfold drainStep
  cases ht : (s.inlets.signals side).take? with
  | some ch =>
    by_cases fits : s.coordinator.Fits (s.coordinator.effect side)
    · have ha := apply_of_fits (s := { s with inlets := s.inlets.setSignals side ch }) fits
      have h := Change.drain draining ht fits
      cases side <;> simpa [ha, found, credit, draining] using h
    · have ha := apply_of_not_fits (s := { s with inlets := s.inlets.setSignals side ch }) fits
      refine .overflow going (.signal_of_take? ht fits) ?_
      cases side <;> simp [ha, leave]
  | none =>
    have empty := Channel.take?_eq_none_iff.mp ht
    cases side with
    | first =>
      have h := Change.pass draining empty
      simpa [draining] using h
    | second =>
      cases progressed with
      | true =>
        have h := Change.again draining empty
        simpa [draining] using h
      | false => exact Change.of_finishDrain draining empty

/-- Every step of a coordinator is one of these changes. -/
theorem Change.of_step {s t : State} {b : Branch} (h : s.step b = some t) : Change s t := by
  unfold step at h
  split at h
  next running =>
    split at h
    next complete =>
      cases h
      exact Change.of_startDrain running complete
    next missing => exact Change.of_serve running missing h
  next draining =>
    cases h
    exact Change.of_drainStep draining
  next leaving =>
    cases h
    exact .depart leaving
  next => simp at h

/-! ## What stays as it is -/

/-- Only a coordinator that has not ended takes a step. -/
theorem Change.not_ended {s t : State} (change : Change s t) (o : Outcome) :
    s.coordinator.stage ≠ .ended o := by
  intro h
  cases change <;> simp_all [outcome?]

theorem Change.effect_eq {s t : State} (change : Change s t)
    (fine : t.coordinator.outcome? ≠ some .overflowed) (side : Side) :
    t.coordinator.effect side = s.coordinator.effect side := by
  cases change with
  | @close closed => cases closed <;> cases side <;> rfl
  | overflow _ _ left => exact absurd (outcome?_of_leaving left) fine
  | _ => cases side <;> rfl

/-- Items are taken until the coordinator departs and hangs up. -/
theorem Change.inlets {s t : State} (change : Change s t)
    (fine : t.coordinator.outcome? ≠ some .overflowed) :
    (t.coordinator.Receiving ∧ s.inlets.Drawn t.inlets) ∨
      (∃ o, t.coordinator.stage = .ended o) ∧ t.inlets = s.inlets.hangUp := by
  cases change with
  | signal running _ _ taken =>
    exact .inl ⟨receiving_of_running (by simpa using running), .setSignals taken⟩
  | close running => exact .inl ⟨receiving_of_running (by simpa using running), .refl _⟩
  | completion running _ taken =>
    exact .inl ⟨receiving_of_running (by simpa using running),
      .refl _, .refl _, (Channel.Drawn.refl _).take taken⟩
  | lose => exact .inl ⟨receiving_of_leaving rfl, .refl _⟩
  | begin | pass | again => exact .inl ⟨receiving_of_draining rfl, .refl _⟩
  | @drain before side _ _ _ taken =>
    refine .inl ⟨?_, .setSignals taken⟩
    cases side
    · exact receiving_of_draining rfl
    · exact receiving_of_draining rfl
  | finish => exact .inl ⟨receiving_of_leaving rfl, .refl _⟩
  | depart => exact .inr ⟨⟨_, rfl⟩, rfl⟩
  | overflow _ _ left => exact absurd (outcome?_of_leaving left) fine

theorem drawn_of_serve {s t : State} {b : Branch} (h : s.serve b = some t) :
    s.inlets.Drawn t.inlets := by
  cases b with
  | signals side =>
    simp only [serve] at h
    split at h
    · split at h
      next ch hr =>
        cases h
        rw [inlets_apply]
        exact .setSignals (Channel.take?_of_receive hr)
      next =>
        cases h
        exact .refl _
      next => cases h
    · cases h
  | completions =>
    simp only [serve] at h
    split at h
    next ch hr =>
      cases h
      rw [inlets_complete]
      exact ⟨.refl _, .refl _, (Channel.Drawn.refl _).take (Channel.take?_of_receive hr)⟩
    next =>
      cases h
      exact .refl _
    next => cases h

theorem drawn_of_drainStep (s : State) (before : Nat) (side : Side) (progressed : Bool) :
    s.inlets.Drawn (s.drainStep before side progressed).inlets := by
  unfold drainStep
  cases taken : (s.inlets.signals side).take? with
  | some ch =>
    have drawn := Inlets.Drawn.setSignals taken
    cases side
    · dsimp only
      split <;> rw [inlets_apply] <;> exact drawn
    · dsimp only
      split <;> rw [inlets_apply] <;> exact drawn
  | none =>
    cases side with
    | first =>
      dsimp only
      split <;> exact .refl _
    | second =>
      cases progressed with
      | true =>
        dsimp only
        split <;> exact .refl _
      | false =>
        dsimp only
        rw [inlets_finishDrain]
        exact .refl _

/-- A coordinator ends only after its outcome stands. -/
theorem Change.leaving_of_ended {s t : State} {o : Outcome} (change : Change s t)
    (ended : t.coordinator.stage = .ended o) : s.coordinator.stage = .leaving o := by
  cases change with
  | signal running | completion running =>
    simp only [stage_credit, stage_countDown, running] at ended
    cases ended
  | close running =>
    rw [stage_close, running] at ended
    cases ended
  | @drain before side => cases side <;> cases ended
  | depart leaving =>
    cases ended
    exact leaving
  | overflow _ _ left =>
    rw [left] at ended
    cases ended
  | _ => cases ended

/-- Items are taken until the coordinator departs, also by a step out of range. -/
theorem drawn_or_hangUp_of_step {s t : State} {b : Branch} (h : s.step b = some t) :
    s.inlets.Drawn t.inlets ∧ t.coordinator.Receiving ∨
      (∃ o, t.coordinator.stage = .ended o) ∧ t.inlets = s.inlets.hangUp := by
  have change := Change.of_step h
  by_cases leaving : ∃ o, s.coordinator.stage = .leaving o
  · obtain ⟨o, leaving⟩ := leaving
    simp only [step, leaving] at h
    cases h
    exact .inr ⟨⟨o, rfl⟩, rfl⟩
  · refine .inl ⟨?_, fun o ended => leaving ⟨o, change.leaving_of_ended ended⟩⟩
    unfold step at h
    split at h
    · split at h
      · cases h
        unfold startDrain
        split <;> exact .refl _
      · exact drawn_of_serve h
    · cases h
      exact drawn_of_drainStep _ _ _ _
    next o hs => exact absurd ⟨o, hs⟩ leaving
    · cases h

/-- A side that is closed was closed before, or nobody can send on it. -/
theorem Change.closed {s t : State} {side : Side} (change : Change s t)
    (running : t.coordinator.stage = .running) (closed : t.coordinator.isOpen side = false) :
    s.coordinator.stage = .running ∧
      (s.coordinator.isOpen side = false ∨ (s.inlets.signals side).senders = 0) := by
  cases change with
  | signal going | completion going => exact ⟨going, .inl (by cases side <;> exact closed)⟩
  | @close side' going _ _ _ gone =>
    refine ⟨going, ?_⟩
    by_cases same : side = side'
    · exact .inr (same ▸ gone)
    · refine .inl ?_
      cases side <;> cases side' <;> first | exact closed | exact absurd rfl same
  | @drain before side' => cases side' <;> cases running
  | overflow _ _ left =>
    rw [left] at running
    cases running
  | _ => cases running

/-- A sum that has left its range does not come back. -/
theorem Change.fine {s t : State} (change : Change s t)
    (fine : t.coordinator.outcome? ≠ some .overflowed) :
    s.coordinator.outcome? ≠ some .overflowed := by
  cases change with
  | signal running | close running | completion running | lose running | begin running =>
    simp [outcome?, running]
  | drain draining | pass draining | again draining | finish draining => simp [outcome?, draining]
  | depart leaving =>
    rw [outcome?_of_leaving leaving]
    exact fine
  | overflow _ _ left => exact absurd (outcome?_of_leaving left) fine

/-! ## Waiting -/

/-- Whichever branch is chosen, there is nothing to do. -/
def Waits (s : State) : Prop := ∀ b, s.step b = none

/-- The coordinator is not in the middle of draining or leaving. -/
def Paused (s : State) : Prop :=
  s.coordinator.stage = .running ∨ ∃ o, s.coordinator.stage = .ended o

theorem Waits.paused {s : State} (waits : s.Waits) : s.Paused := by
  have h := waits .completions
  cases hs : s.coordinator.stage with
  | running => exact .inl hs
  | ended o => exact .inr ⟨o, hs⟩
  | draining => simp [step, hs] at h
  | leaving => simp [step, hs] at h

theorem Waits.serve_eq_none {s : State} (waits : s.Waits)
    (running : s.coordinator.stage = .running) :
    s.coordinator.remaining ≠ 0 ∧ ∀ b, s.serve b = none := by
  have missing : s.coordinator.remaining ≠ 0 := by
    intro complete
    have h := waits .completions
    simp [step, running, complete] at h
  refine ⟨missing, fun b => ?_⟩
  have h := waits b
  rw [step, running] at h
  simpa [missing] using h

theorem receive_of_serve_signals {s : State} {side : Side} (isOpen : s.coordinator.isOpen side = true)
    (h : s.serve (.signals side) = none) : (s.inlets.signals side).receive.1 = .empty := by
  simp only [serve, isOpen, if_true] at h
  split at h
  · simp at h
  · simp at h
  next hr => rw [hr]

theorem receive_of_serve_completions {s : State} (h : s.serve .completions = none) :
    s.inlets.completions.receive.1 = .empty := by
  simp only [serve] at h
  split at h
  · simp at h
  · simp at h
  next hr => rw [hr]

end State

end Coordinator

end SharedCounter
