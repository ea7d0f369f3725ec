import Mathlib.Tactic.Common
import SharedCounter.Producer
import SharedCounter.Proofs.Channel.Items

/-!
# What one step of a producer changes

* `Idle p act` : the act comes to nothing, because there is nothing to send or no end to send with;
* `Change s t` : the ways in which a producer can get from `s` to `t` in one step, with all that
  holds when it does. Every step is one of them (`Change.of_step`);
* `step_events` : earlier events do not count.
-/

namespace SharedCounter.Producer

/-- An act that comes to nothing. -/
inductive Idle (p : Producer) : Act → Prop where
  | nothing : Idle p (.send 0)
  | signals (n : Nat) (gone : p.holdsSignals = false) : Idle p (.send n)
  | completion (gone : p.holdsCompletion = false) : Idle p .complete
  | dropSignals (gone : p.holdsSignals = false) : Idle p .dropSignals
  | dropCompletion (gone : p.holdsCompletion = false) : Idle p .dropCompletion

namespace State

/-- What one step changes. -/
inductive Change (s : State) : State → Prop where
  | announce {kind : EventKind} {count : Option Nat} {rest : List Act}
      (going : s.producer.verdict = none) (acts : s.producer.acts = .announce kind count :: rest) :
      Change s { s with producer := s.producer.next rest
                        events := s.events ++ [{ kind, producer := some s.producer.name, count }] }
  | skip {act : Act} {rest : List Act} (going : s.producer.verdict = none)
      (acts : s.producer.acts = act :: rest) (idle : s.producer.Idle act) :
      Change s { s with producer := s.producer.next rest }
  | signal {n : Nat} {rest : List Act} {c : Channel} (going : s.producer.verdict = none)
      (acts : s.producer.acts = .send (n + 1) :: rest) (holds : s.producer.holdsSignals = true)
      (poll : s.outlets.signals.pollSend s.producer.place = (.sent, c)) :
      Change s { s with producer := s.producer.next (.send n :: rest)
                        outlets := { s.outlets with signals := c } }
  | signalWaits {n : Nat} {rest : List Act} {t : Ticket} {c : Channel}
      (going : s.producer.verdict = none) (acts : s.producer.acts = .send (n + 1) :: rest)
      (holds : s.producer.holdsSignals = true)
      (poll : s.outlets.signals.pollSend s.producer.place = (.waiting t, c))
      (fresh : s.producer.place ≠ some t) :
      Change s { s with producer := { s.producer with place := some t }
                        outlets := { s.outlets with signals := c } }
  | signalRefused {n : Nat} {rest : List Act} {c : Channel} (going : s.producer.verdict = none)
      (acts : s.producer.acts = .send (n + 1) :: rest) (holds : s.producer.holdsSignals = true)
      (poll : s.outlets.signals.pollSend s.producer.place = (.refused, c)) :
      Change s { s with producer := s.producer.finish (.failed ⟨s.producer.name, "signal"⟩)
                        outlets := { s.outlets with signals := c } }
  | completion {rest : List Act} {c : Channel} (going : s.producer.verdict = none)
      (acts : s.producer.acts = .complete :: rest) (holds : s.producer.holdsCompletion = true)
      (poll : s.outlets.completions.pollSend s.producer.place = (.sent, c)) :
      Change s { s with producer := s.producer.next rest
                        outlets := { s.outlets with completions := c } }
  | completionWaits {rest : List Act} {t : Ticket} {c : Channel}
      (going : s.producer.verdict = none) (acts : s.producer.acts = .complete :: rest)
      (holds : s.producer.holdsCompletion = true)
      (poll : s.outlets.completions.pollSend s.producer.place = (.waiting t, c))
      (fresh : s.producer.place ≠ some t) :
      Change s { s with producer := { s.producer with place := some t }
                        outlets := { s.outlets with completions := c } }
  | completionRefused {rest : List Act} {c : Channel} (going : s.producer.verdict = none)
      (acts : s.producer.acts = .complete :: rest) (holds : s.producer.holdsCompletion = true)
      (poll : s.outlets.completions.pollSend s.producer.place = (.refused, c)) :
      Change s { s with producer := s.producer.finish (.failed ⟨s.producer.name, "completion"⟩)
                        outlets := { s.outlets with completions := c } }
  | dropSignals {rest : List Act} (going : s.producer.verdict = none)
      (acts : s.producer.acts = .dropSignals :: rest) (holds : s.producer.holdsSignals = true) :
      Change s (letGoSignals { s with producer := s.producer.next rest })
  | dropCompletion {rest : List Act} (going : s.producer.verdict = none)
      (acts : s.producer.acts = .dropCompletion :: rest)
      (holds : s.producer.holdsCompletion = true) :
      Change s (letGoCompletion { s with producer := s.producer.next rest })
  | fail {channel : String} {rest : List Act} (going : s.producer.verdict = none)
      (acts : s.producer.acts = .fail channel :: rest) :
      Change s { s with producer := s.producer.finish (.failed ⟨s.producer.name, channel⟩) }
  | crash {message : Option String} {rest : List Act} (going : s.producer.verdict = none)
      (acts : s.producer.acts = .crash message :: rest) :
      Change s { s with producer := s.producer.finish (.crashed message) }
  | produce {n : Nat} {rest : List Act} (going : s.producer.verdict = none)
      (acts : s.producer.acts = .produce n :: rest) :
      Change s { s with
        producer := s.producer.next
          ((if s.producer.holdsSignals && s.producer.holdsCompletion then Act.plan n else [])
            ++ .dropSignals :: .dropCompletion :: rest) }
  | finish (going : s.producer.verdict = none) (acts : s.producer.acts = []) :
      Change s { s with producer := s.producer.finish .finished }
  | letGoSignals {v : Verdict} (judged : s.producer.verdict = some v)
      (holds : s.producer.holdsSignals = true) : Change s s.letGoSignals
  | letGoCompletion {v : Verdict} (judged : s.producer.verdict = some v)
      (gone : s.producer.holdsSignals = false) (holds : s.producer.holdsCompletion = true) :
      Change s s.letGoCompletion

theorem Change.of_perform {s t : State} {act : Act} {rest : List Act}
    (going : s.producer.verdict = none) (acts : s.producer.acts = act :: rest)
    (h : s.perform act rest = some t) : Change s t := by
  cases act with
  | announce kind count => cases h; exact .announce going acts
  | fail channel => cases h; exact .fail going acts
  | crash message => cases h; exact .crash going acts
  | produce n => cases h; exact .produce going acts
  | dropSignals =>
    cases h
    by_cases holds : s.producer.holdsSignals = true
    · rw [if_pos holds]
      exact .dropSignals going acts holds
    · rw [if_neg holds]
      exact .skip going acts (.dropSignals (by simpa using holds))
  | dropCompletion =>
    cases h
    by_cases holds : s.producer.holdsCompletion = true
    · rw [if_pos holds]
      exact .dropCompletion going acts holds
    · rw [if_neg holds]
      exact .skip going acts (.dropCompletion (by simpa using holds))
  | send n =>
    cases n with
    | zero => cases h; exact .skip going acts .nothing
    | succ n =>
      simp only [perform] at h
      split at h
      next holds =>
        cases hp : s.outlets.signals.pollSend s.producer.place with
        | mk poll c =>
          rw [hp] at h
          cases poll with
          | sent => cases h; exact .signal going acts holds hp
          | refused => cases h; exact .signalRefused going acts holds hp
          | waiting t =>
            simp only [sendTo] at h
            split at h
            next => simp at h
            next fresh => cases h; exact .signalWaits going acts holds hp fresh
      next gone =>
        cases h
        exact .skip going acts (.signals _ (by simpa using gone))
  | complete =>
    simp only [perform] at h
    split at h
    next holds =>
      cases hp : s.outlets.completions.pollSend s.producer.place with
      | mk poll c =>
        rw [hp] at h
        cases poll with
        | sent => cases h; exact .completion going acts holds hp
        | refused => cases h; exact .completionRefused going acts holds hp
        | waiting t =>
          simp only [sendTo] at h
          split at h
          next => simp at h
          next fresh => cases h; exact .completionWaits going acts holds hp fresh
    next gone =>
      cases h
      exact .skip going acts (.completion (by simpa using gone))

theorem Change.of_step {s t : State} (h : s.step = some t) : Change s t := by
  unfold step at h
  split at h
  next judged =>
    split at h
    next holds => cases h; exact .letGoSignals judged holds
    next gone =>
      split at h
      next holds => cases h; exact .letGoCompletion judged (by simpa using gone) holds
      next => simp at h
  next going =>
    split at h
    next acts => cases h; exact .finish going acts
    next acts => exact .of_perform going acts h

end State

theorem step_events (p : Producer) (o : Outlets) (es : List Event) :
    State.step ⟨p, o, es⟩
      = (State.step ⟨p, o, []⟩).map fun t => { t with events := es ++ t.events } := by
  have sendTo : ∀ acts channel outlets polled, State.sendTo ⟨p, o, es⟩ acts channel outlets polled
      = (State.sendTo ⟨p, o, []⟩ acts channel outlets polled).map
        fun t => { t with events := es ++ t.events } := by
    rintro acts channel outlets ⟨_ | _ | _, c⟩ <;> unfold State.sendTo <;> dsimp only
    all_goals try split
    all_goals simp
  have perform : ∀ act rest, State.perform ⟨p, o, es⟩ act rest
      = (State.perform ⟨p, o, []⟩ act rest).map fun t => { t with events := es ++ t.events } := by
    intro act rest
    unfold State.perform
    dsimp only
    repeat' split
    all_goals simp [sendTo, State.letGoSignals, State.letGoCompletion]
  unfold State.step
  dsimp only
  repeat' split
  all_goals simp [perform, State.letGoSignals, State.letGoCompletion]

end SharedCounter.Producer
