import Mathlib.Logic.Function.Basic
import SharedCounter.Proofs.Coordinator.Books
import SharedCounter.Proofs.Producer.Items
import SharedCounter.Team

/-!
# What a producer changes in its team

* `putProducer` : a producer that moves on touches its own two channels and nothing else;
* `Team.intake` : what a team has sent;
* `Advances e s s' k m` : the producer of `e` has sent `k` signals and `m` completions between `s`
  and `s'`. The books go on balancing with what is sent (`Advances.books`), and no signal is left
  behind if it is sent to a running coordinator (`Advances.emptied`).
-/

namespace SharedCounter.Team

open Coordinator (Intake)
open Coordinator.State (Books Emptied)
open Producer (State)

/-- The channel on which a producer sends an item. -/
def branch (e : Effect) : Item → Branch
  | .signal => .signals (side e)
  | .completion => .completions

variable {initial : Int} {sent completed : Effect → Nat} {s s' : Team} {e f : Effect}
  {i : Item} {b : Branch} {u : State} {k m : Nat}

/-! ## Frames -/

theorem producerState_putProducer (s : Team) (e : Effect) (u : State) :
    (s.putProducer e u).producerState e = ⟨u.producer, u.outlets, []⟩ := by
  cases e <;> rfl

theorem putProducer_producerState (s : Team) (e : Effect) :
    s.putProducer e (s.producerState e) = s := by
  cases e <;> rfl

theorem putProducer_putProducer (s : Team) (e : Effect) (t u : State) :
    (s.putProducer e t).putProducer e u = s.putProducer e u := by
  cases e <;> rfl

@[simp]
theorem channel_producerState (s : Team) (e : Effect) (i : Item) :
    i.channel (s.producerState e).outlets = s.inlets.channel (branch e i) := by
  cases i <;> rfl

@[simp]
theorem coordinator_putProducer (s : Team) (e : Effect) (u : State) :
    (s.putProducer e u).coordinator = s.coordinator := by
  cases e <;> rfl

@[simp]
theorem producer_putProducer_self (s : Team) (e : Effect) (u : State) :
    (s.putProducer e u).producer e = u.producer := by
  cases e <;> rfl

theorem producer_putProducer_of_ne (s : Team) (u : State) (h : f ≠ e) :
    (s.putProducer e u).producer f = s.producer f := by
  cases e <;> cases f <;> first | rfl | exact absurd rfl h

@[simp]
theorem channel_putProducer (s : Team) (e : Effect) (u : State) (i : Item) :
    (s.putProducer e u).inlets.channel (branch e i) = i.channel u.outlets := by
  cases e <;> cases i <;> rfl

theorem channel_putProducer_of_ne (s : Team) (u : State) (h : ∀ i, b ≠ branch e i) :
    (s.putProducer e u).inlets.channel b = s.inlets.channel b := by
  rcases b with (_ | _) | _
  · cases e
    · exact absurd rfl (h .signal)
    · rfl
  · cases e
    · rfl
    · exact absurd rfl (h .signal)
  · exact absurd rfl (h .completion)

theorem signals_putProducer_of_ne (s : Team) (u : State) (h : f ≠ e) :
    (s.putProducer e u).inlets.signals (side f) = s.inlets.signals (side f) := by
  cases e <;> cases f <;> first | rfl | exact absurd rfl h

theorem signals_putProducer_self (s : Team) (e : Effect) (u : State) :
    (s.putProducer e u).inlets.signals (side e) = u.outlets.signals := by
  cases e <;> rfl

theorem exists_side (side' : Side) : ∃ e, side' = side e := by
  cases side'
  · exact ⟨.increment, rfl⟩
  · exact ⟨.decrement, rfl⟩

theorem side_injective (h : side e = side f) : e = f := by
  cases e <;> cases f <;> first | rfl | cases h

/-! ## What is sent -/

/-- What a team has sent. -/
def intake (initial : Int) (sent completed : Effect → Nat) : Intake where
  initial := initial
  producers := Effect.all.length
  signals := sent
  completions := completed .increment + completed .decrement

theorem signalsOf_eq (effect : ∀ e, s.coordinator.effect (side e) = e) (i : Inlets) (e : Effect) :
    s.coordinator.signalsOf i e = (i.signals (side e)).buffered := by
  have first : s.coordinator.firstEffect = .increment := effect .increment
  have second : s.coordinator.secondEffect = .decrement := effect .decrement
  cases e <;> simp [Coordinator.signalsOf, first, second, side, Inlets.signals]

theorem sum_update (f : Effect → Nat) (e : Effect) (m : Nat) :
    Function.update f e (f e + m) .increment + Function.update f e (f e + m) .decrement
      = f .increment + f .decrement + m := by
  cases e <;> simp [Function.update] <;> omega

/-- One producer has moved, and the other parties have not. -/
structure Advances (e : Effect) (s s' : Team) (k m : Nat) : Prop where
  coordinator : s'.coordinator = s.coordinator
  moves : Producer.Moves (s.producerState e) (s'.producerState e) k m
  producers : ∀ f, f ≠ e → s'.producer f = s.producer f
  channels : ∀ f, f ≠ e → s'.inlets.signals (side f) = s.inlets.signals (side f)

theorem Advances.signals_eq (h : Advances e s s' k m) (f : Effect) :
    (s'.inlets.signals (side f)).buffered + sent f
      = (s.inlets.signals (side f)).buffered + Function.update sent e (sent e + k) f := by
  by_cases hf : f = e
  · subst hf
    have := h.moves.signals
    simp only [producerState] at this
    rw [Function.update_self]
    omega
  · rw [Function.update_of_ne hf, h.channels f hf]

/-- Whatever is sent is booked or buffered, if there is an end for each completion. -/
theorem Advances.books (h : Advances e s s' k m)
    (books : Books (intake initial sent completed) s.coordinatorState)
    (effect : ∀ e, s.coordinator.effect (side e) = e)
    (ends : s.inlets.completions.senders
      = s.incrementer.holdsCompletion.toNat + s.decrementer.holdsCompletion.toNat)
    (let_go : (s.producer e).holdsCompletion = false → m = 0) :
    Books (intake initial (Function.update sent e (sent e + k))
      (Function.update completed e (completed e + m))) s'.coordinatorState := by
  rw [coordinatorState, h.coordinator]
  have completions : s'.inlets.completions.buffered = s.inlets.completions.buffered + m :=
    h.moves.completions
  refine books.deposit rfl rfl (fun _ f => ?_) (fun _ => ?_) ?_ (fun gone => ?_)
  · rw [coordinatorState, signalsOf_eq effect, signalsOf_eq effect]
    exact h.signals_eq f
  · simp only [intake, sum_update, coordinatorState, completions]
    omega
  · simp only [intake, sum_update]
    omega
  · rw [show s.inlets.completions.senders = 0 from gone] at ends
    have nothing := let_go <| by
      refine Bool.toNat_eq_zero.mp ?_
      cases e <;> simp only [producer] <;> omega
    refine ⟨?_, by simp [intake, nothing]⟩
    have senders := h.moves.ends
    simp only [producerState] at senders
    rw [senders, show s.inlets.completions.senders = 0 from gone, Nat.zero_sub]

/-- A signal is not left behind if it is sent while the coordinator is running. -/
theorem Advances.emptied (h : Advances e s s' k m)
    (emptied : Emptied (intake initial sent completed) s.coordinatorState)
    (quiet : s.coordinator.stage = .running ∨ k = 0) :
    Emptied (intake initial (Function.update sent e (sent e + k))
      (Function.update completed e (completed e + m))) s'.coordinatorState := by
  rw [coordinatorState, h.coordinator]
  refine emptied.deposit ?_
  rcases quiet with running | rfl
  · exact .inl running
  · refine .inr ⟨by simp [intake], ?_⟩
    have still : (s'.inlets.signals (side .increment)).buffered + sent .increment
        = (s.inlets.signals (side .increment)).buffered
          + Function.update sent e (sent e + 0) .increment := h.signals_eq .increment
    simp only [Nat.add_zero, Function.update_eq_self] at still
    exact Nat.add_right_cancel still

theorem Advances.ends (h : Advances e s s' k m)
    (ends : s.inlets.completions.senders
      = s.incrementer.holdsCompletion.toNat + s.decrementer.holdsCompletion.toNat) :
    s'.inlets.completions.senders
      = s'.incrementer.holdsCompletion.toNat + s'.decrementer.holdsCompletion.toNat := by
  have senders := h.moves.ends
  have holds := h.moves.holds
  simp only [producerState] at senders holds
  have le : (s'.producer e).holdsCompletion.toNat ≤ (s.producer e).holdsCompletion.toNat := by
    cases hs : (s'.producer e).holdsCompletion
    · simp
    · simp [holds hs]
  cases e with
  | increment =>
    have same : s'.decrementer = s.decrementer := h.producers .decrement (by simp)
    simp only [producer] at senders le
    rw [same]
    omega
  | decrement =>
    have same : s'.incrementer = s.incrementer := h.producers .increment (by simp)
    simp only [producer] at senders le
    rw [same]
    omega

theorem Advances.putProducer {t u : State} (moves : Producer.Moves t u k m) :
    Advances e (s.putProducer e t) (s.putProducer e u) k m := by
  cases e <;> refine ⟨rfl, ⟨moves.signals, moves.completions, moves.signalsListening,
    moves.completionsListening, moves.ends, moves.holds⟩, fun f hf => ?_, fun f hf => ?_⟩ <;>
    cases f <;> first | rfl | exact absurd rfl hf

end SharedCounter.Team
