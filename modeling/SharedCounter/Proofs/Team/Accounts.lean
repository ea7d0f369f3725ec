import SharedCounter.Proofs.Producer.Log
import SharedCounter.Proofs.Team.Change

/-!
# The accounts of a team

* `Accounts initial sent s` : the books of the coordinator balance with the items that the producers
  have sent, and no signal is left behind as long as none is sent after a completion. Steps of the
  producers keep it, whatever these do (`Accounts.stepProducer`), and so do those of the coordinator,
  unless a sum leaves its range (`Accounts.stepCoordinator`);
* `Accounts.counted` : a count has every signal that was sent and one completion of each producer.
-/

namespace SharedCounter.Team

open Coordinator (Intake)
open Coordinator.State (Books Emptied Change)
open Item (InOrder)
open Producer (State)

/-- What a team has sent, when each producer has sent these items. -/
def intakeOf (initial : Int) (sent : Effect → List Item) : Intake :=
  intake initial (fun e => (sent e).count .signal) (fun e => (sent e).count .completion)

/-- The books balance with what was sent. -/
structure Accounts (initial : Int) (sent : Effect → List Item) (s : Team) : Prop where
  effect : ∀ e, s.coordinator.effect (side e) = e
  ends : s.inlets.completions.senders
    = s.incrementer.holdsCompletion.toNat + s.decrementer.holdsCompletion.toNat
  books : Books (intakeOf initial sent) s.coordinatorState
  emptied : (∀ e, InOrder (sent e)) → Emptied (intakeOf initial sent) s.coordinatorState

variable {initial : Int} {sent : Effect → List Item} {more : List Item} {s s' : Team} {e : Effect}

theorem Accounts.start (c : Config) (acts : Effect → List Act) :
    Accounts c.initial (fun _ => []) (Team.start c acts) where
  effect e := by cases e <;> rfl
  ends := rfl
  books := Books.create (a := intakeOf c.initial fun _ => []) (fun g => by cases g <;> rfl) rfl
  emptied _ := .of_running rfl

/-! ## Steps of the producers -/

theorem count_update (sent : Effect → List Item) (e : Effect) (more : List Item) (i : Item) :
    (fun f => (Function.update sent e (sent e ++ more) f).count i)
      = Function.update (fun f => (sent f).count i) e ((sent e).count i + more.count i) := by
  funext f
  by_cases same : f = e
  · subst same
    rw [Function.update_self, Function.update_self, List.count_append]
  · rw [Function.update_of_ne same, Function.update_of_ne same]

theorem inOrder_of_update (order : ∀ f, InOrder (Function.update sent e (sent e ++ more) f))
    (f : Effect) : InOrder (sent f) := by
  have after := order f
  by_cases same : f = e
  · subst same
    rw [Function.update_self] at after
    exact after.of_append
  · rwa [Function.update_of_ne same] at after

/-- While a signal is sent in order, a completion is missing. -/
theorem Accounts.missing (h : Accounts initial sent s)
    (fine : s.coordinator.outcome? ≠ some .overflowed)
    (order : ∀ f, InOrder (Function.update sent e (sent e ++ more) f))
    (signal : .signal ∈ more) : s.coordinator.remaining ≠ 0 := by
  have own : (sent e).count .completion = 0 := by
    have after := order e
    rw [Function.update_self] at after
    exact List.count_eq_zero.mpr (after.not_mem signal)
  have up := (inOrder_of_update order .increment).count_le
  have down := (inOrder_of_update order .decrement).count_le
  have booked : s.coordinator.ledger.completions
      ≤ (sent .increment).count .completion + (sent .decrement).count .completion :=
    h.books.completions_le fine
  have countdown : s.coordinator.remaining + s.coordinator.ledger.completions = 2 :=
    h.books.countdown
  cases e <;> omega

theorem Accounts.advance (h : Accounts initial sent s)
    (fine : s.coordinator.outcome? ≠ some .overflowed)
    (moved : Advances e s s' (more.count .signal) (more.count .completion))
    (let_go : (s.producer e).holdsCompletion = false → more.count .completion = 0) :
    Accounts initial (Function.update sent e (sent e ++ more)) s' := by
  have books : Books (intakeOf initial (Function.update sent e (sent e ++ more)))
      s'.coordinatorState := by
    unfold intakeOf
    rw [count_update, count_update]
    exact moved.books h.books h.effect h.ends let_go
  refine ⟨fun f => ?_, moved.ends h.ends, books, fun order => ?_⟩
  · rw [moved.coordinator]
    exact h.effect f
  · by_cases signal : .signal ∈ more
    · have missing := h.missing fine order signal
      rw [← moved.coordinator] at missing
      exact .of_missing books missing
    · unfold intakeOf
      rw [count_update, count_update]
      exact moved.emptied (h.emptied (inOrder_of_update order))
        (.inr (List.count_eq_zero.mpr signal))

theorem Accounts.stepProducer {u : State} (h : Accounts initial sent s)
    (fine : s.coordinator.outcome? ≠ some .overflowed)
    (change : State.Change (s.producerState e) u) :
    Accounts initial
      (Function.update sent e (sent e ++ (s.producerState e).delivers?.toList))
      (s.putProducer e u) := by
  have moved := Advances.putProducer (s := s) (e := e) change.moves
  rw [putProducer_producerState] at moved
  refine h.advance fine moved fun gone => ?_
  exact State.count_completion_of_gone (s := s.producerState e) gone

theorem Accounts.takePlace (h : Accounts initial sent s)
    (fine : s.coordinator.outcome? ≠ some .overflowed) :
    Accounts initial sent (s.putProducer e (s.producerState e).takePlace) := by
  have moved := Advances.putProducer (s := s) (e := e) (.takePlace (s.producerState e))
  rw [putProducer_producerState] at moved
  have kept : Accounts initial (Function.update sent e (sent e ++ [])) _ :=
    h.advance fine moved fun _ => rfl
  rwa [List.append_nil, Function.update_eq_self] at kept

/-! ## Steps of the coordinator -/

theorem Accounts.stepCoordinator {t : Coordinator.State} (h : Accounts initial sent s)
    (change : Change s.coordinatorState t) (fine : t.coordinator.outcome? ≠ some .overflowed) :
    Accounts initial sent (s.putCoordinator t) := by
  have senders : t.inlets.completions.senders = s.inlets.completions.senders := by
    rcases change.inlets fine with ⟨-, drawn⟩ | ⟨-, hung⟩
    · exact drawn.completions.senders_eq
    · rw [hung]
      rfl
  refine ⟨fun e => (change.effect_eq fine (side e)).trans (h.effect e), senders.trans h.ends,
    (h.books.step change fine).withEvents [], fun order => ?_⟩
  exact ((h.emptied order).step h.books change).withEvents []

/-! ## Counts -/

theorem Accounts.counted {l : Ledger} (h : Accounts initial sent s)
    (order : ∀ e, InOrder (sent e)) (counted : s.coordinator.outcome? = some (.counted l)) :
    (∀ e, (sent e).count .completion = 1) ∧ l.completions = Effect.all.length ∧
      (∀ e, l.of e = (sent e).count .signal) ∧
      l.value = initial + l.increments - l.decrements := by
  obtain ⟨ledger, value, -, consumed, -⟩ := h.books.counted l counted
  have all : l.completions = Effect.all.length := h.books.completions_eq counted
  refine ⟨fun e => ?_, all, (h.emptied order).counted l counted, ?_⟩
  · have up := (order .increment).count_le
    have down := (order .decrement).count_le
    rw [all] at consumed
    simp only [intakeOf, intake, Effect.all, List.length_cons, List.length_nil] at consumed
    cases e <;> omega
  · rw [value, ledger]
    exact h.books.counter

end SharedCounter.Team
