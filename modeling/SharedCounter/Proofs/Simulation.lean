import SharedCounter.Proofs.Schedule

/-!
# Systems seen through a view

* `Simulation f g view seen` : what the system `f` does looks through `view` like the system `g`. The
  moves that are `seen` are moves of `g`, the others change nothing in the view, and every move of
  `g` can be made in `f`;
* `shown` : what is seen of a schedule (`shown_eq_filterMap`). Schedules of `f` are seen as schedules
  of `g` (`Simulation.follow`), and every schedule of `g` is seen of one of `f`
  (`Simulation.lift_follow`).
-/

namespace SharedCounter

variable {σ α τ β : Type} {f : σ → α → Option σ} {g : τ → β → Option τ} {view : σ → τ}
  {seen : σ → α → Option β}

/-- The systems `f` and `g` simulate each other, when `f` is seen through `view`. -/
structure Simulation (f : σ → α → Option σ) (g : τ → β → Option τ) (view : σ → τ)
    (seen : σ → α → Option β) : Prop where
  hidden : ∀ s a t, f s a = some t → seen s a = none → view t = view s
  visible : ∀ s a t b, f s a = some t → seen s a = some b → g (view s) b = some (view t)
  lift : ∀ s b v, g (view s) b = some v → ∃ a t, seen s a = some b ∧ f s a = some t ∧ view t = v

/-- What is seen of a schedule. -/
def shown (f : σ → α → Option σ) (seen : σ → α → Option β) : σ → List α → List β
  | _, [] => []
  | s, a :: as => (seen s a).toList ++ (f s a).elim [] (shown f seen · as)

theorem follow_append (s : σ) (as bs : List α) :
    follow f s (as ++ bs) = (follow f s as).bind (follow f · bs) := List.foldlM_append

/-- When the same is seen in every state, only the schedule counts. -/
theorem shown_eq_filterMap {label : α → Option β} {s t : σ} {as : List α}
    (run : follow f s as = some t) : shown f (fun _ => label) s as = as.filterMap label := by
  induction as generalizing s with
  | nil => rfl
  | cons a as ih =>
    rw [follow_cons] at run
    obtain ⟨u, move, rest⟩ := Option.bind_eq_some_iff.mp run
    rw [shown, move]
    cases h : label a with
    | none =>
      rw [List.filterMap_cons_none h]
      exact ih rest
    | some b =>
      rw [List.filterMap_cons_some h]
      exact congrArg (b :: ·) (ih rest)

namespace Simulation

variable {s t : σ} {as : List α} {bs : List β} {v : τ}

/-- One move is seen as one move or as none. -/
theorem follow_seen (h : Simulation f g view seen) {a : α} (move : f s a = some t) :
    SharedCounter.follow g (view s) (seen s a).toList = some (view t) := by
  cases hs : seen s a with
  | none =>
    have same := h.hidden s a t move hs
    exact congrArg some same.symm
  | some b =>
    have step := h.visible s a t b move hs
    rw [Option.toList_some, follow_cons, step]
    rfl

/-- A schedule is seen as a schedule. -/
theorem follow (h : Simulation f g view seen) (run : SharedCounter.follow f s as = some t) :
    SharedCounter.follow g (view s) (shown f seen s as) = some (view t) := by
  induction as generalizing s with
  | nil =>
    cases run
    rfl
  | cons a as ih =>
    rw [follow_cons] at run
    obtain ⟨u, move, rest⟩ := Option.bind_eq_some_iff.mp run
    have first := h.follow_seen move
    rw [shown, move, follow_append, first]
    exact ih rest

/-- What is seen as a schedule is one. -/
theorem lift_follow (h : Simulation f g view seen)
    (run : SharedCounter.follow g (view s) bs = some v) :
    ∃ as t, SharedCounter.follow f s as = some t ∧ view t = v ∧ shown f seen s as = bs := by
  induction bs generalizing s with
  | nil =>
    cases run
    exact ⟨[], s, rfl, rfl, rfl⟩
  | cons b bs ih =>
    rw [follow_cons] at run
    obtain ⟨w, step, rest⟩ := Option.bind_eq_some_iff.mp run
    obtain ⟨a, u, hs, move, rfl⟩ := h.lift s b w step
    obtain ⟨as, t, run, hv, all⟩ := ih rest
    refine ⟨a :: as, t, ?_, hv, ?_⟩
    · rw [follow_cons, move]
      exact run
    · rw [shown, hs, move]
      exact congrArg (b :: ·) all

end Simulation

end SharedCounter
