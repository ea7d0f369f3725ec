/-!
# Running a machine until it stops

* `advance f n s` : repeats the partial step `f` from `s`, at most `n` times, until it is undefined;
* `turnLength` : the items that one party may move before the others have their turn;
* `advance_of_none`, `advance_add` : a machine that has stopped stays as it is;
* `advance_invariant` : what every step keeps, the run keeps, and so for two machines that go on alike
  (`advance_related`);
* `advance_stops` : with a measure that every step lowers, and as many repetitions, it has stopped.
-/

namespace SharedCounter

/-- The items that one party may move in one turn. -/
def turnLength : Nat := 128

/-- Repeats a partial step until it is undefined, at most `n` times. -/
@[specialize]
def advance {σ : Type} (f : σ → Option σ) : Nat → σ → σ
  | 0, s => s
  | n + 1, s =>
    match f s with
    | some t => advance f n t
    | none => s

variable {σ : Type} {f : σ → Option σ}

theorem advance_of_none {s : σ} (h : f s = none) (n : Nat) : advance f n s = s := by
  cases n <;> simp [advance, h]

theorem advance_add (m n : Nat) (s : σ) : advance f (m + n) s = advance f n (advance f m s) := by
  induction m generalizing s with
  | zero => simp [advance]
  | succ m ih =>
    rw [Nat.succ_add]
    cases h : f s with
    | none => simp [advance, h, advance_of_none h]
    | some t => simp [advance, h, ih]

theorem advance_invariant {P : σ → Prop} (keep : ∀ s t, f s = some t → P s → P t) (n : Nat) {s : σ}
    (h : P s) : P (advance f n s) := by
  induction n generalizing s with
  | zero => exact h
  | succ n ih =>
    cases hs : f s with
    | none => simpa [advance, hs] using h
    | some t => simpa [advance, hs] using ih (keep s t hs h)

/-- Two machines that go on alike run alike. -/
theorem advance_related {τ : Type} {g : τ → Option τ} {R : σ → τ → Prop}
    (step : ∀ s t, R s t → Option.Rel R (f s) (g t)) (n : Nat) {s : σ} {t : τ} (h : R s t) :
    R (advance f n s) (advance g n t) := by
  induction n generalizing s t with
  | zero => exact h
  | succ n ih =>
    have alike := step s t h
    unfold advance
    cases hs : f s with
    | none =>
      cases ht : g t with
      | none => exact h
      | some v =>
        rw [hs, ht] at alike
        cases alike
    | some u =>
      cases ht : g t with
      | none =>
        rw [hs, ht] at alike
        cases alike
      | some v =>
        rw [hs, ht] at alike
        cases alike with
        | some related => exact ih related

theorem advance_stops {μ : σ → Nat} (lower : ∀ s t, f s = some t → μ t < μ s) {n : Nat} {s : σ}
    (h : μ s ≤ n) : f (advance f n s) = none := by
  induction n generalizing s with
  | zero =>
    cases hs : f s with
    | none => exact hs
    | some t => have := lower s t hs; omega
  | succ n ih =>
    cases hs : f s with
    | none => simp [advance, hs]
    | some t =>
      have := lower s t hs
      simpa [advance, hs] using ih (by omega)

end SharedCounter
