import Mathlib.Data.List.Basic
import SharedCounter.Team

/-!
# The first producer to crash, and the first to fail

* `Team.First s joined p e` : of the producers that have joined, `e` is the first whose verdict is
  one of `p`;
* `Team.crash?_eq_some_iff`, `Team.failure?_eq_some_iff` : what a team goes by is the verdict of the
  first that has crashed, or failed;
* `Team.crash?_eq_none_iff`, `Team.failure?_eq_none_iff` : there is nothing to go by if nobody has.
-/

namespace SharedCounter

/-- The verdict of a producer that has crashed. -/
def Verdict.Crashed (v : Verdict) : Prop := ∃ m, v = .crashed m

/-- The verdict of a producer that has failed. -/
def Verdict.Failed (v : Verdict) : Prop := ∃ d, v = .failed d

namespace Team

variable {s : Team} {wording : CrashWording} {joined : List Effect} {x : RunError}

/-- Of the producers that have joined, `e` is the first whose verdict is one of `p`. -/
def First (s : Team) (joined : List Effect) (p : Verdict → Prop) (e : Effect) : Prop :=
  ∃ before after, joined = before ++ e :: after ∧
    (∃ v, (s.producer e).verdict = some v ∧ p v) ∧
    ∀ f ∈ before, ∀ v, (s.producer f).verdict = some v → ¬ p v

/-- What is picked is picked from the first producer from which anything is. -/
theorem findSome?_joined {p : Verdict → Prop} {pick : Effect → Option RunError}
    (picks : ∀ e, (pick e).isSome = true ↔ ∃ v, (s.producer e).verdict = some v ∧ p v) :
    joined.findSome? pick = some x ↔ ∃ e, s.First joined p e ∧ pick e = some x := by
  rw [List.findSome?_eq_some_iff]
  constructor
  · rintro ⟨before, e, after, order, picked, nothing⟩
    refine ⟨e, ⟨before, after, order, (picks e).mp (by rw [picked]; rfl), fun f hf v hv hp => ?_⟩,
      picked⟩
    have some_of := (picks f).mpr ⟨v, hv, hp⟩
    rw [nothing f hf] at some_of
    cases some_of
  · rintro ⟨e, ⟨before, after, order, -, nothing⟩, picked⟩
    refine ⟨before, e, after, order, picked, fun f hf => Option.not_isSome_iff_eq_none.mp ?_⟩
    intro some_of
    obtain ⟨v, hv, hp⟩ := (picks f).mp some_of
    exact nothing f hf v hv hp

theorem crash?_eq_some_iff : s.crash? wording joined = some x ↔
    ∃ e m, s.First joined Verdict.Crashed e ∧ (s.producer e).verdict = some (.crashed m) ∧
      x = .producerPanicked (wording e m) := by
  refine (findSome?_joined (s := s) (p := Verdict.Crashed) fun e => ?_).trans ⟨?_, ?_⟩
  · cases (s.producer e).verdict with
    | none => simp
    | some v => cases v <;> simp [Verdict.Crashed]
  · rintro ⟨e, first, picked⟩
    split at picked
    next m verdict =>
      cases picked
      exact ⟨e, m, first, verdict, rfl⟩
    next => cases picked
  · rintro ⟨e, m, first, verdict, rfl⟩
    exact ⟨e, first, by rw [verdict]⟩

theorem failure?_eq_some_iff : s.failure? joined = some x ↔
    ∃ e d, s.First joined Verdict.Failed e ∧ (s.producer e).verdict = some (.failed d) ∧
      x = .producerFailed d := by
  refine (findSome?_joined (s := s) (p := Verdict.Failed) fun e => ?_).trans ⟨?_, ?_⟩
  · cases (s.producer e).verdict with
    | none => simp
    | some v => cases v <;> simp [Verdict.Failed]
  · rintro ⟨e, first, picked⟩
    split at picked
    next d verdict =>
      cases picked
      exact ⟨e, d, first, verdict, rfl⟩
    next => cases picked
  · rintro ⟨e, d, first, verdict, rfl⟩
    exact ⟨e, first, by rw [verdict]⟩

theorem crash?_eq_none_iff : s.crash? wording joined = none ↔
    ∀ e ∈ joined, ∀ m, (s.producer e).verdict ≠ some (.crashed m) := by
  rw [crash?, List.findSome?_eq_none_iff]
  refine forall₂_congr fun e _ => ?_
  cases (s.producer e).verdict with
  | none => simp
  | some v => cases v <;> simp

theorem failure?_eq_none_iff : s.failure? joined = none ↔
    ∀ e ∈ joined, ∀ d, (s.producer e).verdict ≠ some (.failed d) := by
  rw [failure?, List.findSome?_eq_none_iff]
  refine forall₂_congr fun e _ => ?_
  cases (s.producer e).verdict with
  | none => simp
  | some v => cases v <;> simp

end Team

end SharedCounter
