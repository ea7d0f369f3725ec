/-!
# Rotas: who takes the next turn

A rota holds the desks whose workers can go on.

* `Rota` : the desks that have been woken, those that come back after a turn that was cut short, and
  those that were cut short in this round;
* `Rota.wake` : a desk joins the end of those that have been woken, unless it stands on the rota;
* `Rota.choose` : the desk that has its turn. Those that come back go first, except that every
  `freshPeriod`-th choice is for the others. A choice counts even if nobody can go on
  (`fst_choose_eq_none`);
* `Rota.endRound` : the desks that were cut short come back, the last one first;
* `Rota.size_choose`, `Rota.size_endRound` : who is chosen leaves the rota, and nobody else does.
-/

namespace SharedCounter

/-- The most turns in one round. -/
def roundLength : Nat := 61

/-- Every choice of this number prefers the desks that have been woken. -/
def freshPeriod : Nat := 31

/-- Desks whose workers can go on. -/
structure Rota where
  /-- Desks that have not had a turn since they were woken, in the order in which they were. -/
  fresh : List Nat := []
  /-- Desks that come back. -/
  resumed : List Nat := []
  /-- Desks whose turns were cut short in this round, the first one first. -/
  cut : List Nat := []
  /-- Choices made so far, in all rounds. -/
  choices : Nat := 0
  deriving DecidableEq, Repr

namespace Rota

/-- The number of desks on a rota. -/
def size (r : Rota) : Nat := r.fresh.length + r.resumed.length + r.cut.length

/-- The worker at a desk can go on. -/
def wake (r : Rota) (i : Nat) : Rota :=
  if i ∈ r.fresh ∨ i ∈ r.resumed ∨ i ∈ r.cut then r else { r with fresh := r.fresh ++ [i] }

/-- The turn of a desk was cut short. -/
def defer (r : Rota) (i : Nat) : Rota := { r with cut := r.cut ++ [i] }

/-- The desk that has its turn at this choice, if there is one. -/
def choose (r : Rota) : Option Nat × Rota :=
  let r := { r with choices := r.choices + 1 }
  match r.fresh, r.resumed with
  | [], [] => (none, r)
  | i :: is, [] => (some i, { r with fresh := is })
  | [], j :: js => (some j, { r with resumed := js })
  | i :: is, j :: js =>
    if r.choices % freshPeriod = 0 then (some i, { r with fresh := is })
    else (some j, { r with resumed := js })

/-- A round is over. -/
def endRound (r : Rota) : Rota := { r with resumed := r.resumed ++ r.cut.reverse, cut := [] }

/-- Somebody is chosen unless nobody can go on in this round. -/
theorem fst_choose_eq_none {r : Rota} : r.choose.1 = none ↔ r.fresh = [] ∧ r.resumed = [] := by
  unfold choose
  dsimp only
  split <;> (try split) <;> simp_all

theorem size_choose (r : Rota) : r.choose.2.size + r.choose.1.isSome.toNat = r.size := by
  unfold choose
  dsimp only
  split <;> (try split) <;> simp_all [size] <;> omega

@[simp]
theorem size_endRound (r : Rota) : r.endRound.size = r.size := by
  simp [size, endRound]; omega

end Rota

end SharedCounter
