import Mathlib.Tactic.Common

/-!
# Following a schedule

* `follow f s as` : the state after the schedule `as`, the first move first, if each of its moves
  can be made;
* `follow_invariant` : what every move keeps, the schedule keeps (`follow_invariant_of`, for
  schedules of some moves only, and `follow_invariant_along`, where something else holds all along);
* `Leads f s t` : some schedule takes `s` to `t`;
* `length_add_le_of_follow` : with a measure that every move lowers, schedules are bounded.
-/

namespace SharedCounter

variable {σ α : Type} {f : σ → α → Option σ}

/-- The state after a schedule. -/
def follow (f : σ → α → Option σ) (s : σ) (as : List α) : Option σ := as.foldlM f s

@[simp]
theorem follow_cons (s : σ) (a : α) (as : List α) :
    follow f s (a :: as) = (f s a).bind (follow f · as) := rfl

/-- What every move of some kind keeps, a schedule of such moves keeps. -/
theorem follow_invariant_of {P : σ → Prop} {q : α → Prop}
    (keep : ∀ s a t, q a → f s a = some t → P s → P t) {s t : σ} {as : List α}
    (h : follow f s as = some t) (all : ∀ a ∈ as, q a) (hs : P s) : P t := by
  induction as generalizing s with
  | nil =>
    cases h
    exact hs
  | cons a as ih =>
    rw [follow_cons] at h
    obtain ⟨u, hu, rest⟩ := Option.bind_eq_some_iff.mp h
    exact ih rest (fun b hb => all b (List.mem_cons_of_mem _ hb))
      (keep s a u (all a List.mem_cons_self) hu hs)

theorem follow_invariant {P : σ → Prop} (keep : ∀ s a t, f s a = some t → P s → P t) {s t : σ}
    {as : List α} (h : follow f s as = some t) (hs : P s) : P t :=
  follow_invariant_of (q := fun _ => True) (fun s a t _ => keep s a t) h (fun _ _ => trivial) hs

/-- What every move keeps where `q` holds, a schedule keeps along which `q` holds. -/
theorem follow_invariant_along {P q : σ → Prop}
    (keep : ∀ s a t, q s → f s a = some t → P s → P t) {s t : σ} {as : List α}
    (h : follow f s as = some t) (along : ∀ bs u, bs <+: as → follow f s bs = some u → q u)
    (hs : P s) : P t := by
  induction as generalizing s with
  | nil =>
    cases h
    exact hs
  | cons a as ih =>
    rw [follow_cons] at h
    obtain ⟨u, hu, rest⟩ := Option.bind_eq_some_iff.mp h
    refine ih rest (fun bs v before run => ?_)
      (keep s a u (along [] s List.nil_prefix rfl) hu hs)
    refine along (a :: bs) v ((List.prefix_cons_inj a).mpr before) ?_
    rw [follow_cons, hu]
    exact run

/-- The state `t` comes of `s` by some schedule. -/
def Leads (f : σ → α → Option σ) (s t : σ) : Prop := ∃ as, follow f s as = some t

theorem Leads.refl (s : σ) : Leads f s s := ⟨[], rfl⟩

theorem Leads.trans {s t u : σ} (h : Leads f s t) (h' : Leads f t u) : Leads f s u := by
  obtain ⟨as, run⟩ := h
  obtain ⟨bs, rest⟩ := h'
  refine ⟨as ++ bs, ?_⟩
  rw [follow, List.foldlM_append]
  exact Option.bind_eq_some_iff.mpr ⟨t, run, rest⟩

theorem Leads.move {s t u : σ} {a : α} (h : Leads f s t) (moved : f t a = some u) :
    Leads f s u :=
  h.trans ⟨[a], by rw [follow_cons, moved]; rfl⟩

theorem length_add_le_of_follow {μ : σ → Nat} (lower : ∀ s a t, f s a = some t → μ t < μ s)
    {s t : σ} {as : List α} (h : follow f s as = some t) : as.length + μ t ≤ μ s := by
  induction as generalizing s with
  | nil =>
    cases h
    exact Nat.le_of_eq (Nat.zero_add _)
  | cons a as ih =>
    rw [follow_cons] at h
    obtain ⟨u, hu, rest⟩ := Option.bind_eq_some_iff.mp h
    have := ih rest
    have := lower s a u hu
    rw [List.length_cons]
    omega

end SharedCounter
