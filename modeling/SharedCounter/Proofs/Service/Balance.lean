import SharedCounter.Proofs.Service.Basic

/-!
# Services keep their books

* `Steps.keep` : what every change keeps, any number of steps keep. So steps keep the books
  (`Steps.books`) and the effects (`Steps.effect_eq`), and take items until they hang up
  (`Steps.inlets`);
* `Service.Balanced` : the books balance with the intake of the lines, every end is held, and a
  coordinator that has ended receives nothing. All walks keep it (`Service.balanced_of_walk`),
  whatever the branches that are chosen and wherever the turns stop.
-/

namespace SharedCounter

/-! ## Any number of steps -/

namespace Coordinator.State

variable {a : Intake} {s u : State}

/-- What every change keeps, steps keep, as long as no sum leaves its range. -/
theorem Steps.keep {P : State → Prop} (steps : s.Steps u)
    (fine : u.coordinator.outcome? ≠ some .overflowed)
    (keep : ∀ t v, v.coordinator.outcome? ≠ some .overflowed → Change t v → P t → P v)
    (h : P s) : P u := by
  induction steps with
  | refl => exact h
  | tail _ last ih =>
    obtain ⟨b, hb⟩ := last
    have change := Change.of_step hb
    exact keep _ _ fine change (ih (change.fine fine))

theorem Steps.fine (steps : s.Steps u) (fine : u.coordinator.outcome? ≠ some .overflowed) :
    s.coordinator.outcome? ≠ some .overflowed := by
  induction steps with
  | refl => exact fine
  | tail _ last ih =>
    obtain ⟨b, hb⟩ := last
    exact ih ((Change.of_step hb).fine fine)

theorem Steps.books (steps : s.Steps u) (fine : u.coordinator.outcome? ≠ some .overflowed)
    (books : Books a s) : Books a u :=
  steps.keep fine (fun _ _ fine change books => books.step change fine) books

theorem Steps.emptied (steps : s.Steps u) (fine : u.coordinator.outcome? ≠ some .overflowed)
    (books : Books a s) (emptied : Emptied a s) : Emptied a u := by
  refine (steps.keep (P := fun t => Books a t ∧ Emptied a t) fine ?_ ⟨books, emptied⟩).2
  rintro t v fine change ⟨books, emptied⟩
  exact ⟨books.step change fine, emptied.step books change⟩

/-- When all that was sent fits in any order, no sum leaves its range. -/
theorem Steps.not_overflowed (steps : s.Steps u) (range : a.InRange) (books : Books a s)
    (fine : s.coordinator.outcome? ≠ some .overflowed) :
    u.coordinator.outcome? ≠ some .overflowed ∧ Books a u := by
  induction steps with
  | refl => exact ⟨fine, books⟩
  | tail _ last ih =>
    obtain ⟨b, hb⟩ := last
    obtain ⟨fine, books⟩ := ih
    have change := Change.of_step hb
    have still := books.not_overflowed range change fine
    exact ⟨still, books.step change still⟩

theorem Steps.effect_eq (steps : s.Steps u) (fine : u.coordinator.outcome? ≠ some .overflowed)
    (side : Side) : u.coordinator.effect side = s.coordinator.effect side :=
  steps.keep (P := fun t => t.coordinator.effect side = s.coordinator.effect side) fine
    (fun _ _ fine change h => (change.effect_eq fine side).trans h) rfl

theorem Steps.eq_of_ended {o : Outcome} (steps : s.Steps u) (ended : s.coordinator.stage = .ended o) :
    u = s := by
  rcases Relation.ReflTransGen.cases_head steps with rfl | ⟨t, ⟨b, hb⟩, -⟩
  · rfl
  · exact absurd ended ((Change.of_step hb).not_ended o)

/-- Items are taken, and in the end the coordinator hangs up. -/
theorem Steps.inlets (steps : s.Steps u) (fine : u.coordinator.outcome? ≠ some .overflowed)
    (receiving : s.coordinator.Receiving) :
    (u.coordinator.Receiving ∧ s.inlets.Drawn u.inlets) ∨
      (∃ o, u.coordinator.stage = .ended o) ∧ u.inlets = s.inlets.hangUp := by
  refine steps.keep (P := fun t => (t.coordinator.Receiving ∧ s.inlets.Drawn t.inlets) ∨
    (∃ o, t.coordinator.stage = .ended o) ∧ t.inlets = s.inlets.hangUp) fine ?_
    (.inl ⟨receiving, .refl _⟩)
  rintro t v fine change (⟨-, drawn⟩ | ⟨⟨o, ended⟩, -⟩)
  · rcases change.inlets fine with ⟨still, more⟩ | ⟨ended, hung⟩
    · exact .inl ⟨still, drawn.trans more⟩
    · exact .inr ⟨ended, hung.trans drawn.hangUp_eq⟩
  · exact absurd ended (change.not_ended o)

/-- A coordinator lets go of no sending end. -/
theorem Steps.senders_eq (steps : s.Steps u) (fine : u.coordinator.outcome? ≠ some .overflowed)
    (b : Branch) : (u.inlets.channel b).senders = (s.inlets.channel b).senders := by
  rcases receiving_or_ended s.coordinator with receiving | ⟨o, ended⟩
  · rcases steps.inlets fine receiving with ⟨-, drawn⟩ | ⟨-, hung⟩
    · exact (drawn.channel b).senders_eq
    · rw [hung, Inlets.channel_hangUp]
      rfl
  · rw [steps.eq_of_ended ended]

end Coordinator.State

/-! ## The balance of a service -/

namespace Service

/-- The books balance with what was sent, every end is held, and nothing is received after the end. -/
structure Balanced (initial : Int) (producers : Nat) (given : Lines) (s : Service) : Prop where
  wired : ∀ side, s.coordinator.effect side = s.lines.effect (side.flip s.flipped)
  sound : s.lines.Sound
  deaf : ∀ o, s.coordinator.stage = .ended o → ∀ b, (s.lines.line b).channel.listening = false
  books : Coordinator.State.Books (given.intake initial producers s.lines) s.state

variable {initial : Int} {producers : Nat} {given : Lines} {s t : Service}
  {rest : Coordinator.State → Prop}

theorem signalsOf_eq {c : Coordinator} {l : Lines} {flipped : Bool}
    (wired : ∀ side, c.effect side = l.effect (side.flip flipped)) (e : Effect) :
    c.signalsOf (l.inlets flipped) e = l.buffered e := by
  have first : c.firstEffect = l.effect (Side.first.flip flipped) := wired .first
  have second : c.secondEffect = l.effect (Side.second.flip flipped) := wired .second
  unfold Coordinator.signalsOf
  rw [first, second]
  cases flipped
  · rfl
  · exact Nat.add_comm _ _

theorem balanced_start (sound : given.Sound) (flipped : Bool) :
    Balanced initial producers given (start initial producers given flipped) where
  wired side := by cases side <;> cases flipped <;> rfl
  sound b := by
    rcases b with (_ | _) | _
    · exact sound (.signals .first)
    · exact sound (.signals .second)
    · exact sound .completions
  deaf := by rintro _ ⟨⟩
  books := by
    refine .create (fun e => ?_) (Nat.add_zero _).symm
    have wired : ∀ side, (start initial producers given flipped).coordinator.effect side
        = given.handOver.effect (side.flip flipped) := by
      intro side
      cases side <;> cases flipped <;> rfl
    refine (signalsOf_eq wired e).trans ?_
    show given.buffered e = given.buffered e + given.handOver.acknowledged e
    rw [Lines.acknowledged_handOver, Nat.add_zero]

/-- The turns of the coordinator keep the balance. -/
theorem Balanced.put {u : Coordinator.State} (h : Balanced initial producers given s)
    (steps : s.state.Steps u) (fine : u.coordinator.outcome? ≠ some .overflowed) :
    Balanced initial producers given (s.put u) where
  wired side := (steps.effect_eq fine side).trans (h.wired side)
  sound b := by
    have senders := steps.senders_eq fine (b.flip s.flipped)
    rw [state, Lines.channel_inlets, Branch.flip_flip] at senders
    rw [Service.put, Lines.line_putInlets]
    exact senders.trans (h.sound b)
  deaf o ended b := by
    rw [Service.put, Lines.line_putInlets]
    show (u.inlets.channel (b.flip s.flipped)).listening = false
    rcases Coordinator.receiving_or_ended s.coordinator with receiving | ⟨o', ended'⟩
    · rcases steps.inlets fine receiving with ⟨still, -⟩ | ⟨-, hung⟩
      · exact absurd ended (still o)
      · rw [hung, Inlets.channel_hangUp]
        rfl
    · rw [steps.eq_of_ended ended', state, Lines.channel_inlets, Branch.flip_flip]
      exact h.deaf o' ended' b
  books := by
    rw [state_put]
    exact (steps.books fine h.books).withEvents []

/-- So do the acts of the clients. -/
theorem Balanced.setLine {b : Branch} {a : Line.Act} {m : Line}
    (h : Balanced initial producers given s) (act : (s.lines.line b).act b a = some m) :
    Balanced initial producers given (s.setLine b m) where
  wired side := by
    show s.coordinator.effect side = (s.lines.setLine b m).effect (side.flip s.flipped)
    rw [Lines.effect_setLine]
    exact h.wired side
  sound c := by
    show ((s.lines.setLine b m).line c).Sound
    by_cases hc : c = b
    · subst hc
      rw [Lines.line_setLine_self]
      exact (h.sound c).act act
    · rw [Lines.line_setLine_of_ne _ _ hc]
      exact h.sound c
  deaf o ended c := by
    show ((s.lines.setLine b m).line c).channel.listening = false
    by_cases hc : c = b
    · subst hc
      rw [Lines.line_setLine_self, (Line.keeps_of_act act).listening]
      exact h.deaf o ended c
    · rw [Lines.line_setLine_of_ne _ _ hc]
      exact h.deaf o ended c
  books := by
    have keeps := Line.keeps_of_act act
    have wired : ∀ side, s.coordinator.effect side
        = (s.lines.setLine b m).effect (side.flip s.flipped) := by
      intro side
      rw [Lines.effect_setLine]
      exact h.wired side
    refine h.books.deposit rfl rfl (fun _ e => ?_) (fun _ => ?_) ?_ (fun gone => ?_)
    · have balance := Lines.buffered_setLine keeps e
      show s.coordinator.signalsOf ((s.lines.setLine b m).inlets s.flipped) e + _
        = s.coordinator.signalsOf (s.lines.inlets s.flipped) e + _
      rw [signalsOf_eq wired, signalsOf_eq h.wired]
      simp only [Lines.intake, Service.setLine]
      omega
    · have balance := Lines.completions_setLine keeps
      show (s.lines.setLine b m).completions.channel.buffered + _
        = s.lines.completions.channel.buffered + _
      simp only [Lines.intake, Service.setLine]
      omega
    · exact Nat.add_le_add_left (Lines.completions_le_setLine keeps) _
    · rcases b with side | _
      · cases side <;> exact ⟨gone, rfl⟩
      · rw [(h.sound .completions).act_eq_none gone] at act
        cases act

theorem Step.fine {d : Deed} (step : Step rest s d t)
    (fine : t.coordinator.outcome? ≠ some .overflowed) :
    s.coordinator.outcome? ≠ some .overflowed := by
  cases step with
  | client act => exact fine
  | turn steps rests => exact steps.fine fine

/-- Every walk from the hand-over keeps the balance, unless a sum leaves its range. -/
theorem balanced_of_walk {ds : List Deed} {flipped : Bool} (sound : given.Sound)
    (walk : Walk rest (start initial producers given flipped) ds s)
    (fine : s.coordinator.outcome? ≠ some .overflowed) :
    Balanced initial producers given s := by
  induction walk with
  | nil => exact balanced_start sound flipped
  | cons _ step ih =>
    have h := ih (step.fine fine)
    cases step with
    | client act => exact h.setLine act
    | turn steps rests => exact h.put steps fine

end Service

end SharedCounter
