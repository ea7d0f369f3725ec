import SharedCounter.Proofs.Producer.Items

/-!
# What a producer sends, in order

* `Act.items` : the items that acts send if nothing goes wrong;
* `Item.InOrder` : nothing is sent after a completion;
* `Producer.owed` : the items that a producer still may send. What comes through and what is owed
  after that was owed before (`Change.owed`), so that items are only left out.
-/

namespace SharedCounter

namespace Act

/-- The items that acts send if nothing goes wrong. -/
def items : List Act → List Item
  | [] => []
  | .send n :: rest => List.replicate n .signal ++ items rest
  | .complete :: rest => .completion :: items rest
  | .produce n :: rest => List.replicate n .signal ++ .completion :: items rest
  | _ :: rest => items rest

theorem items_plan (n : Nat) : items (plan n) = List.replicate n .signal ++ [.completion] := rfl

end Act

namespace Item

/-- Nothing is sent after a completion, so there is at most one of them. -/
def InOrder (log : List Item) : Prop := log.Pairwise fun earlier _ => earlier ≠ .completion

instance (log : List Item) : Decidable (InOrder log) :=
  inferInstanceAs (Decidable (log.Pairwise fun earlier _ => earlier ≠ .completion))

variable {log more : List Item} {i : Item}

theorem InOrder.of_append (h : InOrder (log ++ more)) : InOrder log :=
  (List.pairwise_append.mp h).1

theorem InOrder.not_mem (h : InOrder (log ++ more)) (mem : i ∈ more) : .completion ∉ log := by
  intro early
  exact (List.pairwise_append.mp h).2.2 _ early i mem rfl

theorem InOrder.count_le (h : InOrder log) : log.count .completion ≤ 1 := by
  induction log with
  | nil => exact Nat.zero_le _
  | cons i log ih =>
    obtain ⟨first, rest⟩ := List.pairwise_cons.mp h
    cases i with
    | signal =>
      rw [List.count_cons_of_ne (by simp)]
      exact ih rest
    | completion =>
      cases log with
      | nil => exact Nat.le_refl _
      | cons j log => exact absurd rfl (first j List.mem_cons_self)

end Item

namespace Producer

/-- The items that a producer still may send. -/
def owed (p : Producer) : List Item := if p.verdict.isNone then Act.items p.acts else []

variable {p : Producer} {s t : State}

theorem owed_of_going (going : p.verdict = none) : p.owed = Act.items p.acts := by
  rw [owed, going]
  rfl

theorem owed_of_judged {v : Verdict} (judged : p.verdict = some v) : p.owed = [] := by
  rw [owed, judged]
  rfl

theorem owed_next (going : p.verdict = none) (acts : List Act) :
    (p.next acts).owed = Act.items acts := owed_of_going going

theorem owed_takePlace (s : State) : s.takePlace.producer.owed = s.producer.owed := by
  unfold State.takePlace
  dsimp only
  split <;> rfl

theorem items_sublist_cons (act : Act) (rest : List Act) :
    (Act.items rest).Sublist (Act.items (act :: rest)) := by
  cases act with
  | send n => exact List.sublist_append_right _ _
  | complete => exact List.sublist_cons_self _ _
  | produce n => exact (List.sublist_cons_self _ _).trans (List.sublist_append_right _ _)
  | _ => exact List.Sublist.refl _

theorem items_produce (holds : Bool) (n : Nat) (rest : List Act) :
    (Act.items ((if holds then Act.plan n else []) ++ .dropSignals :: .dropCompletion :: rest)).Sublist
      (Act.items (.produce n :: rest)) := by
  cases holds with
  | true =>
    show (List.replicate n Item.signal ++ .completion :: Act.items rest).Sublist _
    exact List.Sublist.refl _
  | false => exact items_sublist_cons (.produce n) rest

/-- What comes through and what is owed after that was owed before. -/
theorem State.Change.owed (change : State.Change s t) :
    (s.delivers?.toList ++ t.producer.owed).Sublist s.producer.owed := by
  have quiet : s.delivers? = none → t.producer.owed.Sublist s.producer.owed →
      (s.delivers?.toList ++ t.producer.owed).Sublist s.producer.owed := by
    intro nothing less
    rwa [nothing, Option.toList_none, List.nil_append]
  have judged : ∀ {v}, s.delivers? = none → t.producer.verdict = some v →
      (s.delivers?.toList ++ t.producer.owed).Sublist s.producer.owed := by
    intro v nothing judged
    refine quiet nothing ?_
    rw [owed_of_judged judged]
    exact List.nil_sublist _
  have passes : ∀ {act rest}, s.producer.verdict = none → s.producer.acts = act :: rest →
      (s.producer.next rest).owed.Sublist s.producer.owed := by
    intro act rest going acts
    rw [owed_next going, owed_of_going going, acts]
    exact items_sublist_cons act rest
  cases change with
  | announce going acts =>
    exact quiet (delivers?_of_none (by rw [sending?, going, acts])) (passes going acts)
  | skip going acts idle => exact quiet (delivers?_of_none (idle.sending? acts)) (passes going acts)
  | dropSignals going acts | dropCompletion going acts =>
    refine quiet (delivers?_of_none (by rw [sending?, going, acts])) ?_
    exact passes going acts
  | signal going acts holds poll =>
    rw [delivers?_of_sent (sending?_signal going acts holds) poll, owed_next going,
      owed_of_going going, acts]
    exact List.Sublist.refl _
  | completion going acts holds poll =>
    rw [delivers?_of_sent (sending?_completion going acts holds) poll, owed_next going,
      owed_of_going going, acts]
    exact List.Sublist.refl _
  | signalWaits going acts holds poll =>
    have sending := sending?_signal going acts holds
    exact quiet (delivers?_of_not_sent sending poll (by simp)) (List.Sublist.refl _)
  | completionWaits going acts holds poll =>
    have sending := sending?_completion going acts holds
    exact quiet (delivers?_of_not_sent sending poll (by simp)) (List.Sublist.refl _)
  | signalRefused going acts holds poll =>
    have sending := sending?_signal going acts holds
    exact judged (delivers?_of_not_sent sending poll (by simp)) rfl
  | completionRefused going acts holds poll =>
    have sending := sending?_completion going acts holds
    exact judged (delivers?_of_not_sent sending poll (by simp)) rfl
  | fail going acts | crash going acts | finish going acts =>
    exact judged (delivers?_of_none (by rw [sending?, going, acts])) rfl
  | produce going acts =>
    refine quiet (delivers?_of_none (by rw [sending?, going, acts])) ?_
    rw [owed_next going, owed_of_going going, acts]
    exact items_produce _ _ _
  | letGoSignals verdict | letGoCompletion verdict =>
    exact judged (delivers?_of_none (sending?_of_judged verdict)) verdict

end Producer

end SharedCounter
