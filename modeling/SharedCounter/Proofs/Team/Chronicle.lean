import SharedCounter.Proofs.Coordinator.Trace
import SharedCounter.Proofs.Team.Orderly

/-!
# The chronicle of an orderly team

* `Event.starting`, `Event.finished`, `Event.reported` : the events of a producer, and the report of
  the counter;
* `eventsOf` : the events about one producer, or about none;
* `Producer.announcements` : what a producer has still to tell. It tells it in this order, and
  nothing else (`Producer.Orderly.tells`);
* `Team.Chronicle n es report s` : the events `es` are what the producers and the coordinator of `s`
  have told by now, in whatever way they are mixed, and `report` is the last of them. Steps keep it,
  in any order (`Chronicle.producer`, `Chronicle.coordinator`), and a report ends it
  (`Chronicle.conclude`);
* `Lifecycle n l es` : the nine events of a count that comes to the books `l`
  (`Chronicle.lifecycle`).
-/

namespace SharedCounter

namespace Event

/-- A producer is about to send `n` signals. -/
def starting (e : Effect) (n : Nat) : Event :=
  { kind := .producerStarting, producer := some e.name, count := some n }

/-- A producer has sent `n` signals and its completion. -/
def finished (e : Effect) (n : Nat) : Event :=
  { kind := .producerFinished, producer := some e.name, count := some n }

/-- The counter has come to `value` by `count` signals. -/
def reported (value : Int) (count : Nat) : Event :=
  { kind := .counterReported, phase := some .done, value := some value, count := some count }

end Event

/-! ## Events by producer -/

/-- The events about the producer of a name, or about none. -/
def eventsOf (name : Option String) (es : List Event) : List Event :=
  es.filter (·.producer = name)

section eventsOf

variable {name other : Option String} {es new : List Event} {x : Event}

@[simp]
theorem eventsOf_append (name : Option String) (es new : List Event) :
    eventsOf name (es ++ new) = eventsOf name es ++ eventsOf name new := List.filter_append ..

theorem eventsOf_of_all (all : ∀ x ∈ es, x.producer = name) : eventsOf name es = es :=
  List.filter_eq_self.mpr fun x hx => decide_eq_true (all x hx)

theorem eventsOf_of_other (all : ∀ x ∈ es, x.producer = other) (ne : other ≠ name) :
    eventsOf name es = [] := by
  refine List.filter_eq_nil_iff.mpr fun x hx same => ne ?_
  rw [← all x hx]
  exact of_decide_eq_true same

theorem mem_of_mem_eventsOf (h : x ∈ eventsOf name es) : x ∈ es := (List.mem_filter.mp h).1

/-- The events are about producers of the team, or about none. -/
def Known (es : List Event) : Prop :=
  ∀ x ∈ es, x.producer = none ∨ ∃ e : Effect, x.producer = some e.name

theorem Known.append (h : Known es) (more : Known new) : Known (es ++ new) :=
  List.forall_mem_append.mpr ⟨h, more⟩

theorem Known.length_eq (h : Known es) : es.length = (eventsOf none es).length
    + (eventsOf (some Effect.increment.name) es).length
    + (eventsOf (some Effect.decrement.name) es).length := by
  induction es with
  | nil => rfl
  | cons x es ih =>
    have rest := ih fun y hy => h y (List.mem_cons_of_mem x hy)
    simp only [eventsOf, Effect.name, List.filter_cons] at rest ⊢
    rcases h x List.mem_cons_self with quiet | ⟨_ | _, named⟩
    · simp [quiet]
      omega
    · simp [named, Effect.name]
      omega
    · simp [named, Effect.name]
      omega

theorem Known.phases (h : Known es)
    (plain : ∀ e : Effect, ∀ x ∈ eventsOf (some e.name) es, x.phase = none) :
    es.filterMap (·.phase) = (eventsOf none es).filterMap (·.phase) := by
  unfold eventsOf
  rw [List.filterMap_filter]
  refine List.filterMap_congr fun x hx => ?_
  by_cases quiet : x.producer = none
  · rw [if_pos (decide_eq_true quiet)]
  · obtain ⟨e, named⟩ := (h x hx).resolve_left quiet
    rw [if_neg (by simpa using quiet)]
    exact plain e x (List.mem_filter.mpr ⟨hx, decide_eq_true named⟩)

end eventsOf

/-! ## What a producer has still to tell -/

/-- The event that an act publishes about the producer `name`, if it does. -/
def Act.event? (name : String) : Act → Option Event
  | .announce kind count => some { kind, producer := some name, count }
  | _ => none

namespace Producer

/-- What the producer has still to tell, if nothing goes wrong. -/
def announcements (p : Producer) : List Event := p.acts.filterMap (Act.event? p.name)

variable {n sent completed : Nat} {p : Producer} {s t : State}

theorem producer_of_announced {x : Event} (h : x ∈ p.announcements) :
    x.producer = some p.name ∧ x.remaining = none := by
  obtain ⟨act, -, tells⟩ := List.mem_filterMap.mp h
  cases act <;> cases tells
  exact ⟨rfl, rfl⟩

theorem announcements_takePlace (s : State) :
    s.takePlace.producer.name = s.producer.name ∧
      s.takePlace.producer.announcements = s.producer.announcements := by
  unfold State.takePlace
  dsimp only
  split <;> exact ⟨rfl, rfl⟩

theorem name_of_change (change : State.Change s t) : t.producer.name = s.producer.name := by
  cases change <;> rfl

theorem Idle.event? {act : Act} (idle : p.Idle act) : act.event? p.name = none := by
  cases idle <;> rfl

theorem Orderly.tells (h : Orderly n s.producer sent completed) (change : State.Change s t) :
    t.events ++ t.producer.announcements = s.events ++ s.producer.announcements := by
  have passes : ∀ {act rest}, s.producer.acts = act :: rest → act.event? s.producer.name = none →
      (s.producer.next rest).announcements = s.producer.announcements := by
    intro act rest acts silent
    unfold announcements
    rw [acts, List.filterMap_cons_none silent]
    rfl
  cases change with
  | @announce kind count rest going acts =>
    have told : s.producer.announcements = { kind, producer := some s.producer.name, count }
        :: (s.producer.next rest).announcements := by
      unfold announcements
      rw [acts]
      rfl
    rw [told]
    exact List.append_assoc ..
  | skip going acts idle => exact congrArg (s.events ++ ·) (passes acts idle.event?)
  | signal going acts | completion going acts | dropSignals going acts
  | dropCompletion going acts =>
    have told := passes acts rfl
    exact congrArg (s.events ++ ·) told
  | produce going acts =>
    have station := h.station
    rw [acts] at station
    cases station
  | _ => rfl

/-- After its completion a producer has only one thing to tell. -/
theorem Orderly.length_announcements_le (h : Orderly n p sent completed)
    (complete : completed = 1) : p.announcements.length ≤ 1 := by
  have station := h.station
  unfold announcements
  generalize p.acts = acts at station
  cases station with
  | starting | sending | completing => cases complete
  | finishing | finished => simp [Act.event?]

theorem Orderly.announcements_of_ended (h : Orderly n p sent completed) (ended : p.ended = true) :
    p.announcements = [] := by
  rcases h.verdict with going | ⟨-, acts⟩
  · rw [Producer.ended, going] at ended
    cases ended
  · rw [announcements, acts]
    rfl

end Producer

/-! ## What a coordinator tells -/

namespace Coordinator

variable {p : Nat} {counts : List Nat} {c : Coordinator} {x : Event}

theorem mem_trace (h : x ∈ trace p counts c) :
    x.producer = none ∧ (x.remaining = some 0 → p ≤ counts.length) := by
  rcases List.mem_append.mp h with observed | after
  · obtain ⟨i, hi, rfl⟩ := List.mem_mapIdx.mp observed
    refine ⟨rfl, fun last => ?_⟩
    have none_left : p - (i + 1) = 0 := Option.some.inj last
    omega
  · unfold epilogue at after
    split at after <;> simp at after
    · subst after
      exact ⟨rfl, by rintro ⟨⟩⟩
    · rcases after with rfl | rfl <;> exact ⟨rfl, by rintro ⟨⟩⟩
    · rcases after with rfl | rfl <;> exact ⟨rfl, by rintro ⟨⟩⟩

theorem length_epilogue_le (counts : List Nat) (c : Coordinator) :
    (c.epilogue counts).length ≤ 2 := by
  unfold epilogue
  split <;> simp

end Coordinator

/-! ## Chronicles -/

namespace Team

open Coordinator (Account trace)

/-- The events that an orderly team of `n` signals each has told, and the report that ends them. -/
structure Chronicle (n : Nat) (es report : List Event) (s : Team) : Prop where
  named : ∀ e, (s.producer e).name = e.name
  known : Known es
  own : ∀ e : Effect, eventsOf (some e.name) es ++ (s.producer e).announcements
    = [.starting e n, .finished e n]
  told : ∃ counts, Account Effect.all.length counts s.coordinator ∧
    eventsOf none es = trace Effect.all.length counts s.coordinator ++ report
  /-- The last completion is not observed before both producers have started. -/
  started : ∀ e, ∀ x ∈ es, x.remaining = some 0 → [.starting e n, x].Sublist es
  last : report <:+ es

variable {n : Nat} {initial : Int} {sent completed : Effect → Nat} {es new report : List Event}
  {s t : Team} {e : Effect}

theorem Chronicle.start (c : Config) :
    Chronicle c.iterations [] [] (Team.start c (orderlyActs c)) where
  named e := by cases e <;> rfl
  known := by rintro _ ⟨⟩
  own e := by cases e <;> rfl
  told := ⟨[], .create .., rfl⟩
  started := by rintro _ _ ⟨⟩
  last := List.suffix_refl []

/-- What is told later does not come in between. -/
theorem Chronicle.started_append (h : Chronicle n es report s)
    (more : ∀ x ∈ new, x.remaining = some 0 → ∀ e, .starting e n ∈ es) :
    ∀ e, ∀ x ∈ es ++ new, x.remaining = some 0 → [.starting e n, x].Sublist (es ++ new) := by
  intro e x hx last
  rcases List.mem_append.mp hx with old | made
  · exact (h.started e x old last).trans (List.sublist_append_left es new)
  · have started := List.singleton_sublist.mpr (more x made last e)
    exact started.append (List.singleton_sublist.mpr made)

/-! ### Producers -/

/-- A producer moves on and tells `new` of what it had still to tell. After the report it has nothing
to tell. -/
theorem Chronicle.put (h : Chronicle n es report s) {u : Producer.State}
    (name : u.producer.name = (s.producer e).name)
    (tells : new ++ u.producer.announcements = (s.producer e).announcements)
    (before : report = [] ∨ new = []) : Chronicle n (es ++ new) report (s.putProducer e u) := by
  have about : ∀ x ∈ new, x.producer = some e.name ∧ x.remaining = none := by
    intro x hx
    rw [← h.named e]
    refine Producer.producer_of_announced ?_
    rw [← tells]
    exact List.mem_append_left _ hx
  have others : ∀ name, some e.name ≠ name → eventsOf name new = [] := fun name ne =>
    eventsOf_of_other (fun x hx => (about x hx).1) ne
  refine ⟨fun f => ?_, ?_, fun f => ?_, ?_, h.started_append fun x hx last => ?_, ?_⟩
  · by_cases same : f = e
    · subst same
      rw [producer_putProducer_self, name]
      exact h.named f
    · rw [producer_putProducer_of_ne s u same]
      exact h.named f
  · exact h.known.append fun x hx => .inr ⟨e, (about x hx).1⟩
  · rw [eventsOf_append]
    by_cases same : f = e
    · subst same
      rw [producer_putProducer_self, eventsOf_of_all fun x hx => (about x hx).1,
        List.append_assoc, tells]
      exact h.own f
    · have elsewhere : some e.name ≠ some f.name := fun named =>
        same (Effect.name_injective (Option.some.inj named)).symm
      rw [producer_putProducer_of_ne s u same, others _ elsewhere, List.append_nil]
      exact h.own f
  · rw [coordinator_putProducer, eventsOf_append, others none (by simp), List.append_nil]
    exact h.told
  · rw [(about x hx).2] at last
    cases last
  · rcases before with rfl | rfl
    · exact List.nil_suffix
    · rw [List.append_nil]
      exact h.last

theorem Chronicle.producer {u : Producer.State} {k m : Nat} (h : Chronicle n es [] s)
    (orderly : (s.producer e).Orderly n k m)
    (change : Producer.State.Change (s.producerState e) u) :
    Chronicle n (es ++ u.events) [] (s.putProducer e u) :=
  h.put (Producer.name_of_change change)
    (Producer.Orderly.tells (s := s.producerState e) orderly change) (.inl rfl)

theorem Chronicle.takePlace (h : Chronicle n es report s) (e : Effect) :
    Chronicle n es report (s.putProducer e (s.producerState e).takePlace) := by
  obtain ⟨name, announcements⟩ := Producer.announcements_takePlace (s.producerState e)
  have placed := h.put name ((List.nil_append _).trans announcements) (.inr rfl)
  rwa [List.append_nil] at placed

/-! ### The coordinator -/

/-- Once no completion is missing, both producers have sent theirs. -/
theorem Orderly.completed_eq (h : Orderly n initial sent completed s)
    (complete : s.coordinator.remaining = 0) (e : Effect) : completed e = 1 := by
  have up := (h.producers .increment).station.completed_le
  have down := (h.producers .decrement).station.completed_le
  have booked : s.coordinator.ledger.completions ≤ completed .increment + completed .decrement :=
    h.books.completions_le h.fine
  have countdown : s.coordinator.remaining + s.coordinator.ledger.completions = 2 :=
    h.books.countdown
  cases e <;> omega

/-- A producer that has sent its completion has told that it started. -/
theorem Chronicle.starting_mem (h : Chronicle n es report s) {k m : Nat}
    (orderly : (s.producer e).Orderly n k m) (complete : m = 1) : .starting e n ∈ es := by
  have own := h.own e
  have few := orderly.length_announcements_le complete
  cases told : eventsOf (some e.name) es with
  | nil =>
    rw [told, List.nil_append] at own
    rw [own] at few
    exact absurd few (by simp)
  | cons x rest =>
    rw [told] at own
    obtain ⟨rfl, -⟩ := List.cons.inj own
    have first : .starting e n ∈ eventsOf (some e.name) es := by
      rw [told]
      exact List.mem_cons_self
    exact mem_of_mem_eventsOf first

theorem Chronicle.coordinator {u : Coordinator.State} (h : Chronicle n es [] s)
    (orderly : Orderly n initial sent completed s) (up : initial + n ≤ counterMax)
    (down : counterMin ≤ initial - n) (change : Coordinator.State.Change s.coordinatorState u) :
    Chronicle n (es ++ u.events) [] (s.putCoordinator u) := by
  have moved := orderly.coordinator up down change
  obtain ⟨counts, account, told⟩ := h.told
  obtain ⟨counts', account', more⟩ := account.step change moved.fine rfl
  have quiet : ∀ x ∈ u.events, x.producer = none ∧
      (x.remaining = some 0 → Effect.all.length ≤ counts'.length) := by
    intro x hx
    refine Coordinator.mem_trace (c := u.coordinator) ?_
    rw [more]
    exact List.mem_append_right _ hx
  have trace : eventsOf none (es ++ u.events)
      = trace Effect.all.length counts' u.coordinator ++ [] := by
    rw [eventsOf_append, told, eventsOf_of_all fun x hx => (quiet x hx).1, List.append_nil,
      List.append_nil]
    exact more.symm
  refine ⟨h.named, h.known.append fun x hx => .inl (quiet x hx).1, fun e => ?_,
    ⟨counts', account', trace⟩, h.started_append fun x hx last e => ?_, List.nil_suffix⟩
  · rw [eventsOf_append, eventsOf_of_other (fun x hx => (quiet x hx).1) (by simp),
      List.append_nil]
    exact h.own e
  · have all := (quiet x hx).2 last
    have countdown := account'.countdown
    refine h.starting_mem (orderly.producers e) (moved.completed_eq ?_ e)
    show u.coordinator.remaining = 0
    omega

/-! ### The report -/

theorem Chronicle.conclude (h : Chronicle n es [] s)
    (quiet : ∀ x ∈ report, x.producer = none ∧ x.remaining = none) :
    Chronicle n (es ++ report) report s := by
  obtain ⟨counts, account, told⟩ := h.told
  refine ⟨h.named, h.known.append fun x hx => .inl (quiet x hx).1, fun e => ?_,
    ⟨counts, account, ?_⟩, h.started_append fun x hx last => ?_, List.suffix_append es report⟩
  · rw [eventsOf_append, eventsOf_of_other (fun x hx => (quiet x hx).1) (by simp),
      List.append_nil]
    exact h.own e
  · rw [eventsOf_append, told, eventsOf_of_all fun x hx => (quiet x hx).1, List.append_nil]
  · rw [(quiet x hx).2] at last
    cases last

/-- Nine events at most. -/
theorem Chronicle.length_le (h : Chronicle n es report s) (one : report.length ≤ 1) :
    es.length ≤ 9 := by
  have own : ∀ e : Effect, (eventsOf (some e.name) es).length ≤ 2 := by
    intro e
    have all := congrArg List.length (h.own e)
    rw [List.length_append] at all
    exact Nat.le.intro all
  obtain ⟨counts, account, told⟩ := h.told
  have countdown : s.coordinator.remaining + counts.length = 2 := account.countdown
  have epilogue := Coordinator.length_epilogue_le counts s.coordinator
  have length := h.known.length_eq
  have up := own .increment
  have down := own .decrement
  rw [told, List.length_append, trace, List.length_append, Coordinator.length_observed] at length
  omega

end Team

namespace Team.Full

variable {n : Nat} {initial : Int} {l : Ledger}

theorem applied_eq (h : Full n initial l) : l.applied = 2 * n := by
  rw [Ledger.applied, h.increments, h.decrements]
  omega

theorem applied?_eq (h : Full n initial l) (up : initial + n ≤ counterMax)
    (down : counterMin ≤ initial - n) : l.applied? = some (2 * n) := by
  rw [← h.applied_eq]
  refine Ledger.applied?_of_le ?_
  rw [h.applied_eq]
  unfold counterMax at up
  unfold counterMin at down
  unfold countMax
  omega

end Team.Full

/-! ## The nine events of a count -/

/-- The events of a count that comes to the books `l` by `n` signals of each producer. -/
structure Lifecycle (n : Nat) (l : Ledger) (es : List Event) : Prop where
  length : es.length = 9
  /-- Each producer starts once, and finishes once after that. -/
  producers : ∀ e : Effect, eventsOf (some e.name) es = [.starting e n, .finished e n]
  /-- The completions are observed, after the first `c` and `d` signals, then the buffers are drained
  of `m` signals, and then the counter is reported. Both producers start before the last completion
  is observed. -/
  coordinator : ∃ c d m : Nat, c ≤ d ∧ d + m = 2 * n ∧
    eventsOf none es = [.completed 1 c, .completed 0 d, .draining d, .drained m,
      .reported l.value (2 * n)] ∧
    ∀ e : Effect, [.starting e n, .completed 0 d].Sublist es
  last : es.getLast? = some (.reported l.value (2 * n))
  phases : es.filterMap (·.phase) = [.draining, .done, .done]

/-- When both producers have ended and the count is reported, nothing is missing. -/
theorem Team.Chronicle.lifecycle {n : Nat} {initial : Int} {es : List Event} {s : Team}
    {l : Ledger} (h : s.Chronicle n es [.reported l.value (2 * n)])
    (silent : ∀ e, (s.producer e).announcements = [])
    (counted : s.coordinator.outcome? = some (.counted l)) (full : Full n initial l) :
    Lifecycle n l es := by
  have producers : ∀ e : Effect, eventsOf (some e.name) es = [.starting e n, .finished e n] := by
    intro e
    rw [← h.own e, silent e, List.append_nil]
  obtain ⟨counts, account, told⟩ := h.told
  obtain ⟨complete, drained, -⟩ := account.counted l counted
  have countdown : s.coordinator.remaining + counts.length = 2 := account.countdown
  obtain ⟨c, d, rfl⟩ := List.length_eq_two.mp (by omega : counts.length = 2)
  have trace : eventsOf none es = [.completed 1 c, .completed 0 d, .draining d, .drained l.drained,
      .reported l.value (2 * n)] := by
    rw [told, Coordinator.trace, Coordinator.epilogue_of_counted counted]
    rfl
  refine ⟨?_, producers, ⟨c, d, l.drained, ?_, ?_, trace, fun e => ?_⟩, ?_, ?_⟩
  · rw [h.known.length_eq, trace, producers, producers]
    rfl
  · exact List.rel_of_pairwise_cons account.sorted List.mem_cons_self
  · rw [← full.applied_eq]
    exact drained
  · have observed : .completed 0 d ∈ eventsOf none es := by
      rw [trace]
      simp
    exact h.started e _ (mem_of_mem_eventsOf observed) rfl
  · obtain ⟨before, rfl⟩ := h.last
    exact List.getLast?_concat
  · rw [h.known.phases fun e x hx => ?_, trace]
    · rfl
    · rw [producers e] at hx
      simp only [List.mem_cons, List.not_mem_nil, or_false] at hx
      rcases hx with rfl | rfl <;> rfl

end SharedCounter
