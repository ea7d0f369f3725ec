import SharedCounter.Proofs.Audience
import SharedCounter.Proofs.Run.Chronicle
import SharedCounter.Proofs.Run.Poll

/-!
# Every subscriber hears of the whole count

* `TracedListener.Attended n initial seats w` : the ring has not overwritten anything, the audience
  has lost nothing of what was handed to it, and nothing is published after the listener was told to
  stop. Steps of the count (`Attended.count`), of the listener (`Attended.listen`) and of the
  workers (`Attended.work`) keep it;
* `TracedListener.Complete` : the same, and the listener leaves nothing behind. Schedules keep it
  (`Complete.follow`), and a run that returns a count has then told every subscriber of all of it
  (`Complete.hears`);
* `TracedListener.hears_lifecycle` : when a run returns a count, every subscriber has handled its
  nine events.
-/

namespace SharedCounter.TracedListener

/-- A listener and an audience that have lost nothing. -/
structure Attended (n : Nat) (initial : Int) (seats : List Subscriber) (w : TracedListener) :
    Prop where
  recorded : w.run.Recorded n initial
  told : w.Told
  heard : w.Heard
  ring : 9 ≤ w.run.bus.capacity
  kept : w.missed = 0
  cut : w.cut = w.run.bus.history.size
  served : Audience.Served 9 seats w.emitted w.run.audience
  isOpen : w.run.listener ≠ .closing → w.run.listener ≠ .gone → w.run.audience.IsOpen
  left : w.run.listener = .gone → w.run.audience.allLeft = true

variable {n : Nat} {initial : Int} {seats : List Subscriber} {w v : TracedListener} {t : Run}

theorem Attended.oldest_eq (h : Attended n initial seats w) : w.run.bus.oldest = 0 := by
  have size := h.recorded.size_le
  have ring := h.ring
  unfold Bus.oldest
  omega

/-! ## The count -/

/-- Once the listener was told to stop, the cut stays where it is and nothing is published. -/
theorem Attended.cut_eq (h : Attended n initial seats w) {es : List Event}
    (tells : Run.Tells w.run t es) (silent : w.run.main.reported?.isSome → es = []) :
    (if w.run.stop then w.cut else t.bus.history.size) = t.bus.history.size := by
  split
  next stop =>
    have nothing := silent (h.told.told stop)
    rw [h.cut, tells.bus, nothing]
    rfl
  next => rfl

theorem Attended.count (h : Attended n initial seats w) {es : List Event}
    (recorded : t.Recorded n initial) (tells : Run.Tells w.run t es)
    (silent : w.run.main.reported?.isSome → es = []) (beside : Run.Beside w.run t)
    {cut : Nat} (still : cut = if w.run.stop then w.cut else t.bus.history.size)
    (told : Told { w with run := t, cut }) (heard : Heard { w with run := t, cut }) :
    Attended n initial seats { w with run := t, cut } where
  recorded := recorded
  told := told
  heard := heard
  ring := by
    show 9 ≤ t.bus.capacity
    rw [tells.capacity]
    exact h.ring
  kept := h.kept
  cut := still.trans (h.cut_eq tells silent)
  served := by
    show Audience.Served 9 seats w.emitted t.audience
    rw [tells.audience]
    exact h.served
  isOpen := by
    show t.listener ≠ .closing → t.listener ≠ .gone → t.audience.IsOpen
    rw [beside.listener, tells.audience]
    exact h.isOpen
  left := by
    show t.listener = .gone → t.audience.allLeft = true
    rw [beside.listener, tells.audience]
    exact h.left

/-! ## Those who listen -/

theorem Attended.seat (h : Attended n initial seats w) (count : Run.SameCount w.run v.run)
    (bus : v.run.bus = w.run.bus) (missed : v.missed = w.missed)
    (cut : v.cut = if w.run.stop then w.cut else v.run.bus.history.size)
    (told : v.Told) (heard : v.Heard)
    (served : Audience.Served 9 seats v.emitted v.run.audience)
    (isOpen : v.run.listener ≠ .closing → v.run.listener ≠ .gone → v.run.audience.IsOpen)
    (left : v.run.listener = .gone → v.run.audience.allLeft = true) :
    Attended n initial seats v where
  recorded := h.recorded.congr count bus
  told := told
  heard := heard
  ring := by
    rw [bus]
    exact h.ring
  kept := missed.trans h.kept
  cut := by
    rw [cut, bus, h.cut, ite_self]
  served := served
  isOpen := isOpen
  left := left

theorem Attended.listen (h : Attended n initial seats w) (step : w.run.stepListener = some t)
    {cut : Nat} (still : cut = if w.run.stop then w.cut else t.bus.history.size)
    (told : Told { w.note w.run.finds? with run := t, cut })
    (heard : Heard { w.note w.run.finds? with run := t, cut }) :
    Attended n initial seats { w.note w.run.finds? with run := t, cut } := by
  have count := Run.stepListener_same step
  cases Run.ListenerStep.of_step step with
  | @hear e listening kept found =>
    have isOpen : w.run.audience.IsOpen := by simpa [listening] using h.isOpen
    have few : w.emitted.length < 9 := by
      have size := h.recorded.size_le
      have all := h.heard.all
      have next := (Array.getElem?_eq_some_iff.mp found).1
      rw [h.kept] at all
      omega
    obtain ⟨quiet, served, isOpen⟩ := h.served.emit isOpen few e
    rw [Run.finds?_of_kept listening kept found] at told heard ⊢
    rw [quiet] at still told heard count ⊢
    refine h.seat count rfl rfl still told heard served (fun _ _ => isOpen) fun gone => ?_
    rw [show w.run.listener = .gone from gone] at listening
    cases listening
  | lag listening behind =>
    rw [h.oldest_eq] at behind
    cases behind
  | look listening read =>
    have isOpen : w.run.audience.IsOpen := by simpa [listening] using h.isOpen
    rw [Run.finds?_of_read listening read] at told heard ⊢
    refine h.seat count rfl rfl still told heard h.served (fun _ _ => isOpen) ?_
    rintro ⟨⟩
  | leave checking =>
    rw [Run.finds?_of_ne (by rw [checking]; rintro ⟨⟩)] at told heard ⊢
    refine h.seat count rfl rfl still told heard h.served.close ?_ ?_
    · intro closing
      exact absurd rfl closing
    · rintro ⟨⟩
  | sleep here | wake here =>
    have isOpen : w.run.audience.IsOpen := by simpa [here] using h.isOpen
    rw [Run.finds?_of_ne (by rw [here]; rintro ⟨⟩)] at told heard ⊢
    refine h.seat count rfl rfl still told heard h.served (fun _ _ => isOpen) ?_
    rintro ⟨⟩
  | finish closing =>
    rw [Run.finds?_of_ne (by rw [closing]; rintro ⟨⟩)] at told heard ⊢
    refine h.seat count rfl rfl still told heard h.served (fun _ here => absurd rfl here)
      fun _ => ?_
    simp only [Run.stepListener, closing] at step
    exact (Option.ite_none_right_eq_some.mp step).1

/-- A worker takes a step. Nobody panics, so nothing is published by it. -/
theorem Attended.work (h : Attended n initial seats w) {i : Nat}
    (step : w.run.stepWorker i = some t) {cut : Nat}
    (still : cut = if w.run.stop then w.cut else t.bus.history.size)
    (told : Told { w with run := t, cut }) (heard : Heard { w with run := t, cut }) :
    Attended n initial seats { w with run := t, cut } := by
  have count := Run.stepWorker_same step
  obtain ⟨d, u, seated, moved, rfl⟩ := Run.stepWorker_eq_some_iff.mp step
  have mem := List.mem_of_getElem? seated
  have able := h.served.able_of_mem mem
  obtain ⟨steady, served⟩ := (h.served.desks d mem).step able moved
  rw [steady.quiet] at still told heard count ⊢
  refine h.seat count rfl rfl still told heard (h.served.set seated steady.subscriber served)
    (fun open_yet here => (h.isOpen open_yet here).set seated steady.isOpen) fun gone => ?_
  have duty := List.all_eq_true.mp (h.left gone) d mem
  exact absurd (Desk.working_of_step moved) (of_decide_eq_true duty)

theorem Attended.permit (h : Attended n initial seats w) {i k : Nat}
    (given : w.permit i k = some v) : Attended n initial seats v := by
  obtain ⟨d, seated, rfl⟩ := Option.map_eq_some_iff.mp given
  have mem := List.mem_of_getElem? seated
  refine h.seat ⟨rfl, rfl, rfl⟩ rfl rfl ?_ { h.told with } { h.heard with }
    (h.served.set seated rfl ((h.served.desks d mem).permit k))
    (fun open_yet here => (h.isOpen open_yet here).set seated rfl) fun gone => ?_
  · show w.cut = if w.run.stop then w.cut else w.run.bus.history.size
    rw [h.cut, ite_self]
  · refine List.all_eq_true.mpr fun x hx => ?_
    rcases List.mem_or_eq_of_mem_set hx with old | rfl
    · exact List.all_eq_true.mp (h.left gone) x old
    · exact List.all_eq_true.mp (h.left gone) d mem

theorem Attended.queue (h : Attended n initial seats w) (queue deferred : List Task) :
    Attended n initial seats { w with run := { w.run with queue, deferred } } := by
  refine h.seat ⟨rfl, rfl, rfl⟩ rfl rfl ?_ { h.told with } { h.heard with } h.served h.isOpen h.left
  show w.cut = if w.run.stop then w.cut else w.run.bus.history.size
  rw [h.cut, ite_self]

/-! ## Schedules -/

theorem Attended.act (h : Attended n initial seats w) (up : initial + n ≤ counterMax)
    (down : counterMin ≤ initial - n) {d : Run.Deed} (act : w.act d = some v) :
    Attended n initial seats v := by
  obtain ⟨told, heard⟩ := sound_of_act h.told h.heard act
  obtain ⟨t, step, rfl⟩ := Option.map_eq_some_iff.mp act
  by_cases own : d = .move (.task .listener)
  · subst own
    rw [if_pos rfl] at told heard ⊢
    exact h.listen step rfl told heard
  · have beside := Run.beside_of_act h.told.listened step own
    rw [if_neg own] at told heard ⊢
    rcases d with ((_ | _ | e) | b) | e
    · exact h.work step rfl told heard
    · exact absurd rfl own
    · obtain ⟨unreported, recorded, es, tells⟩ := h.recorded.stepProducer step
      refine h.count recorded tells (fun reported => ?_) beside rfl told heard
      rw [unreported] at reported
      cases reported
    · obtain ⟨recorded, es, tells, silent⟩ := h.recorded.stepMain up down step
      exact h.count recorded tells silent beside rfl told heard
    · obtain ⟨ready, ⟨⟩⟩ := Option.ite_none_right_eq_some.mp step
      have recorded := h.recorded.takePlace (Bool.and_eq_true_iff.mp ready).1
      refine h.count recorded ?_ (fun _ => rfl) beside rfl told heard
      exact ⟨rfl, rfl⟩

/-- All that a schedule keeps. -/
structure Complete (n : Nat) (initial : Int) (seats : List Subscriber) (w : TracedListener) :
    Prop where
  attended : Attended n initial seats w
  whole : w.Whole
  gone : ∀ l, w.run.main = .returned (.counted l) → w.run.listener = .gone

theorem Complete.start {c : Config} {subscribers : List Subscriber} {size : SlotSize} {r : Run}
    (ring : 9 ≤ c.busCapacity)
    (able : ∀ s ∈ subscribers, (∀ e, s.meets e = .handled) ∧ 9 ≤ s.queueCapacity)
    (start : Run.start c (Team.orderlyActs c) subscribers size = .ok r) :
    Complete c.iterations c.initial (Run.seats subscribers) { run := r } := by
  obtain ⟨told, heard, whole, coordinating⟩ := TracedListener.start start
  obtain ⟨empty, room, audience⟩ := Run.fresh_of_start start
  have listening := Run.listener_of_start start
  have seats : ∀ s ∈ Run.seats subscribers, s.Able 9 := by
    intro s hs
    rcases List.mem_append.mp hs with user | roster
    · obtain ⟨calm, roomy⟩ := able s user
      exact ⟨calm, Nat.le_trans roomy (Nat.le_max_left _ _)⟩
    · rw [List.mem_singleton.mp roster]
      exact Subscriber.able_of_calm rfl (by decide)
  refine ⟨⟨.start start, told, heard, ?_, rfl, ?_, ?_, fun _ _ => ?_, fun gone => ?_⟩, whole,
    fun l returned => ?_⟩
  · unfold Config.busSlots at room
    show 9 ≤ r.bus.capacity
    omega
  · show 0 = r.bus.history.size
    rw [empty]
    rfl
  · show Audience.Served 9 _ [] r.audience
    rw [audience]
    exact .start seats
  · show r.audience.IsOpen
    rw [audience]
    exact .start _
  · rw [show r.listener = .gone from gone] at listening
    cases listening
  · rw [show r.main = .returned (.counted l) from returned] at coordinating
    cases coordinating

theorem Complete.perform (h : Complete n initial seats w) (up : initial + n ≤ counterMax)
    (down : counterMin ≤ initial - n) {d : Deed} (act : w.perform d = some v) :
    Complete n initial seats v := by
  cases d with
  | run d =>
    have whole := whole_of_act h.attended.told h.whole act
    obtain ⟨-, act⟩ := Option.ite_none_left_eq_some.mp act
    refine ⟨h.attended.act up down act, whole, ?_⟩
    obtain ⟨t, step, rfl⟩ := Option.map_eq_some_iff.mp act
    exact gone_of_act h.attended.told.listened step h.gone
  | permit i k =>
    have attended := h.attended.permit act
    obtain ⟨d, -, rfl⟩ := Option.map_eq_some_iff.mp act
    exact ⟨attended, { h.whole with }, h.gone⟩
  | queue queue deferred =>
    cases act
    exact ⟨h.attended.queue queue deferred, { h.whole with }, h.gone⟩

theorem Complete.follow (h : Complete n initial seats w) (up : initial + n ≤ counterMax)
    (down : counterMin ≤ initial - n) {deeds : List Deed}
    (schedule : SharedCounter.follow TracedListener.perform w deeds = some v) :
    Complete n initial seats v :=
  follow_invariant (fun _ _ _ act h => Complete.perform h up down act) schedule h

/-- When the count is returned, whoever has a seat has handled all that was published. -/
theorem Complete.hears (h : Complete n initial seats w) (up : initial + n ≤ counterMax)
    (down : counterMin ≤ initial - n) {l : Ledger}
    {wording : CrashWording} (result : w.run.result? wording = some (.returned (.ok l))) :
    Lifecycle n l w.run.published ∧ ∀ i s, seats[i]? = some s →
      w.run.audience[i]?.map Desk.subscriber = some s ∧ w.run.heard i = w.run.published := by
  obtain ⟨attended, whole, gone⟩ := h
  obtain ⟨returned, -⟩ := Run.result?_eq_ok_iff.mp result
  have left := gone l returned
  have everything : w.emitted = w.run.bus.history.toList := by
    have le := (whole.left (.inr left)).2
    rw [attended.cut] at le
    rw [attended.heard.eq_take attended.kept]
    exact List.take_of_length_le le
  refine ⟨attended.recorded.lifecycle up down (by rw [returned]; rfl), fun i s seat => ?_⟩
  have seated : w.run.audience[i]?.map Desk.subscriber = some s := by
    rw [← List.getElem?_map, attended.served.seats]
    exact seat
  refine ⟨seated, ?_⟩
  obtain ⟨d, hd, -⟩ := Option.map_eq_some_iff.mp seated
  have mem := List.mem_of_getElem? hd
  have ended := List.all_eq_true.mp (attended.left left) d mem
  have all := (attended.served.desks d mem).handled_eq (of_decide_eq_true ended)
  simp only [Run.heard, hd]
  rw [all, everything]
  rfl

/-- Every subscriber hears of the whole count, in the order in which it was published. However the
tasks take turns, as long as none of them moves between the two looks of the listener, and whatever
the capacities are, if the ring and the queues of the subscribers have room for nine events and no
subscriber panics: when a run returns a count, each subscriber has handled the nine events of its
lifecycle. Polls in any order are such turns (`Leads.polls`). -/
theorem hears_lifecycle {c : Config} {subscribers : List Subscriber} {size : SlotSize}
    {wording : CrashWording} {r₀ : Run} {deeds : List Deed}
    {l : Ledger} (up : c.initial + c.iterations ≤ counterMax)
    (down : counterMin ≤ c.initial - c.iterations) (ring : 9 ≤ c.busCapacity)
    (able : ∀ s ∈ subscribers, (∀ e, s.meets e = .handled) ∧ 9 ≤ s.queueCapacity)
    (start : Run.start c (Team.orderlyActs c) subscribers size = .ok r₀)
    (h : follow perform { run := r₀ } deeds = some w)
    (result : w.run.result? wording = some (.returned (.ok l))) :
    Lifecycle c.iterations l w.run.published ∧
    ∀ i s, subscribers[i]? = some s →
      w.run.audience[i]?.map Desk.subscriber = some s ∧ w.run.heard i = w.run.published := by
  have complete := (Complete.start ring able start).follow up down h
  obtain ⟨lifecycle, all⟩ := complete.hears up down result
  exact ⟨lifecycle, fun i s seat => all i s (Run.getElem?_seats seat)⟩

/-- Up to the edge of the range, with the smallest buffers. One subscriber has to be let through its
gate, and the other is the first to finish. -/
theorem hears_lifecycle_of_gated :
    let c : Config :=
      { iterations := 2, initial := counterMax - 2, signalCapacity := 0, completionCapacity := 0,
        busCapacity := 9 }
    let swift : Subscriber := { name := "swift", queueCapacity := 9 }
    let gated : Subscriber := { name := "gated", queueCapacity := 9, gated := true }
    let up : Deed := .run (.move (.task (.producer .increment)))
    let down : Deed := .run (.move (.task (.producer .decrement)))
    let main : Branch → Deed := fun b => .run (.move (.main b))
    let listen : Deed := .run (.move (.task .listener))
    let work : Nat → Deed := fun i => .run (.move (.task (.worker i)))
    let deeds := List.replicate 3 down ++ List.replicate 3 up ++ List.replicate 4 listen
      ++ [main (.signals .first), main (.signals .second)] ++ List.replicate 7 up
      ++ List.replicate 3 down ++ [main (.signals .first), main (.signals .first),
        main (.signals .second), main .completions] ++ List.replicate 5 down
      ++ [main (.signals .second)] ++ List.replicate 10 (main .completions)
      ++ List.replicate 10 listen ++ List.replicate 10 (work 0) ++ [work 1, .permit 1 9]
      ++ List.replicate 18 (work 1) ++ List.replicate 10 (work 2) ++ [listen, main .completions]
    ∃ r₀ w l, Run.start c (Team.orderlyActs c) [swift, gated] = .ok r₀ ∧
      follow perform { run := r₀ } deeds = some w ∧
      w.run.result? = some (.returned (.ok l)) ∧ Lifecycle 2 l w.run.published ∧
      w.run.heard 0 = w.run.published ∧ w.run.heard 1 = w.run.published := by
  intro c swift gated up down main listen work deeds
  let books : Ledger :=
    { value := counterMax - 2, increments := 2, decrements := 2, completions := 2 }
  have seen : ((Run.start c (Team.orderlyActs c) [swift, gated]).toOption.bind fun r =>
      (follow perform { run := r } deeds).map fun w =>
        (w.run.main, (w.run.team.crash? .unnumbered w.run.joined).isNone,
          (w.run.team.failure? w.run.joined).isNone))
      = some (.returned (.counted books), true, true) := by decide +kernel
  obtain ⟨r₀, started, followed⟩ := Option.bind_eq_some_iff.mp seen
  obtain ⟨w, h, same⟩ := Option.map_eq_some_iff.mp followed
  simp only [Prod.mk.injEq, Option.isNone_iff_eq_none] at same
  obtain ⟨returned, crash, failure⟩ := same
  have start := Run.start_of_toOption started
  have result := Run.result?_eq_ok_iff.mpr ⟨returned, crash, failure⟩
  have able : ∀ s ∈ [swift, gated], (∀ e, s.meets e = .handled) ∧ 9 ≤ s.queueCapacity := by
    simp [swift, gated, Subscriber.meets]
  obtain ⟨lifecycle, all⟩ :=
    hears_lifecycle (by decide) (by decide) (by decide) able start h result
  exact ⟨r₀, w, _, start, h, result, lifecycle, (all 0 swift rfl).2, (all 1 gated rfl).2⟩

/-- So it is when the tasks are polled one after the other, in any order. -/
theorem hears_lifecycle_when_polled {c : Config} {subscribers : List Subscriber}
    {size : SlotSize} {wording : CrashWording} {r₀ r : Run}
    {polls : List Run.Poll} {l : Ledger} (up : c.initial + c.iterations ≤ counterMax)
    (down : counterMin ≤ c.initial - c.iterations) (ring : 9 ≤ c.busCapacity)
    (able : ∀ s ∈ subscribers, (∀ e, s.meets e = .handled) ∧ 9 ≤ s.queueCapacity)
    (start : Run.start c (Team.orderlyActs c) subscribers size = .ok r₀)
    (h : follow Run.poll r₀ polls = some r)
    (result : r.result? wording = some (.returned (.ok l))) :
    Lifecycle c.iterations l r.published ∧
    ∀ i s, subscribers[i]? = some s →
      r.audience[i]?.map Desk.subscriber = some s ∧ r.heard i = r.published := by
  have listening := Run.listener_of_start start
  obtain ⟨deeds, w, schedule, rfl⟩ := Leads.polls (by rw [listening]; rintro ⟨⟩) h
  have complete := (Complete.start ring able start).follow up down schedule
  obtain ⟨lifecycle, all⟩ := complete.hears up down result
  exact ⟨lifecycle, fun i s seat => all i s (Run.getElem?_seats seat)⟩

end SharedCounter.TracedListener
