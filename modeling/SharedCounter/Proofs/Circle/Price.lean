import Mathlib.Order.Monotone.Basic
import Mathlib.Algebra.BigOperators.Group.List.Basic
import Mathlib.Tactic.Ring
import SharedCounter.Proofs.Circle.Basic

/-!
# What can come of an event

* `Event.rank` : what a report tells of can itself be reported, but only so often. A refusal of a
  report of a panic is reported, and a refusal of that report is not;
* `Rates`, `Rates.price` : what can come of an event on the bus, where steps and reports count;
* `Subscriber.Calm` : a subscriber that does not panic while handling a report;
* `Rates.potential` : what can still come of all events that are under way in a circle. If all
  subscribers are calm, a deed is paid for by what it takes from that (`Rates.potential_act`),
  except that others publish;
* `Circle.cost_le` : so what others publish pays for all steps and reports of a schedule
  (`Circle.reported_le`).
-/

namespace SharedCounter

namespace Event

/-- How often an event can be reported, the report of it be reported, and so on. -/
def rank (e : Event) : Nat :=
  match e.kind with
  | .subscriberOverflow => 0
  | .subscriberPanicked => 1
  | _ => 2

@[simp]
theorem rank_overflow (subscriber cause : String) : (overflow subscriber cause).rank = 0 := rfl

@[simp]
theorem rank_panicked (subscriber message : String) : (panicked subscriber message).rank = 1 := rfl

theorem rank_le (e : Event) : e.rank ≤ 2 := by
  unfold rank
  split <;> decide

theorem rank_pos {e : Event} (heard : e.isOverflow = false) : 0 < e.rank := by
  unfold rank
  split
  next overflow => simp [isOverflow, overflow] at heard
  all_goals decide

end Event

/-! ## Prices -/

/-- What a step of a task and what a report counts. -/
structure Rates where
  step : Nat
  report : Nat

namespace Rates

variable (w : Rates) (n : Nat)

/-- What can come of the refusal of an event of that rank, or of a panic over it, where the report
is offered at `n` desks. -/
def cause : Nat → Nat
  | 0 => 0
  | k + 1 => w.report + (w.step + n * (3 * w.step + cause k))

/-- What can come of an event of that rank on the bus: it is found, and offered at each desk, where
it may be queued, taken up, and met. -/
def price (k : Nat) : Nat := w.step + n * (3 * w.step + w.cause n k)

theorem cause_succ (k : Nat) : w.cause n (k + 1) = w.report + w.price n k := rfl

theorem cause_mono : Monotone (w.cause n) := by
  refine monotone_nat_of_le_succ fun k => ?_
  induction k with
  | zero => exact Nat.zero_le _
  | succ k ih =>
    have more := Nat.mul_le_mul_left n (Nat.add_le_add_left ih (3 * w.step))
    rw [cause_succ, cause_succ, price, price]
    omega

theorem price_mono : Monotone (w.price n) := by
  intro k l le
  have more := Nat.mul_le_mul_left n (Nat.add_le_add_left (w.cause_mono n le) (3 * w.step))
  rw [price, price]
  omega

/-- The sum of `f` over the ranks of events. -/
def load (f : Nat → Nat) (es : List Stamped) : Nat := (es.map fun e => f e.event.rank).sum

variable {f : Nat → Nat} {es fs : List Stamped}

@[simp]
theorem load_nil : load f [] = 0 := rfl

@[simp]
theorem load_cons (e : Stamped) : load f (e :: es) = f e.event.rank + load f es := rfl

@[simp]
theorem load_append : load f (es ++ fs) = load f es + load f fs := by simp [load]

theorem load_drop_le (k : Nat) : load f (es.drop k) ≤ load f es := by
  have parts := congrArg (load f) (List.take_append_drop k es)
  rw [load_append] at parts
  omega

theorem load_drop_mono {j k : Nat} (le : j ≤ k) : load f (es.drop k) ≤ load f (es.drop j) := by
  rw [← Nat.add_sub_cancel' le, ← List.drop_drop]
  exact load_drop_le _

/-- What can come of what is queued and in hand at a desk. -/
def desk (d : Desk) : Nat :=
  load (2 * w.step + w.cause n ·) d.queue + load (w.step + w.cause n ·) d.inHand.toList
    + if d.duty = .working then w.step else 0

/-- What can come of reports that are published now, which count themselves. -/
def yield (es : List Event) : Nat := (es.map fun e => w.report + w.price n e.rank).sum

/-- An offer pays for the place in the queue, or for the report of the refusal. -/
theorem desk_offer (d : Desk) (e : Stamped) :
    w.desk n (d.offer e).1 + w.yield n (Audience.report d e.event (d.offer e).2).toList
      ≤ w.desk n d + (2 * w.step + w.cause n e.event.rank) := by
  have reported : ∀ r : Refusal, w.yield n (Audience.report d e.event (some r)).toList
      ≤ w.cause n e.event.rank := by
    intro r
    cases heard : e.event.isOverflow with
    | true => simp [Audience.report, heard, yield]
    | false =>
      have more : w.cause n 1 ≤ _ := w.cause_mono n (Event.rank_pos heard)
      simpa [Audience.report, heard, yield, cause_succ] using more
  unfold Desk.offer
  split
  next working =>
    split
    · simp [desk, Audience.report, yield]
      omega
    · have := reported .full
      dsimp only
      omega
  next ended =>
    have := reported .closed
    dsimp only
    omega

end Rates

/-! ## Calm subscribers -/

/-- Nobody with these ways panics while handling a report. -/
def CalmWays (panicsOn : List EventKind) (mode : PanicMode) : Prop :=
  mode = .eager ∨ .subscriberOverflow ∉ panicsOn ∧ .subscriberPanicked ∉ panicsOn

instance (panicsOn : List EventKind) (mode : PanicMode) : Decidable (CalmWays panicsOn mode) :=
  inferInstanceAs (Decidable (_ ∨ _))

/-- The subscriber does not panic while handling a report. -/
def Subscriber.Calm (s : Subscriber) : Prop := CalmWays s.panicsOn s.panicMode

instance (s : Subscriber) : Decidable s.Calm := inferInstanceAs (Decidable (CalmWays _ _))

theorem Subscriber.Calm.panic?_eq_none {s : Subscriber} (calm : s.Calm) {e : Event}
    (low : e.rank < 2) : (s.meets e).panic? = none := by
  unfold Subscriber.meets
  split
  next panics =>
    rcases calm with eager | ⟨overflow, panicked⟩
    · rw [eager]
      rfl
    · unfold Event.rank at low
      split at low <;> simp_all
  next => rfl

namespace Rates

variable (w : Rates) (n : Nat) {d : Desk} {e : Stamped} {t : Desk.State}

/-- A calm subscriber panics only over events that are no reports. -/
theorem desk_handle (calm : d.subscriber.Calm) :
    w.desk n (Desk.State.handle ⟨d, []⟩ e).desk + w.yield n (Desk.State.handle ⟨d, []⟩ e).events
      ≤ w.desk n d + w.cause n e.event.rank := by
  rw [Desk.handle_eq_of_panic]
  refine Nat.add_le_add_left ?_ (w.desk n d)
  cases panic : (d.subscriber.meets e.event).panic? with
  | none => simp [yield]
  | some text =>
    have high : 2 ≤ e.event.rank := by
      by_contra low
      rw [calm.panic?_eq_none (Nat.not_le.mp low)] at panic
      cases panic
    have more : w.cause n 2 ≤ _ := w.cause_mono n high
    simpa [yield, Desk.reportOf, cause_succ] using more

/-- A step of a worker pays for itself and for the report of the panic. -/
theorem desk_step (calm : d.subscriber.Calm) (step : Desk.State.step ⟨d, []⟩ = some t) :
    w.desk n t.desk + w.yield n t.events + w.step ≤ w.desk n d := by
  have working := Desk.working_of_step step
  cases Desk.Goes.of_step step with
  | @pass e in_hand =>
    let passed : Desk := { d with inHand := none, permits := d.permits - 1 }
    have paid := w.desk_handle n (d := passed) (e := e) calm
    have before : w.desk n d = w.desk n passed + (w.step + w.cause n e.event.rank) := by
      simp [desk, passed, in_hand]
      omega
    show w.desk n (Desk.State.handle ⟨passed, []⟩ e).desk
      + w.yield n (Desk.State.handle ⟨passed, []⟩ e).events + w.step ≤ _
    omega
  | die free queue fatal => simp [desk, free, working, yield]
  | wait free queue survives gated =>
    simp [desk, free, queue, working, yield]
    omega
  | @take e rest free queue survives ungated =>
    let taken : Desk := { d with queue := rest }
    have paid := w.desk_handle n (d := taken) (e := e) calm
    have before : w.desk n d = w.desk n taken + (2 * w.step + w.cause n e.event.rank) := by
      simp [desk, taken, queue]
      omega
    show w.desk n (Desk.State.handle ⟨taken, []⟩ e).desk
      + w.yield n (Desk.State.handle ⟨taken, []⟩ e).events + w.step ≤ _
    omega
  | leave free queue closed => simp [desk, free, queue, working, yield]

/-! ## The potential -/

/-- What can still come of what is on the bus from the reader on and of what is at the desks, with
the reports up to now. -/
def balance (m : TracedSession) (r : Reader) : Nat :=
  load (w.price n) (m.session.bus.history.toList.drop r.next)
    + (m.session.audience.map (w.desk n)).sum + w.report * m.reported

theorem load_stampFrom (seq : Nat) (es : List Event) :
    load (w.price n) (stampFrom seq es) = (es.map fun e => w.price n e.rank).sum := by
  conv_rhs => rw [← map_event_stampFrom seq es, List.map_map]
  rfl

theorem load_publishAll (b : Bus) (seq : Nat) (es : List Event) (r : Nat) :
    load (w.price n) ((b.publishAll seq es).history.toList.drop r)
      ≤ load (w.price n) (b.history.toList.drop r) + (es.map fun e => w.price n e.rank).sum := by
  rcases Nat.eq_zero_or_pos b.listeners with deserted | listened
  · rw [Bus.publishAll, Bus.foldl_publish_of_deserted deserted]
    exact Nat.le_add_right _ _
  · rw [Bus.publishAll, (Bus.foldl_publish listened _).1, List.drop_append, load_append,
      ← load_stampFrom]
    exact Nat.add_le_add_left (load_drop_le _) _

theorem yield_eq (es : List Event) :
    w.yield n es = w.report * es.length + (es.map fun e => w.price n e.rank).sum := by
  induction es with
  | nil => rfl
  | cons e es ih =>
    rw [yield, List.map_cons, List.sum_cons, ← yield, ih, List.length_cons, List.map_cons,
      List.sum_cons, Nat.mul_succ]
    omega

/-- Whatever others publish is paid for by the price of an event. -/
theorem sum_price_le (es : List Event) :
    (es.map fun e => w.price n e.rank).sum ≤ w.price n 2 * es.length := by
  induction es with
  | nil => exact Nat.zero_le _
  | cons e es ih =>
    have first : w.price n e.rank ≤ _ := w.price_mono n e.rank_le
    rw [List.map_cons, List.sum_cons, List.length_cons, Nat.mul_succ]
    omega

/-- Events are published, of which `k` are reports, and some desks have changed. -/
theorem balance_publish {m v : TracedSession} {es : List Event} {k : Nat}
    (bus : v.session.bus = m.session.bus.publishAll m.session.seq es)
    (reported : v.reported = m.reported + k) (r : Reader) :
    w.balance n v r + (m.session.audience.map (w.desk n)).sum
      ≤ w.balance n m r + (v.session.audience.map (w.desk n)).sum
        + (w.report * k + (es.map fun e => w.price n e.rank).sum) := by
  have published := w.load_publishAll n m.session.bus m.session.seq es r.next
  rw [balance, balance, bus, reported, Nat.mul_add]
  omega

end Rates

theorem sum_map_set {α : Type} (f : α → Nat) {l : List α} {i : Nat} {a : α} (h : l[i]? = some a)
    (b : α) : ((l.set i b).map f).sum + f a = (l.map f).sum + f b := by
  induction l generalizing i with
  | nil => cases h
  | cons x l ih =>
    cases i with
    | zero =>
      cases h
      simp only [List.set_cons_zero, List.map_cons, List.sum_cons]
      omega
    | succ i =>
      have rest := ih h
      simp only [List.set_cons_succ, List.map_cons, List.sum_cons]
      omega

namespace TracedSession

variable {m v : TracedSession}

/-- What desks tell are reports. -/
theorem counts_of_reports {α : Type} {es : List α} {f : α → Telling}
    (report : ∀ e, (f e).isReport) (told : v.told = m.told ++ es.map f) :
    v.reported = m.reported + es.length ∧ v.outside = m.outside := by
  have all : (es.map f).countP Telling.isReport = es.length := by
    simp [List.countP_eq_length.mpr, report]
  have others : (es.map f).countP (!·.isReport) = 0 := by
    simp [List.countP_eq_zero, report]
  constructor
  · rw [reported, reported, told, List.countP_append, all]
  · rw [outside, outside, told, List.countP_append, others, Nat.add_zero]

/-- What others tell are none. -/
theorem counts_of_others {es : List Event} (told : v.told = m.told ++ es.map .other) :
    v.reported = m.reported ∧ v.outside = m.outside + es.length := by
  have none : (es.map Telling.other).countP Telling.isReport = 0 := by
    simp [List.countP_eq_zero, Telling.isReport]
  have all : (es.map Telling.other).countP (!·.isReport) = es.length := by
    simp [List.countP_eq_length.mpr, Telling.isReport]
  constructor
  · rw [reported, reported, told, List.countP_append, none, Nat.add_zero]
  · rw [outside, outside, told, List.countP_append, all]

end TracedSession

/-- The steps of tasks of the circle that a deed beside the listener takes. -/
def Session.Deed.steps : Session.Deed → Nat
  | .work _ => 1
  | _ => 0

namespace Rates

variable (w : Rates) (n : Nat) {m v : TracedSession}

/-- An offer pays for what comes of it. -/
theorem balance_offerAt (m : TracedSession) (i : Nat) (e : Stamped) (r : Reader) :
    w.balance n (m.offerAt i e) r
        ≤ w.balance n m r + (2 * w.step + w.cause n e.event.rank) ∧
      (m.offerAt i e).outside = m.outside := by
  cases seated : m.session.audience[i]? with
  | none => simp [TracedSession.offerAt, seated]
  | some d =>
    let reports := (Audience.report d e.event (d.offer e).2).toList
    have told : (m.offerAt i e).told = m.told ++ reports.map (.desk i e) := by
      simp [TracedSession.offerAt, seated, reports]
    have bus : (m.offerAt i e).session.bus = m.session.bus.publishAll m.session.seq reports := by
      simp [TracedSession.offerAt, seated, Session.publish, reports]
    have audience : (m.offerAt i e).session.audience
        = m.session.audience.set i (d.offer e).1 := by
      simp [TracedSession.offerAt, seated, Session.publish]
    obtain ⟨reported, outside⟩ := TracedSession.counts_of_reports (fun _ => rfl) told
    have paid := w.balance_publish n bus reported r
    rw [← yield_eq] at paid
    have offered : w.desk n (d.offer e).1 + w.yield n reports ≤ _ := w.desk_offer n d e
    have seats := sum_map_set (w.desk n) seated (d.offer e).1
    rw [← audience] at seats
    exact ⟨by omega, outside⟩

/-- The gate of one desk is given permits, or its subscriber changes its ways. -/
theorem balance_onDesk (i : Nat) {f : Desk → Desk} (same : ∀ d, w.desk n (f d) = w.desk n d)
    (r : Reader) :
    w.balance n { m with session := m.session.onDesk i f } r = w.balance n m r := by
  have desks : (m.session.audience.modify i f).map (w.desk n)
      = m.session.audience.map (w.desk n) := by
    refine List.ext_getElem? fun j => ?_
    by_cases here : i = j <;> simp [here, Function.comp_def, same]
  simp only [balance, Session.onDesk, desks, TracedSession.reported]

/-- No deed beside the listener raises what can still come, except that others publish. -/
theorem balance_act {d : Session.Deed} (calm : ∀ k ∈ m.session.audience, k.subscriber.Calm)
    (beside : ∀ e, d ≠ .emit e) (act : m.act d = some v) (r : Reader) :
    w.balance n v r + w.step * d.steps + w.price n 2 * m.outside
      ≤ w.balance n m r + w.price n 2 * v.outside := by
  cases d with
  | emit e => exact absurd rfl (beside e)
  | work i =>
    obtain ⟨d, t, seated, step, session, told⟩ := TracedSession.of_work act
    have same := Desk.length_tells step
    obtain ⟨reported, outside⟩ := TracedSession.counts_of_reports (fun _ => rfl) told
    rw [same] at reported
    have paid := w.balance_publish n (congrArg Session.bus session) reported r
    have stepped := w.desk_step n (calm d (List.mem_of_getElem? seated)) step
    have seats := sum_map_set (w.desk n) seated t.desk
    have audience : v.session.audience = m.session.audience.set i t.desk := by
      rw [session]
      rfl
    rw [← audience] at seats
    rw [← yield_eq] at paid
    rw [outside, Session.Deed.steps, Nat.mul_one]
    omega
  | publish es =>
    obtain ⟨session, told⟩ := TracedSession.of_publish act
    obtain ⟨reported, outside⟩ := TracedSession.counts_of_others told
    have paid := w.balance_publish n (congrArg Session.bus session) (k := 0) reported r
    have price := w.sum_price_le n es
    have audience : v.session.audience = m.session.audience := by
      rw [session]
      rfl
    rw [audience] at paid
    rw [outside, Nat.mul_add]
    simp only [Session.Deed.steps, Nat.mul_zero] at paid ⊢
    omega
  | permit i k =>
    cases act
    have kept := w.balance_onDesk n (m := m) i (f := (·.permit k)) (fun _ => rfl) r
    exact Nat.add_le_add_right (Nat.le_of_eq kept) _
  | resolve i gated panicsOn mode =>
    cases act
    have kept := w.balance_onDesk n (m := m) i (f := (·.resolve gated panicsOn mode))
      (fun _ => rfl) r
    exact Nat.add_le_add_right (Nat.le_of_eq kept) _
  | shutdown =>
    cases act
    have desks : m.session.audience.close.map (w.desk n) = m.session.audience.map (w.desk n) := by
      rw [Audience.close, List.map_map]
      rfl
    show w.balance n { m with
      session := { m.session with audience := m.session.audience.close, isOpen := false } } r
        + w.price n 2 * m.outside ≤ _
    simp only [balance, desks, TracedSession.reported, TracedSession.outside]
    exact Nat.le_refl _

end Rates

namespace Circle

/-- The steps of tasks of the circle that a deed takes. -/
def Deed.steps : Deed → Nat
  | .hear | .offer => 1
  | .beside d => d.steps

/-- No subscriber comes to panic while handling a report. -/
def Deed.Calm : Deed → Prop
  | .beside (.resolve _ _ panicsOn mode) => CalmWays panicsOn mode
  | _ => True

/-- There are `n` desks, and no subscriber panics while handling a report. -/
structure Calm (n : Nat) (c : Circle) : Prop where
  size : c.traced.session.audience.length = n
  calm : ∀ k ∈ c.traced.session.audience, k.subscriber.Calm

variable {n : Nat} {c t : Circle}

theorem calm_set {desks : Audience} (h : ∀ k ∈ desks, k.subscriber.Calm) {d : Desk}
    (calm : d.subscriber.Calm) (i : Nat) : ∀ k ∈ desks.set i d, k.subscriber.Calm := by
  intro k hk
  rcases List.mem_or_eq_of_mem_set hk with old | rfl
  · exact h k old
  · exact calm

theorem calm_modify {desks : Audience} (h : ∀ k ∈ desks, k.subscriber.Calm) {f : Desk → Desk}
    (calm : ∀ d : Desk, d.subscriber.Calm → (f d).subscriber.Calm) (i : Nat) :
    ∀ k ∈ desks.modify i f, k.subscriber.Calm := by
  intro k hk
  obtain ⟨j, at_j⟩ := List.mem_iff_getElem?.mp hk
  rw [List.getElem?_modify] at at_j
  obtain ⟨d, seated, rfl⟩ := Option.map_eq_some_iff.mp at_j
  have before := h d (List.mem_of_getElem? seated)
  split
  · exact calm d before
  · exact before

theorem calm_of_act {d : Session.Deed} (calm : Deed.Calm (.beside d)) {m v : TracedSession}
    (other : ∀ e, d ≠ .emit e) (act : m.act d = some v)
    (h : ∀ k ∈ m.session.audience, k.subscriber.Calm) :
    ∀ k ∈ v.session.audience, k.subscriber.Calm := by
  cases d with
  | emit e => exact absurd rfl (other e)
  | work i =>
    obtain ⟨d, t, seated, step, session, -⟩ := TracedSession.of_work act
    rw [session]
    refine calm_set h ?_ i
    rw [Desk.subscriber_of_step step]
    exact h d (List.mem_of_getElem? seated)
  | publish es =>
    cases act
    exact h
  | permit i k =>
    cases act
    exact calm_modify h (f := (·.permit k)) (fun _ before => before) i
  | resolve i gated panicsOn mode =>
    cases act
    exact calm_modify h (f := (·.resolve gated panicsOn mode)) (fun _ _ => calm) i
  | shutdown =>
    cases act
    intro k hk
    obtain ⟨d, hd, rfl⟩ := List.mem_map.mp hk
    exact h d hd

theorem Calm.act {d : Deed} (calm : d.Calm) (act : c.act d = some t) (h : c.Calm n) :
    t.Calm n := by
  refine ⟨(size_of_act act).trans h.size, ?_⟩
  cases Step.of_act act with
  | hear | lag => exact h.calm
  | @offer i e rest due =>
    cases seated : c.traced.session.audience[i]? with
    | none => simpa [TracedSession.offerAt, seated] using h.calm
    | some d =>
      have same : (d.offer e).1.subscriber.Calm := by
        rw [Desk.subscriber_offer]
        exact h.calm d (List.mem_of_getElem? seated)
      simpa [TracedSession.offerAt, seated, Session.publish] using calm_set h.calm same i
  | beside allowed done => exact calm_of_act calm (ne_emit_of_allows allowed) done h.calm

end Circle

namespace Rates

variable (w : Rates) {n : Nat} {c t : Circle}

/-- What can still come of all that is under way in a circle, with the reports up to now. -/
def potential (n : Nat) (c : Circle) : Nat :=
  w.balance n c.traced c.reader
    + (c.offers.map fun x => 3 * w.step + w.cause n x.2.event.rank).sum

/-- A deed is paid for by what can still come before it, and by what others publish. -/
theorem potential_act {d : Circle.Deed} (h : c.Calm n) (act : c.act d = some t) :
    w.potential n t + w.step * d.steps + w.price n 2 * c.traced.outside
      ≤ w.potential n c + w.price n 2 * t.traced.outside := by
  cases Circle.Step.of_act act with
  | @hear e isOpen idle kept found =>
    have first := drop_of_getElem? (Array.getElem?_toList.trans found)
    have offers : ((List.range c.traced.session.audience.length).map fun _ =>
        3 * w.step + w.cause n e.event.rank).sum
          = n * (3 * w.step + w.cause n e.event.rank) := by
      simp [h.size]
    have paid : w.balance n c.traced c.reader
        = w.balance n { c.traced with emitted := c.traced.emitted ++ [e] } ⟨c.reader.next + 1⟩
          + w.price n e.event.rank := by
      simp only [balance, first, load_cons, TracedSession.reported]
      omega
    simp only [potential, idle, paid, price, List.map_map, Function.comp_def, offers,
      TracedSession.outside, Circle.Deed.steps, List.map_nil, List.sum_nil]
    omega
  | lag isOpen idle behind =>
    have inside := Nat.lt_of_lt_of_le behind c.traced.session.bus.oldest_le
    have first := List.drop_eq_getElem_cons (l := c.traced.session.bus.history.toList) inside
    have rest : load (w.price n)
          (c.traced.session.bus.history.toList.drop c.traced.session.bus.oldest)
        ≤ load (w.price n) (c.traced.session.bus.history.toList.drop (c.reader.next + 1)) :=
      load_drop_mono behind
    simp only [potential, balance, first, load_cons, price, Circle.Deed.steps] at rest ⊢
    omega
  | @offer i e rest due =>
    obtain ⟨paid, outside⟩ := w.balance_offerAt n c.traced i e c.reader
    rw [outside]
    simp only [potential, due, List.map_cons, List.sum_cons, Circle.Deed.steps]
    omega
  | beside allowed done =>
    have paid := w.balance_act n h.calm (Circle.ne_emit_of_allows allowed) done c.reader
    simp only [potential, Circle.Deed.steps]
    omega

theorem potential_follow {ds : List Circle.Deed} (h : c.Calm n) (calm : ∀ d ∈ ds, d.Calm)
    (run : follow Circle.act c ds = some t) :
    w.potential n t + w.step * (ds.map Circle.Deed.steps).sum + w.price n 2 * c.traced.outside
      ≤ w.potential n c + w.price n 2 * t.traced.outside := by
  induction ds generalizing c with
  | nil =>
    cases run
    exact Nat.le_refl _
  | cons d ds ih =>
    rw [follow_cons] at run
    obtain ⟨u, act, rest⟩ := Option.bind_eq_some_iff.mp run
    have now := w.potential_act h act
    have later := ih (Circle.Calm.act (calm d List.mem_cons_self) act h)
      (fun x hx => calm x (List.mem_cons_of_mem _ hx)) rest
    rw [List.map_cons, List.sum_cons, Nat.mul_add]
    omega

theorem potential_start {subscribers : List Subscriber} {bus : Bus} {seq : Nat} {c : Circle}
    (opened : Circle.start subscribers bus seq = some c) :
    w.potential subscribers.length c = subscribers.length * w.step ∧ c.traced.outside = 0 := by
  obtain rfl := Circle.eq_of_start opened
  refine ⟨?_, rfl⟩
  have read : bus.history.toList.drop bus.history.size = [] := List.drop_of_length_le (by simp)
  simp [potential, balance, read, desk, TracedSession.reported, Function.comp_def]

end Rates

namespace Circle

theorem Calm.start {subscribers : List Subscriber} {bus : Bus} {seq : Nat} {c : Circle}
    (opened : Circle.start subscribers bus seq = some c) (calm : ∀ s ∈ subscribers, s.Calm) :
    c.Calm subscribers.length := by
  obtain rfl := eq_of_start opened
  refine ⟨List.length_map _, fun k hk => ?_⟩
  obtain ⟨s, hs, rfl⟩ := List.mem_map.mp hk
  exact calm s hs

/-- What steps and reports cost is paid for by what others publish. -/
theorem cost_le {subscribers : List Subscriber} {bus : Bus} {seq : Nat} {c₀ c : Circle}
    {deeds : List Deed} (opened : start subscribers bus seq = some c₀)
    (atStart : ∀ s ∈ subscribers, s.Calm) (calm : ∀ d ∈ deeds, d.Calm)
    (run : follow act c₀ deeds = some c) (w : Rates) :
    w.report * c.traced.reported + w.step * (deeds.map Deed.steps).sum
      ≤ subscribers.length * w.step + w.price subscribers.length 2 * c.traced.outside := by
  obtain ⟨potential, outside⟩ := w.potential_start opened
  have paid := w.potential_follow (Calm.start opened atStart) calm run
  have reports : w.report * c.traced.reported ≤ w.potential subscribers.length c := by
    rw [Rates.potential, Rates.balance]
    omega
  rw [potential, outside] at paid
  omega

/-- Reports are bounded by what others publish: at `n` desks, a refusal or a panic over an event can
be reported `n` times, and the report of a panic can be refused `n` times. -/
theorem reported_le {subscribers : List Subscriber} {bus : Bus} {seq : Nat} {c₀ c : Circle}
    {deeds : List Deed} (opened : start subscribers bus seq = some c₀)
    (atStart : ∀ s ∈ subscribers, s.Calm) (calm : ∀ d ∈ deeds, d.Calm)
    (run : follow act c₀ deeds = some c) :
    let n := subscribers.length
    c.traced.reported ≤ c.traced.outside * n * (1 + n) := by
  intro n
  have reports := cost_le opened atStart calm run { step := 0, report := 1 }
  simp only [Rates.price, Rates.cause, Nat.mul_zero, Nat.zero_mul, Nat.mul_one, Nat.one_mul,
    Nat.zero_add, Nat.add_zero] at reports
  calc c.traced.reported ≤ n * (1 + n) * c.traced.outside := reports
    _ = c.traced.outside * n * (1 + n) := by ring

end Circle

end SharedCounter
