import SharedCounter.Proofs.Failure
import SharedCounter.Proofs.Run.Chronicle

/-!
# How failures combine in the result of a run

* `Run.Returns wording r x` : the ways in which a run returns `x`;
* `TracedMain`, `TracedMain.act` : a run with what each producer has sent in it and with the reports
  of the counter that its main task has published, and the team at each of them;
* `TracedMain.Sound` : the account of what was sent is sound, and a report comes when both producers
  have ended. Every deed keeps it (`Sound.act`);
* `TracedMain.Classified wording d x` : how `x` comes of what the producers did and the coordinator counted;
* `TracedMain.classifies` : whatever the producers do, a result is classified like that.
-/

namespace SharedCounter

namespace Run

variable {wording : CrashWording} {r : Run} {res : Except RunError Ledger}

/-- The ways in which a run returns. -/
inductive Returns (r : Run) (wording : CrashWording) : Except RunError Ledger → Prop where
  | crashed {o : Outcome} {x : RunError} (returned : r.main = .returned o) (fine : o ≠ .overflowed)
      (crash : r.team.crash? wording r.joined = some x) : Returns r wording (.error x)
  | lost {n : Nat} (returned : r.main = .returned (.lost n))
      (calm : r.team.crash? wording r.joined = none) :
      Returns r wording (.error (.completionLost n r.pending))
  | failed {l : Ledger} {x : RunError} (returned : r.main = .returned (.counted l))
      (calm : r.team.crash? wording r.joined = none)
      (failure : r.team.failure? r.joined = some x) : Returns r wording (.error x)
  | counted {l : Ledger} (returned : r.main = .returned (.counted l))
      (calm : r.team.crash? wording r.joined = none) (well : r.team.failure? r.joined = none) :
      Returns r wording (.ok l)

theorem Returns.of_result? (result : r.result? wording = some (.returned res)) :
    r.Returns wording res := by
  unfold result? at result
  split at result
  · cases result
  next n returned =>
    cases crash : r.team.crash? wording r.joined with
    | some x =>
      rw [crash] at result
      cases result
      exact .crashed returned (by rintro ⟨⟩) crash
    | none =>
      rw [crash] at result
      cases result
      exact .lost returned crash
  next l returned =>
    cases crash : r.team.crash? wording r.joined with
    | some x =>
      rw [crash] at result
      cases result
      exact .crashed returned (by rintro ⟨⟩) crash
    | none =>
      cases failure : r.team.failure? r.joined with
      | some x =>
        rw [crash, failure] at result
        cases result
        exact .failed returned crash failure
      | none =>
        rw [crash, failure] at result
        cases result
        exact .counted returned crash failure
  next => cases result

theorem Returns.exists_returned (h : r.Returns wording res) :
    ∃ o, r.main = .returned o ∧ o ≠ .overflowed := by
  cases h with
  | crashed returned fine => exact ⟨_, returned, fine⟩
  | lost returned | failed returned | counted returned => exact ⟨_, returned, by rintro ⟨⟩⟩

theorem Returns.crashed_iff (h : r.Returns wording res) (joined : ∀ e, e ∈ r.joined) :
    (∃ reason, res = .error (.producerPanicked reason)) ↔
      ∃ e m, (r.team.producer e).verdict = some (.crashed m) := by
  have nobody : r.team.crash? wording r.joined = none →
      ¬ ∃ e m, (r.team.producer e).verdict = some (.crashed m) :=
    fun calm ⟨e, m, verdict⟩ => Team.crash?_eq_none_iff.mp calm e (joined e) m verdict
  cases h with
  | crashed _ _ crash =>
    obtain ⟨e, m, -, verdict, rfl⟩ := Team.crash?_eq_some_iff.mp crash
    exact ⟨fun _ => ⟨e, m, verdict⟩, fun _ => ⟨_, rfl⟩⟩
  | lost _ calm | counted _ calm => exact ⟨by rintro ⟨_, ⟨⟩⟩, fun some => absurd some (nobody calm)⟩
  | failed _ calm failure =>
    obtain ⟨-, -, -, -, rfl⟩ := Team.failure?_eq_some_iff.mp failure
    exact ⟨by rintro ⟨_, ⟨⟩⟩, fun some => absurd some (nobody calm)⟩

theorem Returns.first_crash {reason : String}
    (h : r.Returns wording (.error (.producerPanicked reason))) :
    ∃ e m, r.team.First r.joined Verdict.Crashed e ∧
      (r.team.producer e).verdict = some (.crashed m) ∧ reason = wording e m := by
  cases h with
  | crashed _ _ crash =>
    obtain ⟨e, m, first, verdict, ⟨⟩⟩ := Team.crash?_eq_some_iff.mp crash
    exact ⟨e, m, first, verdict, rfl⟩
  | failed _ _ failure =>
    obtain ⟨-, -, -, -, ⟨⟩⟩ := Team.failure?_eq_some_iff.mp failure

theorem Returns.first_failure {cause : Disconnected}
    (h : r.Returns wording (.error (.producerFailed cause))) :
    ∃ e, r.team.First r.joined Verdict.Failed e ∧
      (r.team.producer e).verdict = some (.failed cause) := by
  cases h with
  | crashed _ _ crash =>
    obtain ⟨-, -, -, -, ⟨⟩⟩ := Team.crash?_eq_some_iff.mp crash
  | failed _ _ failure =>
    obtain ⟨e, d, first, verdict, ⟨⟩⟩ := Team.failure?_eq_some_iff.mp failure
    exact ⟨e, first, verdict⟩

theorem Returns.main_of_lost {n : Nat} {names : List String}
    (h : r.Returns wording (.error (.completionLost n names))) :
    r.main = .returned (.lost n) ∧ names = r.pending := by
  cases h with
  | crashed _ _ crash =>
    obtain ⟨-, -, -, -, ⟨⟩⟩ := Team.crash?_eq_some_iff.mp crash
  | lost returned => exact ⟨returned, rfl⟩
  | failed _ _ failure =>
    obtain ⟨-, -, -, -, ⟨⟩⟩ := Team.failure?_eq_some_iff.mp failure

theorem Returns.of_lost {n : Nat} (h : r.Returns wording res) (returned : r.main = .returned (.lost n))
    (calm : ∀ e m, (r.team.producer e).verdict ≠ some (.crashed m)) :
    res = .error (.completionLost n r.pending) := by
  cases h with
  | crashed _ _ crash =>
    obtain ⟨e, m, -, verdict, -⟩ := Team.crash?_eq_some_iff.mp crash
    exact absurd verdict (calm e m)
  | lost here =>
    rw [returned] at here
    cases here
    rfl
  | failed here | counted here =>
    rw [returned] at here
    cases here

theorem Returns.of_counted {l : Ledger} (h : r.Returns wording res)
    (returned : r.main = .returned (.counted l))
    (calm : ∀ e m, (r.team.producer e).verdict ≠ some (.crashed m)) :
    (∃ x, r.team.failure? r.joined = some x ∧ res = .error x) ∨
      r.team.failure? r.joined = none ∧ res = .ok l := by
  cases h with
  | crashed _ _ crash =>
    obtain ⟨e, m, -, verdict, -⟩ := Team.crash?_eq_some_iff.mp crash
    exact absurd verdict (calm e m)
  | lost here =>
    rw [returned] at here
    cases here
  | failed here _ failure => exact .inl ⟨_, failure, rfl⟩
  | counted here _ well =>
    rw [returned] at here
    cases here
    exact .inr ⟨well, rfl⟩

end Run

/-! ## Main tasks and their reports -/

/-- A run with what each producer has sent in it, and with the reports of the counter that the main
task has published, each with the team as it was then. -/
structure TracedMain where
  sends : TracedSends
  reports : List (Team × Event) := []

/-- A step of the main task. -/
def Run.Deed.isMain : Run.Deed → Bool
  | .move (.main _) => true
  | _ => false

namespace TracedMain

def run (d : TracedMain) : Run := d.sends.run

/-- How many completions the producers have got through. -/
def delivered (d : TracedMain) : Nat :=
  (d.sends.sent .increment).count .completion + (d.sends.sent .decrement).count .completion

/-- What is new on the bus of `t`, of the reports of the counter. -/
def newReports (r t : Run) : List Event :=
  (t.published.drop r.published.length).filter (·.kind = .counterReported)

/-- One deed, undefined where its task waits or has ended. -/
def act (d : TracedMain) (a : Run.Deed) : Option TracedMain :=
  (d.sends.act a).map fun sends =>
    { sends
      reports := d.reports
        ++ if a.isMain then (newReports d.run sends.run).map (d.run.team, ·) else [] }

theorem newReports_of_tells {r t : Run} {es : List Event} (tells : Run.Tells r t es)
    (listened : 0 < r.bus.listeners) :
    newReports r t = es.filter (·.kind = .counterReported) := by
  rw [newReports, tells.published listened, List.drop_left]

theorem quiet_of_change {s t : Coordinator.State} (change : s.Change t) (fresh : s.events = [])
    (fine : t.coordinator.outcome? ≠ some .overflowed) :
    t.events.filter (·.kind = .counterReported) = [] := by
  cases change with
  | overflow _ _ left => exact absurd (Coordinator.outcome?_of_leaving left) fine
  | completion | begin | finish => simp [Coordinator.State.note, fresh]
  | _ => simp [Coordinator.State.leave, fresh]

theorem filter_counterReport (o : Outcome) :
    (Run.counterReport o).filter (·.kind = .counterReported) = Run.counterReport o := by
  cases o <;> rfl

variable {initial : Int} {acts : Effect → List Act} {c : Config} {subscribers : List Subscriber}
  {size : SlotSize} {wording : CrashWording}
  {r₀ : Run} {d d' : TracedMain}

/-- The account of what was sent is sound, and what the main task has reported is the report that is due, which comes
when both producers have ended. -/
structure Sound (initial : Int) (acts : Effect → List Act) (d : TracedMain) : Prop where
  sends : d.sends.Sound initial acts
  listened : 0 < d.run.bus.listeners
  reports : d.run.team.coordinator.outcome? ≠ some .overflowed →
    d.reports.map Prod.snd = d.run.report
  late : d.run.team.coordinator.outcome? ≠ some .overflowed →
    ∀ p ∈ d.reports, ∀ e, (p.1.producer e).ended = true

theorem Sound.start (start : Run.start c acts subscribers size = .ok r₀) :
    Sound c.initial acts { sends := { run := r₀ } } := by
  obtain ⟨told, -, -, coordinating⟩ := TracedListener.start start
  refine ⟨.start start, told.listened, fun _ => ?_, fun _ p hp => by cases hp⟩
  have unreported : r₀.report = [] := Run.report_of_none (by rw [coordinating]; rfl)
  exact unreported.symm

theorem Sound.quiet {j : TracedSends} (h : Sound initial acts d) (sends : j.Sound initial acts)
    (listened : 0 < j.run.bus.listeners)
    (fine : j.run.team.coordinator.outcome? ≠ some .overflowed →
      d.run.team.coordinator.outcome? ≠ some .overflowed)
    (main : j.run.team.coordinator.outcome? ≠ some .overflowed →
      j.run.main.reported? = d.run.main.reported?) {new : List (Team × Event)}
    (nothing : j.run.team.coordinator.outcome? ≠ some .overflowed → new = []) :
    Sound initial acts ⟨j, d.reports ++ new⟩ := by
  refine ⟨sends, listened, fun still => ?_, fun still => ?_⟩
  · have due : j.run.report = d.run.report := by rw [Run.report, main still, Run.report]
    rw [nothing still, List.append_nil]
    exact (h.reports (fine still)).trans due.symm
  · rw [nothing still, List.append_nil]
    exact h.late (fine still)

/-- The main task reports the counter after it has joined both producers. -/
theorem Sound.report {j : TracedSends} {o : Outcome} (h : Sound initial acts d)
    (sends : j.Sound initial acts) (joining : d.run.main = .joining o Effect.all.length)
    (moved : j.run = { d.run.publish (Run.counterReport o) with main := .stopping o }) :
    Sound initial acts
      ⟨j, d.reports ++ (newReports d.run j.run).map (d.run.team, ·)⟩ := by
  have tells : Run.Tells d.run j.run (Run.counterReport o) := by
    rw [moved]
    exact ⟨rfl, rfl⟩
  have heard := h.sends.joins.heard
  rw [show d.sends.run.main = _ from joining] at heard
  have team : j.run.team = d.run.team := by rw [moved]; rfl
  have due : j.run.report = Run.counterReport o := by rw [moved]; rfl
  have before : d.run.report = [] := Run.report_of_none (by rw [joining]; rfl)
  rw [newReports_of_tells tells h.listened, filter_counterReport]
  refine ⟨sends, tells.listened h.listened, fun fine => ?_, fun fine p mem e => ?_⟩
  · have none_yet : d.reports.map Prod.snd = d.run.report := h.reports (team ▸ fine)
    show (d.reports ++ (Run.counterReport o).map (d.run.team, ·)).map Prod.snd = j.run.report
    rw [List.map_append, none_yet, before, due, List.map_map]
    exact List.map_id _
  · rcases List.mem_append.mp mem with old | new
    · exact h.late (team ▸ fine) p old e
    · obtain ⟨x, -, rfl⟩ := List.mem_map.mp new
      exact h.sends.joins.ended e (h.sends.joins.mem heard e)

theorem Sound.stepMain {b : Branch} {j : TracedSends} (h : Sound initial acts d)
    (step : d.run.stepMain b = some j.run) (sends : j.Sound initial acts)
    (listened : 0 < j.run.bus.listeners) :
    Sound initial acts ⟨j, d.reports ++ (newReports d.run j.run).map (d.run.team, ·)⟩ := by
  have goes_on : j.run.team = d.run.team → j.run.bus = d.run.bus →
      (j.run.team.coordinator.outcome? ≠ some .overflowed →
        j.run.main.reported? = d.run.main.reported?) →
      Sound initial acts ⟨j, d.reports ++ (newReports d.run j.run).map (d.run.team, ·)⟩ := by
    intro team bus main
    refine h.quiet sends listened (by rw [team]; exact id) main fun _ => ?_
    have nothing : newReports d.run j.run = [] := by
      rw [newReports, Run.published, Run.published, bus, List.drop_length]
      rfl
    rw [nothing, List.map_nil]
  obtain ⟨t, sent⟩ := j
  dsimp only at step goes_on ⊢
  cases Run.MainStep.of_step step with
  | @serve s es coordinating served =>
    obtain ⟨u, moved, ⟨⟩⟩ := Option.map_eq_some_iff.mp served
    have change := Coordinator.State.Change.of_step moved
    refine h.quiet sends listened change.fine (fun _ => rfl) fun fine => ?_
    have tells : Run.Tells d.run (Run.publish { d.run with team := d.run.team.putCoordinator u }
      u.events) u.events := ⟨rfl, rfl⟩
    rw [newReports_of_tells tells h.listened, quiet_of_change change rfl fine, List.map_nil]
  | overflow coordinating stands =>
    exact goes_on rfl rfl fun fine => absurd (Coordinator.outcome?_of_ended stands) fine
  | join early | hear early | stop early | finish early =>
    exact goes_on rfl rfl fun _ => (congrArg MainStage.reported? early).symm
  | report joining => exact h.report sends joining rfl

theorem Sound.act {a : Run.Deed} (h : Sound initial acts d) (act : d.act a = some d') :
    Sound initial acts d' := by
  obtain ⟨j, moved, rfl⟩ := Option.map_eq_some_iff.mp act
  have sends := h.sends.act moved
  obtain ⟨t, step, rfl⟩ := Option.map_eq_some_iff.mp moved
  have listened : 0 < t.bus.listeners := by
    rw [(Run.goes_of_act h.listened step).listeners]
    exact h.listened
  have beside : t.team.coordinator = d.run.team.coordinator → t.main = d.run.main →
      Sound initial acts ⟨⟨t, d.sends.sentAfter a⟩, d.reports ++ []⟩ := by
    intro coordinator main
    refine h.quiet sends listened (by rw [coordinator]; exact id) (fun _ => ?_) fun _ => rfl
    exact congrArg MainStage.reported? main
  rcases a with ((i | _ | e) | b) | e
  · have same := Run.stepWorker_same step
    exact beside (congrArg Team.coordinator same.team) same.main
  · have same := Run.stepListener_same step
    exact beside (congrArg Team.coordinator same.team) same.main
  · obtain ⟨u, -, team, main, -⟩ := Run.stepProducer_cases step
    exact beside (by rw [team, Team.coordinator_putProducer]; rfl) main
  · exact h.stepMain step sends listened
  · obtain ⟨-, ⟨⟩⟩ := Option.ite_none_right_eq_some.mp step
    exact beside (Team.coordinator_putProducer ..) rfl

/-! ## Results -/

/-- How the result `x` comes of what the producers did and the coordinator counted, when a crash is
told in the given wording. -/
structure Classified (wording : CrashWording) (d : TracedMain) (x : Except RunError Ledger) :
    Prop where
  ended : ∀ e, e ∈ d.run.joined ∧ (d.run.team.producer e).ended = true
  /-- A crash comes before everything else. -/
  crashed : (∃ reason, x = .error (.producerPanicked reason)) ↔
    ∃ e m, (d.run.team.producer e).verdict = some (.crashed m)
  /-- The panic of the producer that crashed first is told, and none with another message. -/
  first_crash : ∀ reason, x = .error (.producerPanicked reason) →
    ∃ e m, d.run.team.First d.run.joined Verdict.Crashed e ∧
      (d.run.team.producer e).verdict = some (.crashed m) ∧ reason = wording e m ∧
      ∀ m', wording e m' = reason → m' = m
  /-- Without a crash, completions are lost if fewer than two got through. -/
  lost : (∀ e m, (d.run.team.producer e).verdict ≠ some (.crashed m)) →
    ((∃ n names, x = .error (.completionLost n names)) ↔ d.delivered < 2)
  missing : ∀ n names, x = .error (.completionLost n names) →
    n + d.delivered = 2 ∧ d.run.team.coordinator.ledger.completions = d.delivered ∧
      d.run.team.inlets.completions.senders = 0
  /-- A failure comes last. -/
  failed : (∀ e m, (d.run.team.producer e).verdict ≠ some (.crashed m)) → 2 ≤ d.delivered →
    ((∃ cause, x = .error (.producerFailed cause)) ↔
      ∃ e cause, (d.run.team.producer e).verdict = some (.failed cause))
  first_failure : ∀ cause, x = .error (.producerFailed cause) →
    ∃ e, d.run.team.First d.run.joined Verdict.Failed e ∧
      (d.run.team.producer e).verdict = some (.failed cause)
  counted : (∀ e m, (d.run.team.producer e).verdict ≠ some (.crashed m)) → 2 ≤ d.delivered →
    (∀ e cause, (d.run.team.producer e).verdict ≠ some (.failed cause)) →
    ∃ l, x = .ok l ∧ d.run.team.coordinator.stage = .ended (.counted l)
  /-- The counter is reported once if the coordinator has counted, whatever the result is. -/
  reported : ∀ l, d.run.team.coordinator.stage = .ended (.counted l) →
    d.reports.map Prod.snd = [{ kind := .counterReported, phase := some .done,
                                value := some l.value, count := l.applied? }]
  unreported : ∀ n, d.run.team.coordinator.stage = .ended (.lost n) → d.reports = []
  late : ∀ p ∈ d.reports, ∀ e, (p.1.producer e).ended = true

theorem Sound.completions (h : Sound initial acts d) {o : Outcome}
    (ended : d.run.team.coordinator.stage = .ended o) (fine : o ≠ .overflowed) :
    (∃ l, o = .counted l ∧ 2 ≤ d.delivered) ∨ ∃ n, o = .lost n ∧ n + d.delivered = 2 ∧ 0 < n ∧
      d.run.team.coordinator.ledger.completions = d.delivered ∧
      d.run.team.inlets.completions.senders = 0 := by
  have outcome := Coordinator.outcome?_of_ended ended
  have still : d.sends.run.team.coordinator.outcome? ≠ some .overflowed := by
    show d.run.team.coordinator.outcome? ≠ some .overflowed
    rw [outcome]
    exact fun same => fine (Option.some.inj same)
  have books := (h.sends.accounts still).books
  cases o with
  | overflowed => exact absurd rfl fine
  | counted l =>
    obtain ⟨-, -, -, consumed, -⟩ := books.counted l outcome
    have all : l.completions = 2 := books.completions_eq outcome
    rw [all] at consumed
    exact .inl ⟨l, rfl, consumed⟩
  | lost n =>
    obtain ⟨missing, some_missing, consumed, gone⟩ := books.lost n outcome
    have countdown : d.run.team.coordinator.remaining
        + d.run.team.coordinator.ledger.completions = 2 := books.countdown
    have delivered : d.run.team.coordinator.ledger.completions = d.delivered := consumed
    rw [delivered] at countdown
    refine .inr ⟨n, rfl, ?_, some_missing, delivered, gone⟩
    rw [missing]
    exact countdown

theorem Sound.joined (h : Sound initial acts d) {o : Outcome} (returned : d.run.main = .returned o)
    (fine : o ≠ .overflowed) (e : Effect) : e ∈ d.run.joined := by
  have heard := h.sends.joins.heard
  rw [show d.sends.run.main = .returned o from returned] at heard
  refine h.sends.joins.mem ?_ e
  cases o with
  | overflowed => exact absurd rfl fine
  | counted | lost => exact heard

theorem Sound.reported (h : Sound initial acts d) {o : Outcome}
    (returned : d.run.main = .returned o) (fine : o ≠ .overflowed) :
    d.reports.map Prod.snd = Run.counterReport o ∧
      ∀ p ∈ d.reports, ∀ e, (p.1.producer e).ended = true := by
  have stands : d.run.team.coordinator.stage = .ended o :=
    h.sends.joins.outcome o (congrArg MainStage.outcome? returned)
  have still : d.run.team.coordinator.outcome? ≠ some .overflowed := by
    rw [Coordinator.outcome?_of_ended stands]
    exact fun same => fine (Option.some.inj same)
  refine ⟨?_, h.late still⟩
  rw [h.reports still, Run.report, returned]
  rfl

/-- A run that returns lost completions has lost those that did not get through. -/
theorem Sound.missing {n : Nat} {names : List String} (h : Sound initial acts d)
    (returns : d.run.Returns wording (.error (.completionLost n names))) :
    0 < n ∧ n + d.delivered = 2 ∧ d.run.team.coordinator.ledger.completions = d.delivered ∧
      d.run.team.inlets.completions.senders = 0 := by
  obtain ⟨returned, -⟩ := returns.main_of_lost
  have stands : d.run.team.coordinator.stage = .ended (.lost n) :=
    h.sends.joins.outcome _ (congrArg MainStage.outcome? returned)
  obtain ⟨_, ⟨⟩, -⟩ | ⟨_, ⟨⟩, missing, some_missing, consumed⟩ := h.completions stands nofun
  exact ⟨some_missing, missing, consumed⟩

theorem Sound.classified {x : Except RunError Ledger} (h : Sound initial acts d)
    (tells : wording.Tells) (returns : d.run.Returns wording x) : d.Classified wording x := by
  obtain ⟨o, returned, fine⟩ := returns.exists_returned
  have joined := h.joined returned fine
  have stands : d.run.team.coordinator.stage = .ended o :=
    h.sends.joins.outcome o (congrArg MainStage.outcome? returned)
  have completions := h.completions stands fine
  obtain ⟨reported, late⟩ := h.reported returned fine
  have counts : 2 ≤ d.delivered → ∃ l, o = .counted l := by
    intro enough
    rcases completions with ⟨l, same, -⟩ | ⟨n, -, missing, some_missing, -⟩
    · exact ⟨l, same⟩
    · omega
  refine {
    ended := fun e => ⟨joined e, h.sends.joins.ended e (joined e)⟩
    crashed := returns.crashed_iff joined
    first_crash := ?_, lost := fun calm => ⟨?_, fun few => ?_⟩, missing := ?_
    failed := fun calm enough => ⟨?_, ?_⟩, first_failure := ?_
    counted := fun calm enough well => ?_
    reported := fun l counted => ?_, unreported := fun n lost => ?_, late }
  · rintro reason rfl
    obtain ⟨e, m, first, verdict, rfl⟩ := returns.first_crash
    exact ⟨e, m, first, verdict, rfl, fun _ same => tells e same⟩
  · rintro ⟨n, names, rfl⟩
    have missing := h.missing returns
    omega
  · obtain ⟨l, -, enough⟩ | ⟨n, rfl, -⟩ := completions
    · omega
    · exact ⟨n, _, returns.of_lost returned calm⟩
  · rintro n names rfl
    exact (h.missing returns).2
  · rintro ⟨cause, rfl⟩
    obtain ⟨e, -, verdict⟩ := returns.first_failure
    exact ⟨e, cause, verdict⟩
  · rintro ⟨e, cause, verdict⟩
    obtain ⟨l, rfl⟩ := counts enough
    obtain ⟨x, failure, rfl⟩ | ⟨well, -⟩ := returns.of_counted returned calm
    · obtain ⟨-, cause, -, -, rfl⟩ := Team.failure?_eq_some_iff.mp failure
      exact ⟨cause, rfl⟩
    · exact absurd verdict (Team.failure?_eq_none_iff.mp well e (joined e) cause)
  · rintro cause rfl
    exact returns.first_failure
  · obtain ⟨l, rfl⟩ := counts enough
    obtain ⟨x, failure, -⟩ | ⟨-, rfl⟩ := returns.of_counted returned calm
    · obtain ⟨e, cause, -, verdict, -⟩ := Team.failure?_eq_some_iff.mp failure
      exact absurd verdict (well e cause)
    · exact ⟨l, rfl, stands⟩
  · rw [stands] at counted
    cases counted
    exact reported
  · rw [stands] at lost
    cases lost
    exact List.map_eq_nil_iff.mp reported

/-- Failures combine in a fixed order. Whatever the producers do, whoever listens and however the
tasks take turns: a run that returns is classified by its verdicts and by the completions that got
through, both producers have ended, and the counter is reported once if there is one. The runtime may
word a crash as it likes, as long as the message of the panic can be told from it. -/
theorem classifies {deeds : List Run.Deed} {x : Except RunError Ledger} (tells : wording.Tells)
    (start : Run.start c acts subscribers size = .ok r₀)
    (h : follow act { sends := { run := r₀ } } deeds = some d)
    (result : d.run.result? wording = some (.returned x)) : d.Classified wording x := by
  have sound : Sound c.initial acts d :=
    follow_invariant (fun _ _ _ act h => h.act act) h (.start start)
  exact sound.classified tells (.of_result? result)

/-- Both completions are counted before one producer fails and then the other crashes. The counter
is reported, and the crash is returned. -/
theorem classifies_of_late_crash :
    let acts : Effect → List Act
      | .increment => [.complete, .crash (some "late")]
      | .decrement => [.complete, .fail "signal"]
    let wording : CrashWording := .numbered fun e => if e = .increment then "14" else "15"
    let up : Run.Deed := .move (.task (.producer .increment))
    let down : Run.Deed := .move (.task (.producer .decrement))
    let main : Run.Deed := .move (.main .completions)
    let listen : Run.Deed := .move (.task .listener)
    let deeds := [up, down, main, main] ++ List.replicate 3 down ++ List.replicate 3 up
      ++ List.replicate 9 main ++ List.replicate 7 listen
      ++ List.replicate 6 (.move (.task (.worker 0))) ++ [listen, main]
    let reason := "task 14 panicked with message \"late\""
    wording.Tells ∧ ∃ r₀ d, Run.start {} acts [] = .ok r₀ ∧
      follow act { sends := { run := r₀ } } deeds = some d ∧
      d.run.result? wording = some (.returned (.error (.producerPanicked reason))) ∧
      d.Classified wording (.error (.producerPanicked reason)) ∧
      d.run.joined = [.decrement, .increment] ∧ d.delivered = 2 ∧
      d.reports.map Prod.snd = Run.counterReport (.counted { completions := 2 }) := by
  intro acts wording up down main listen deeds reason
  have tells : wording.Tells := CrashWording.tells_numbered _
  have seen : ((Run.start {} acts []).toOption.bind fun r =>
      (follow act { sends := { run := r } } deeds).map fun d =>
        (d.run.main, d.run.team.crash? wording d.run.joined, d.run.joined, d.delivered))
      = some (.returned (.counted { completions := 2 }), some (.producerPanicked reason),
          [.decrement, .increment], 2) := by
    decide +kernel
  obtain ⟨r₀, started, followed⟩ := Option.bind_eq_some_iff.mp seen
  obtain ⟨d, h, same⟩ := Option.map_eq_some_iff.mp followed
  simp only [Prod.mk.injEq] at same
  obtain ⟨returned, crash, joined, delivered⟩ := same
  have start := Run.start_of_toOption started
  have result : d.run.result? wording = some (.returned (.error (.producerPanicked reason))) := by
    rw [Run.result?, returned, crash]
    rfl
  have sound : Sound 0 acts d :=
    follow_invariant (fun _ _ _ act h => h.act act) h (.start start)
  exact ⟨tells, r₀, d, start, h, result, classifies tells start h result, joined, delivered,
    (sound.reported returned (by rintro ⟨⟩)).1⟩

end TracedMain

end SharedCounter
