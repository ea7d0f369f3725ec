import SharedCounter.Proofs.Run.Change
import SharedCounter.Proofs.Simulation
import SharedCounter.Proofs.Team.Broadcast
import SharedCounter.Proofs.Team.Verdicts

/-!
# Runs that nobody listens to

* `Bare`, `Bare.act` : a team at its count and a main task that coordinates, joins the producers and
  returns. There is no bus, no listener and no audience;
* `Run.bare` : what a run shows when one looks away from those who listen. A main task that reports
  the counter or waits for the listener has nothing to do any more but to return;
* `Run.Happening`, `Run.happen` : a deed of a run, or any change of its bus, its reader, its listener
  and its audience;
* `Run.simulation` : a run and a bare run simulate each other;
* `Run.result?_bare` : a run returns what its bare run has, but for the names in lost completions;
* `Run.unobserved` : nobody who listens has a part in what a count comes to.
-/

namespace SharedCounter

/-! ## Results but for names -/

/-- The error without the names of the producers that are pending. -/
def RunError.nameless : RunError → RunError
  | .completionLost n _ => .completionLost n []
  | e => e

/-- The result without the names of the producers that are pending. -/
def Result.nameless : Result → Result
  | .returned (.error e) => .returned (.error e.nameless)
  | r => r

/-! ## Bare runs -/

/-- A count that nobody listens to. -/
structure Bare where
  team : Team
  main : MainStage := .coordinating
  /-- Producers that have ended, the first one first. -/
  joined : List Effect := []
  deriving DecidableEq, Repr

namespace Bare

/-- What can happen next. -/
inductive Move where
  | producer (e : Effect)
  /-- The turn of a producer ends before a send, which keeps its place. -/
  | takePlace (e : Effect)
  | main (b : Branch)
  deriving DecidableEq, Repr

def start (c : Config) (acts : Effect → List Act) : Bare := { team := .start c acts }

def stepProducer (r : Bare) (e : Effect) : Option Bare :=
  (r.team.step (.producer e)).map fun (team, _) =>
    if (team.producer e).ended then { r with team, joined := r.joined ++ [e] } else { r with team }

/-- One step of the main task. When every producer has joined it returns. -/
def stepMain (r : Bare) (b : Branch) : Option Bare :=
  match r.main with
  | .coordinating =>
    match r.team.coordinator.stage with
    | .ended .overflowed => some { r with main := .returned .overflowed }
    | .ended o => some { r with main := .joining o 0 }
    | _ => (r.team.step (.coordinator b)).map fun (team, _) => { r with team }
  | .joining o n =>
    if n < r.joined.length then some { r with main := .joining o (n + 1) }
    else if n = Effect.all.length then some { r with main := .returned o }
    else none
  | _ => none

def takePlace (r : Bare) (e : Effect) : Option Bare :=
  if (r.team.producer e).sends && (r.team.producer e).place.isNone then
    some { r with team := r.team.putProducer e (r.team.producerState e).takePlace }
  else none

def act (r : Bare) : Move → Option Bare
  | .producer e => r.stepProducer e
  | .takePlace e => r.takePlace e
  | .main b => r.stepMain b

/-- What is returned. Without a roster nobody knows the names of those that are pending. -/
def result? (r : Bare) (wording : CrashWording := .unnumbered) : Option Result :=
  match r.main with
  | .returned .overflowed => some (.panicked .sumOverflow)
  | .returned (.lost n) =>
    some (.returned (.error ((r.team.crash? wording r.joined).getD (.completionLost n []))))
  | .returned (.counted l) =>
    some (.returned (match r.team.crash? wording r.joined <|> r.team.failure? r.joined with
      | some e => .error e
      | none => .ok l))
  | _ => none

end Bare

/-! ## What a run shows -/

namespace MainStage

/-- The stage of the main task, for which only the listener counts once every producer has joined. -/
def settled : MainStage → MainStage
  | .stopping o | .awaiting o => .returned o
  | m => m

/-- Whether the main task still has to do with the count. -/
def busy : MainStage → Bool
  | .coordinating | .joining .. => true
  | _ => false

end MainStage

namespace Run

variable {r t : Run} {e : Effect} {b : Branch}

def bare (r : Run) : Bare := ⟨r.team, r.main.settled, r.joined⟩

/-- All that has to do with those who listen. -/
structure Observers where
  bus : Bus
  seq : Nat
  reader : Reader
  audience : Audience
  listener : ListenerStage

/-- What can happen to a run. -/
inductive Happening where
  | deed (d : Deed)
  /-- Those who listen come to be as in `o`, and whatever they have published is published. -/
  | observe (o : Observers)

def happen (r : Run) : Happening → Option Run
  | .deed d => r.act d
  | .observe o =>
    some { r with bus := o.bus, seq := o.seq, reader := o.reader, audience := o.audience,
                  listener := o.listener }

/-- The move of the bare run that is seen, if one is. -/
def seen (r : Run) : Happening → Option Bare.Move
  | .deed (.move (.task (.producer e))) => some (.producer e)
  | .deed (.takePlace e) => some (.takePlace e)
  | .deed (.move (.main b)) => if r.main.busy then some (.main b) else none
  | _ => none

theorem bare_start {c : Config} {acts : Effect → List Act} {subscribers : List Subscriber}
    {size : SlotSize} (h : Run.start c acts subscribers size = .ok r) : r.bare = .start c acts := by
  unfold Run.start at h
  split at h
  · cases h
  · split at h
    · cases h
    · cases h
      rfl

/-! ## Steps -/

theorem bare_stepProducer (r : Run) (e : Effect) :
    (r.stepProducer e).map bare = r.bare.stepProducer e := by
  unfold stepProducer Bare.stepProducer
  rw [Option.map_map]
  show (r.team.step (.producer e)).map _ = _
  congr 1
  funext ⟨team, es⟩
  show bare (if _ then _ else _) = _
  dsimp only
  split <;> rfl

theorem bare_takePlace (r : Run) (e : Effect) :
    (r.act (.takePlace e)).map bare = r.bare.takePlace e := by
  unfold act Bare.takePlace
  dsimp only
  rw [apply_ite (Option.map bare)]
  rfl

/-- Until every producer has joined, the main task does the same whether somebody listens or not. -/
theorem bare_stepMain (b : Branch) (busy : r.main.busy = true) :
    (r.stepMain b).map bare = r.bare.stepMain b := by
  have team : r.bare.team = r.team := rfl
  have joined : r.bare.joined = r.joined := rfl
  cases hm : r.main with
  | coordinating =>
    have same : r.bare.main = .coordinating := congrArg MainStage.settled hm
    simp only [stepMain, Bare.stepMain, hm, same, team]
    cases r.team.coordinator.stage with
    | ended o => cases o <;> rfl
    | _ =>
      rw [Option.map_map]
      rfl
  | joining o n =>
    have same : r.bare.main = .joining o n := congrArg MainStage.settled hm
    simp only [stepMain, Bare.stepMain, hm, same, joined]
    split
    · rfl
    · split <;> rfl
  | _ =>
    rw [hm] at busy
    cases busy

/-- Later the main task has to do with the listener only. -/
theorem bare_of_stepMain (late : r.main.busy = false) (h : r.stepMain b = some t) :
    t.bare = r.bare := by
  cases MainStep.of_step h with
  | stop stopping =>
    unfold bare
    rw [stopping]
    rfl
  | finish awaiting =>
    unfold bare
    rw [awaiting]
    rfl
  | serve early | overflow early | join early | hear early | report early =>
    rw [early] at late
    cases late

theorem busy_of_bare {v : Bare} (h : r.bare.stepMain b = some v) : r.main.busy = true := by
  cases hm : r.main with
  | coordinating => rfl
  | joining o n => rfl
  | stopping o | awaiting o | returned o =>
    have settled : r.bare.main = .returned o := congrArg MainStage.settled hm
    simp only [Bare.stepMain, settled] at h
    cases h

theorem SameCount.bare_eq (h : SameCount r t) : t.bare = r.bare := by
  unfold bare
  rw [h.team, h.main, h.joined]

theorem hidden_of_happen {d : Happening} (h : r.happen d = some t) (hidden : r.seen d = none) :
    t.bare = r.bare := by
  cases d with
  | observe o =>
    cases h
    rfl
  | deed d =>
    rcases d with ((i | _ | e) | b) | e
    · exact (stepWorker_same h).bare_eq
    · exact (stepListener_same h).bare_eq
    · cases hidden
    · refine bare_of_stepMain (Bool.eq_false_iff.mpr fun busy => ?_) h
      rw [seen, if_pos busy] at hidden
      cases hidden
    · cases hidden

theorem visible_of_happen {d : Happening} {m : Bare.Move} (h : r.happen d = some t)
    (hm : r.seen d = some m) : r.bare.act m = some t.bare := by
  cases d with
  | observe o => cases hm
  | deed d =>
    rcases d with ((i | _ | e) | b) | e
    · cases hm
    · cases hm
    · cases hm
      show r.bare.stepProducer e = _
      rw [← bare_stepProducer, show r.stepProducer e = some t from h]
      rfl
    · obtain ⟨busy, ⟨⟩⟩ := Option.ite_none_right_eq_some.mp hm
      show r.bare.stepMain b = _
      rw [← bare_stepMain b busy, show r.stepMain b = some t from h]
      rfl
    · cases hm
      show r.bare.takePlace e = _
      rw [← bare_takePlace, show r.act (.takePlace e) = some t from h]
      rfl

theorem lift_of_act {m : Bare.Move} {v : Bare} (h : r.bare.act m = some v) :
    ∃ d t, r.seen d = some m ∧ r.happen d = some t ∧ t.bare = v := by
  cases m with
  | producer e =>
    have step : r.bare.stepProducer e = some v := h
    rw [← bare_stepProducer] at step
    obtain ⟨t, ht, hv⟩ := Option.map_eq_some_iff.mp step
    exact ⟨.deed (.move (.task (.producer e))), t, rfl, ht, hv⟩
  | takePlace e =>
    have step : r.bare.takePlace e = some v := h
    rw [← bare_takePlace] at step
    obtain ⟨t, ht, hv⟩ := Option.map_eq_some_iff.mp step
    exact ⟨.deed (.takePlace e), t, rfl, ht, hv⟩
  | main b =>
    have step : r.bare.stepMain b = some v := h
    have busy := busy_of_bare step
    rw [← bare_stepMain b busy] at step
    obtain ⟨t, ht, hv⟩ := Option.map_eq_some_iff.mp step
    exact ⟨.deed (.move (.main b)), t, if_pos busy, ht, hv⟩

/-- A run and a bare run simulate each other. -/
theorem simulation : Simulation happen Bare.act bare seen where
  hidden _ _ _ h hidden := hidden_of_happen h hidden
  visible _ _ _ _ h seen := visible_of_happen h seen
  lift _ _ _ h := lift_of_act h

/-! ## Results -/

theorem nameless_of_crash? {s : Team} {wording : CrashWording} {joined : List Effect} {x : RunError}
    (h : s.crash? wording joined = some x) : x.nameless = x := by
  obtain ⟨e, m, -, -, rfl⟩ := Team.crash?_eq_some_iff.mp h
  rfl

theorem nameless_of_failure? {s : Team} {joined : List Effect} {x : RunError}
    (h : s.failure? joined = some x) : x.nameless = x := by
  obtain ⟨e, d, -, -, rfl⟩ := Team.failure?_eq_some_iff.mp h
  rfl

/-- A run returns what its bare run has, but for the names of the producers that are pending. -/
theorem result?_bare {wording : CrashWording} {x : Result} (h : r.result? wording = some x) :
    r.bare.result? wording = some x.nameless := by
  have team : r.bare.team = r.team := rfl
  have joined : r.bare.joined = r.joined := rfl
  unfold result? at h
  split at h
  next hm =>
    cases h
    have same : r.bare.main = .returned .overflowed := congrArg MainStage.settled hm
    simp only [Bare.result?, same, Result.nameless]
  next n hm =>
    cases h
    have same : r.bare.main = .returned (.lost n) := congrArg MainStage.settled hm
    simp only [Bare.result?, same, team, joined, Result.nameless]
    cases hc : r.team.crash? wording r.joined with
    | none => rfl
    | some e => rw [Option.getD_some, Option.getD_some, nameless_of_crash? hc]
  next l hm =>
    cases h
    have same : r.bare.main = .returned (.counted l) := congrArg MainStage.settled hm
    simp only [Bare.result?, same, team, joined]
    cases hc : r.team.crash? wording r.joined with
    | some e =>
      show _ = some (Result.nameless (.returned (.error e)))
      rw [Result.nameless, nameless_of_crash? hc]
      rfl
    | none =>
      cases hf : r.team.failure? r.joined with
      | some e =>
        show _ = some (Result.nameless (.returned (.error e)))
        rw [Result.nameless, nameless_of_failure? hf]
        rfl
      | none => rfl
  next => cases h

/-- Nobody who listens has a part in what a count comes to. Any network of producers and coordinators
takes the same steps with its buses and without them, whoever listens in whatever way; so does a count
with its main task. Schedules that differ only in what those do who listen lead to the same channels,
producers, coordinators and verdicts, every schedule without a bus is one with it, and what a run
returns is what it comes to when nobody listens, but for the names of the producers that are
pending when completions are lost. -/
theorem unobserved :
    Simulation Broadcast.act Network.act Broadcast.unheard
      (fun (_ : Broadcast) (d : Broadcast.Deed) => d.move?) ∧
    (∀ (s t : Broadcast) (deeds : List Broadcast.Deed), follow Broadcast.act s deeds = some t →
      follow Network.act s.unheard (deeds.filterMap Broadcast.Deed.move?) = some t.unheard) ∧
    (∀ (s : Broadcast) (n : Network) (moves : List Network.Move),
      follow Network.act s.unheard moves = some n →
      ∃ deeds t, follow Broadcast.act s deeds = some t ∧ t.unheard = n ∧
        deeds.filterMap Broadcast.Deed.move? = moves) ∧
    Simulation happen Bare.act bare seen ∧
    (∀ (c : Config) (acts : Effect → List Act) (subscribers : List Subscriber) (size : SlotSize)
      (r₀ r : Run) (happenings : List Happening), Run.start c acts subscribers size = .ok r₀ →
      follow happen r₀ happenings = some r →
      follow Bare.act (.start c acts) (shown happen seen r₀ happenings) = some r.bare ∧
        ∀ wording x, r.result? wording = some x →
          r.bare.result? wording = some x.nameless) ∧
    ∀ (c : Config) (acts : Effect → List Act) (subscribers : List Subscriber) (size : SlotSize)
      (r₀ : Run) (v : Bare) (moves : List Bare.Move),
      Run.start c acts subscribers size = .ok r₀ →
      follow Bare.act (.start c acts) moves = some v →
      ∃ happenings r, follow happen r₀ happenings = some r ∧ r.bare = v ∧
        shown happen seen r₀ happenings = moves := by
  refine ⟨Broadcast.simulation, fun s t deeds h => ?_, fun s n moves h => ?_, simulation,
    fun c acts subscribers size r₀ r happenings start h => ⟨?_, fun wording x => result?_bare⟩,
    fun c acts subscribers size r₀ v moves start h => ?_⟩
  · have moves := Broadcast.simulation.follow h
    rw [shown_eq_filterMap h] at moves
    exact moves
  · obtain ⟨deeds, t, run, hn, all⟩ := Broadcast.simulation.lift_follow h
    rw [shown_eq_filterMap run] at all
    exact ⟨deeds, t, run, hn, all⟩
  · rw [← bare_start start]
    exact simulation.follow h
  · rw [← bare_start start] at h
    exact simulation.lift_follow h

/-- One producer fails and the other ends without a completion. A subscriber dies of the first event,
but the roster has heard who is missing. -/
theorem unobserved_of_lost :
    let acts : Effect → List Act := fun e =>
      if e = .increment then [.announce .producerStarting none, .fail "signal"] else []
    let mute : Subscriber :=
      { name := "mute", queueCapacity := 0, panicsOn := [.producerStarting], panicMode := .eager }
    let deeds : List Deed := List.replicate 4 (.move (.task (.producer .increment)))
      ++ List.replicate 3 (.move (.task (.producer .decrement)))
      ++ List.replicate 7 (.move (.main .completions))
      ++ List.replicate 3 (.move (.task .listener))
      ++ [.move (.task (.worker 0)), .move (.task (.worker 1)), .move (.task (.worker 1)),
        .move (.task .listener), .move (.main .completions)]
    ∃ r₀ r moves, Run.start {} acts [mute] = .ok r₀ ∧
      follow happen r₀ (deeds.map .deed) = some r ∧
      r.result? = some (.returned (.error (.completionLost 2 ["incrementer"]))) ∧
      follow Bare.act (.start {} acts) moves = some r.bare ∧
      r.bare.result? = some (.returned (.error (.completionLost 2 []))) := by
  intro acts mute deeds
  have seen : ((Run.start {} acts [mute]).toOption.bind fun r =>
      (follow happen r (deeds.map .deed)).map fun r =>
        (r.main, r.team.crash? .unnumbered r.joined, r.pending))
      = some (.returned (.lost 2), none, ["incrementer"]) := by decide +kernel
  obtain ⟨r₀, started, followed⟩ := Option.bind_eq_some_iff.mp seen
  obtain ⟨r, h, same⟩ := Option.map_eq_some_iff.mp followed
  simp only [Prod.mk.injEq] at same
  obtain ⟨returned, crash, pending⟩ := same
  have result : r.result? = some (.returned (.error (.completionLost 2 ["incrementer"]))) := by
    simp only [result?, returned, crash, pending, Option.getD_none]
  have start := start_of_toOption started
  obtain ⟨-, -, -, -, runs, -⟩ := unobserved
  obtain ⟨moves, results⟩ := runs _ _ _ _ _ _ _ start h
  exact ⟨r₀, r, _, start, h, result, moves, results _ _ result⟩

end Run

end SharedCounter
