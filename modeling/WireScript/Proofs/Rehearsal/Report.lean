import WireScript.Proofs.Rehearsal.Schedule
import WireScript.Rehearsal.Watched

set_option autoImplicit false

namespace WireScript.Rehearsal.Run

open Party (Actor Plan Step)
open Rendezvous (Terminal)
open Replay (Config Player)

def scene (r : Run) : Scene :=
  { part := match r.stage with
      | .playing player => .inl player
      | .joining _ => .inr (.ok ())
    iut := r.iut
    ending := r.ending
    link := r.link }

structure Follows (start : Scene) (r : Run) (p : Player) : Prop where
  untimed : r.config.timeout = none
  playing : r.stage = .playing p
  there : ∃ order, start.run order = r.scene
  going : r.turn = .iut → r.ending = none

def Good (start : Scene) (r : Run) : Prop :=
  (∃ p, r.Follows start p) ∨
    (∃ deadline, r.stage = .joining deadline) ∧
      ∃ order, (start.run order).verdict? = some (.ok ())

def Told (start : Scene) : Outcome → Prop
  | .passed | .panicked _ => ∃ order, (start.run order).verdict? = some (.ok ())
  | .failed fault => ∃ order, (start.run order).verdict? = some (.error fault)
  | .timedOut _ _ | .clockOverflow | .stalled => True

def Honest (start : Scene) : Run ⊕ Report → Prop
  | .inl r => r.Good start
  | .inr report => Told start report.outcome

variable {start : Scene} {r : Run} {p : Player}

theorem honest_join (passed : ∃ order, (start.run order).verdict? = some (.ok ()))
    (deadline : Nat) : Honest start (r.join deadline) := by
  unfold join
  split
  · exact passed
  · exact passed
  · split
    · exact passed
    · exact .inr ⟨⟨deadline, rfl⟩, passed⟩

theorem scene_stepIut (steady : r.iut.Steady) (going : r.ending = none) :
    r.stepIut.scene = r.scene.poll .iut := by
  -- The clock is of no concern to a steady actor.
  have same : r.iut.step iutTask r.now r.credit (⟨r.link⟩ : Terminal .b) =
      r.iut.step iutTask 0 Party.timersPerTurn (⟨r.link⟩ : Terminal .b) := by
    rw [Actor.step_eq_run_turn, Actor.step_eq_run_turn, steady.turn_eq 0 Party.timersPerTurn]
  simp only [stepIut, same, Scene.poll, scene, going]
  rcases r.iut.step iutTask 0 Party.timersPerTurn (⟨r.link⟩ : Terminal .b) with
    ⟨status, iut, terminal⟩
  cases status <;> simp [withLink, Scene.withIut, Party.Status.ending?]

theorem stage_stepIut (r : Run) : r.stepIut.stage = r.stage := by
  unfold stepIut
  rcases r.iut.step iutTask r.now r.credit (⟨r.link⟩ : Terminal .b) with ⟨status, iut, terminal⟩
  cases status <;> simp [withLink]

def terms (r : Run) : Clock × Config := (r.clock, r.config)

theorem terms_stepIut (r : Run) : r.stepIut.terms = r.terms := by
  unfold stepIut
  rcases r.iut.step iutTask r.now r.credit (⟨r.link⟩ : Terminal .b) with ⟨status, iut, terminal⟩
  cases status <;> simp [withLink, terms]

theorem ending_stepIut (going : r.ending = none) (turn : r.stepIut.turn = .iut) :
    r.stepIut.ending = none := by
  revert turn
  unfold stepIut
  rcases r.iut.step iutTask r.now r.credit (⟨r.link⟩ : Terminal .b) with ⟨status, iut, terminal⟩
  cases status <;> simp [withLink, going]

theorem Follows.stepIut (follows : r.Follows start p) (orderly : start.Orderly)
    (turn : r.turn = .iut) : r.stepIut.Follows start p := by
  obtain ⟨order, there⟩ := follows.there
  have going := follows.going turn
  have tidy := orderly.run order p (by rw [there]; simp [scene, follows.playing])
  rw [there] at tidy
  refine ⟨(congrArg (·.2.timeout) (terms_stepIut r)).trans follows.untimed,
    (stage_stepIut r).trans follows.playing, ⟨order ++ [.iut], ?_⟩, ending_stepIut going⟩
  rw [Scene.run_append, there, scene_stepIut (tidy.steady going) going]
  rfl

theorem Follows.stepPlayer (follows : r.Follows start p) (turn : r.turn = .player) :
    Honest start (r.stepPlayer p) := by
  obtain ⟨order, there⟩ := follows.there
  have next : start.run (order ++ [.player]) = r.scene.poll .player := by
    rw [Scene.run_append, there]
    rfl
  have polled : r.scene.poll .player =
      r.scene.withPlayer (p.step playerTask (⟨r.link⟩ : Terminal .a)).1
        (p.step playerTask (⟨r.link⟩ : Terminal .a)).2.link := by
    simp only [Scene.poll, scene, follows.playing]
  have untimed := follows.untimed
  rw [polled] at next
  unfold Run.stepPlayer
  generalize p.step playerTask (⟨r.link⟩ : Terminal .a) = result at next
  rcases result with ⟨running | waiting | (fault | _), terminal⟩
  · refine .inl ⟨running, untimed, rfl, ⟨order ++ [.player], next⟩, ?_⟩
    simp [withLink, turn]
  · simp only [pause, withLink, untimed]
    exact .inl ⟨waiting, untimed, rfl, ⟨order ++ [.player], next⟩, by simp⟩
  · exact ⟨order ++ [.player], by rw [next]; rfl⟩
  · have passed : ∃ order, (start.run order).verdict? = some (.ok ()) :=
      ⟨order ++ [.player], by rw [next]; rfl⟩
    simp only
    split
    · exact honest_join passed _
    · trivial

theorem dispatch_cases (nobody : r.turn = .nobody) :
    (∃ r', r.dispatch = .inl r' ∧ r'.scene = r.scene ∧ r'.terms = r.terms ∧ r'.stage = r.stage ∧
      (r'.turn = .iut → r'.ending = none)) ∨
    ∃ report, r.dispatch = .inr report ∧ report.outcome = .stalled := by
  -- Whose turn it is does not come into the scene, and neither does the time.
  unfold dispatch
  split
  · exact .inl ⟨_, rfl, rfl, rfl, rfl, by simp⟩
  · split
    · rename_i ready
      refine .inl ⟨_, rfl, rfl, rfl, rfl, ?_⟩
      simp_all
    · unfold Run.sleep
      split
      · exact .inr ⟨_, rfl, rfl⟩
      · exact .inl ⟨_, rfl, rfl, rfl, rfl, by simp [nobody]⟩

theorem Good.step (good : r.Good start) (orderly : start.Orderly) : Honest start r.step := by
  unfold Run.step
  obtain ⟨p, follows⟩ | ⟨⟨deadline, joining⟩, passed⟩ := good
  · cases turn : r.turn with
    | nobody =>
      obtain ⟨r', next, scene, terms, stage, going⟩ | ⟨report, next, stalled⟩ :=
        dispatch_cases (r := r.tick) turn
      · simp only [next]
        exact .inl ⟨p, (congrArg (·.2.timeout) terms).trans follows.untimed,
          stage.trans follows.playing, scene ▸ follows.there, going⟩
      · simp [next, Honest, Told, stalled]
    | iut => exact .inl ⟨p, follows.stepIut orderly turn⟩
    | player =>
      simp only [follows.playing]
      exact follows.stepPlayer turn
  · cases turn : r.turn with
    | nobody =>
      obtain ⟨r', next, -, -, stage, -⟩ | ⟨report, next, stalled⟩ :=
        dispatch_cases (r := r.tick) turn
      · simp only [next]
        exact .inr ⟨⟨deadline, stage.trans joining⟩, passed⟩
      · simp [next, Honest, Told, stalled]
    | iut => exact .inr ⟨⟨deadline, (stage_stepIut r).trans joining⟩, passed⟩
    | player =>
      simp only [joining]
      exact honest_join passed deadline

theorem Good.watch (good : r.Good start) (orderly : start.Orderly) : Honest start r.watch := by
  have honest := good.step orderly
  unfold Run.watch
  split
  · rename_i next
    rw [next] at honest
    split
    · trivial
    · exact honest
  · rename_i next
    rw [next] at honest
    exact honest

theorem Good.finish (good : r.Good start) (orderly : start.Orderly) (limit : Nat) :
    Told start (r.finish limit).outcome := by
  -- A rehearsal that is out of steps says nothing of the player.
  induction limit generalizing r with
  | zero => trivial
  | succ limit ih =>
    have honest := good.watch orderly
    unfold Run.finish
    split
    · rename_i next
      rw [next] at honest
      exact ih honest
    · rename_i next
      rw [next] at honest
      exact honest

theorem follows_start (clock : Clock) (growth : Wire.Growth) {config : Config}
    (untimed : config.timeout = none) (t : Transcript) (plan : Plan) :
    (Run.start clock growth config t plan).Follows (.start growth config t plan)
      (.start growth config t) where
  untimed := untimed
  playing := rfl
  there := ⟨[], rfl⟩
  going := by simp [Run.start]

end WireScript.Rehearsal.Run

namespace WireScript.Rehearsal

open Party (Plan Step)
open Replay (Config Fault)

theorem told_rehearse {config : Config} (untimed : config.timeout = none) (t : Transcript)
    (steps : List Step) (keepGoing : Bool) (basic : ∀ step ∈ steps, step.isBasic) :
    Run.Told (.start .standard config t (.ofSteps keepGoing steps))
      (rehearse config t steps keepGoing).outcome := by
  have orderly := Scene.orderly_start .standard config t
    (Plan.sequential_ofSteps keepGoing steps basic)
  have good : (Run.start (.paused (.ofSecs 1)) .standard config t (.ofSteps keepGoing steps)).Good
      (.start .standard config t (.ofSteps keepGoing steps)) :=
    .inl ⟨_, Run.follows_start _ _ untimed t _⟩
  exact good.finish orderly _

theorem rehearse_failed {config : Config} (untimed : config.timeout = none) (t : Transcript)
    (steps : List Step) (keepGoing : Bool) (basic : ∀ step ∈ steps, step.isBasic) {fault : Fault}
    (failed : (rehearse config t steps keepGoing).outcome = .failed fault) {other : List Role}
    (settled : ((Scene.start .standard config t (.ofSteps keepGoing steps)).run other).Settled) :
    ((Scene.start .standard config t (.ofSteps keepGoing steps)).run other).verdict? =
      some (.error fault) := by
  have told := told_rehearse untimed t steps keepGoing basic
  rw [failed] at told
  obtain ⟨order, done⟩ := told
  have orderly := Scene.orderly_start .standard config t
    (Plan.sequential_ofSteps keepGoing steps basic)
  exact settled.verdict?_of_run orderly done

theorem rehearse_passed {config : Config} (untimed : config.timeout = none) (t : Transcript)
    (steps : List Step) (keepGoing : Bool) (basic : ∀ step ∈ steps, step.isBasic)
    (passed : (rehearse config t steps keepGoing).outcome = .passed) {other : List Role}
    (settled : ((Scene.start .standard config t (.ofSteps keepGoing steps)).run other).Settled) :
    ((Scene.start .standard config t (.ofSteps keepGoing steps)).run other).verdict? =
      some (.ok ()) := by
  have told := told_rehearse untimed t steps keepGoing basic
  rw [passed] at told
  obtain ⟨order, done⟩ := told
  have orderly := Scene.orderly_start .standard config t
    (Plan.sequential_ofSteps keepGoing steps basic)
  exact settled.verdict?_of_run orderly done

end WireScript.Rehearsal
