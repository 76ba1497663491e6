import WireScript.Proofs.Party.Prompt
import WireScript.Proofs.Rehearsal.Ending
import WireScript.Proofs.Rendezvous.Teardown

set_option autoImplicit false

namespace WireScript.Rendezvous.Link

open Wire (Act Prompt Task Turn)

structure Deserted (side : Side) (l : Link) : Prop where
  outbound : (l.outbound side).readClosed = true
  inbound : (l.inbound side).writeClosed = true

variable {side : Side} {l : Link}

theorem deserted_drop (l : Link) (side : Side) : (l.drop side.other).Deserted side := by
  cases side <;> exact ⟨rfl, rfl⟩

theorem Deserted.run_turn {α : Type} (deserted : l.Deserted side) (task : Task) (turn : Turn α) :
    (turn.run task (⟨l⟩ : Terminal side)).2.link.Deserted side := by
  cases turn with
  | still value => exact deserted
  | asking act next =>
    constructor
    · simp [Turn.run, Rendezvous.outbound_perform, deserted.outbound]
    · simp [Turn.run, inbound_perform, deserted.inbound]

theorem Deserted.prompt (deserted : l.Deserted side) (task : Task) :
    Prompt task (fun s : Terminal side => (s.link.inbound side).available.length) ⟨l⟩ where
  answers act := by
    rw [perform_sight]
    cases act with
    | read room =>
      by_cases space : room = 0
      · simp [sight, Pipe.read, space, Wire.Poll.ok, Wire.Sight.ofPoll]
      · simp [Pipe.sight_read_closed task space deserted.inbound]
    | write data =>
      rw [Pipe.sight_write_gone task deserted.outbound]
      split <;> simp
    | _ => simp [sight]
  spends act := by
    have total := congrArg List.length
      (Pipe.available_afterReader task act (l.outbound side) (l.inbound side))
    rw [List.length_append] at total
    simp only [inbound_perform, perform_sight]
    omega

end WireScript.Rendezvous.Link

namespace WireScript.Party

theorem Status.onward_or_waits_or_over (status : Status) :
    (status = .running ∨ status = .elapsed) ∨ (status = .waiting ∨ status = .yielding) ∨
      ∃ ending, status = .over ending := by
  cases status <;> simp

theorem Status.ending?_eq_none {status : Status}
    (goes : (status = .running ∨ status = .elapsed) ∨ status = .waiting ∨ status = .yielding) :
    status.ending? = none := by
  obtain (rfl | rfl) | rfl | rfl := goes <;> rfl

end WireScript.Party

namespace WireScript.Rehearsal

/-- A clock that never stands still for good. -/
def Clock.Live (clock : Clock) : Prop := ∀ n, ∃ m, n ≤ m ∧ 0 < clock.lag m

end WireScript.Rehearsal

namespace WireScript.Rehearsal.Run

open Party (Activity Actor Ending Entry Plan Status timersPerTurn)
open Rendezvous (Link Terminal)
open Replay (Config)

def Well (config : Config) (outcome : Outcome) : Prop :=
  outcome = .passed ∨ outcome = .panicked config.name

def Done (config : Config) (r : Run) : Prop :=
  ∃ report, r.step = .inr report ∧ Well config report.outcome

theorem join_cases (r : Run) (deadline : Nat) :
    (∃ report, r.join deadline = .inr report ∧ Well r.config report.outcome) ∨
    r.ending = none ∧ r.now < deadline ∧
      r.join deadline = .inl { r with stage := .joining deadline, turn := .nobody } := by
  unfold join
  split
  · exact .inl ⟨_, rfl, .inl rfl⟩
  · exact .inl ⟨_, rfl, .inr rfl⟩
  · rename_i going
    split
    · exact .inl ⟨_, rfl, .inl rfl⟩
    · rename_i early
      exact .inr ⟨going, Nat.lt_of_not_le early, rfl⟩

theorem called_ends {r : Run} {deadline : Nat} (joining : r.stage = .joining deadline)
    (nobody : r.turn = .nobody)
    (due : r.playerWoken = true ∧ r.ending ≠ none ∨ deadline ≤ r.now + r.clock.lag r.rounds) :
    r.Ends (Well r.config) := by
  let called := { r.tick with playerWoken := false, turn := .player }
  have first : r.step = .inl called := by
    have woken : r.tick.playerWoken = true := by
      obtain ⟨woken, -⟩ | late := due
      · simp [tick, woken]
      · simp [tick, playerAlarm, joining, Run.due, late]
    simp [Run.step, nobody, dispatch, woken, called]
  have second : called.step = called.join deadline := by simp [Run.step, called, tick, joining]
  refine .later first ?_
  obtain ⟨report, ended, well⟩ | ⟨going, early, -⟩ := called.join_cases deadline
  · exact Ends.now (second.trans ended) well
  · obtain ⟨-, ending⟩ | late := due
    · exact absurd going ending
    · exact absurd late (Nat.not_le_of_lt early)

structure Joined (clock : Clock) (config : Config) (deadline : Nat) (r : Run) : Prop where
  terms : r.terms = (clock, config)
  stage : r.stage = .joining deadline
  deserted : r.link.Deserted .b
  collected : r.link.woken = []
  going : r.ending = none

structure Resumed (clock : Clock) (config : Config) (deadline : Nat) (iut : Actor) (r : Run) :
    Prop where
  joined : r.Joined clock config deadline
  turn : r.turn = .iut
  iut : r.iut = iut
  credit : r.credit = timersPerTurn
  player : r.playerWoken = false
  iutWoken : r.iutWoken = false

def RoundLater (r next : Run) : Prop :=
  next.rounds = r.rounds + 1 ∧ r.now + r.clock.lag r.rounds ≤ next.now

def acted (r : Run) : (Status × Actor) × Terminal .b :=
  (r.iut.turn r.now r.credit).run iutTask ⟨r.link⟩

section StepIut

variable (r : Run)

theorem stepIut_eq : r.stepIut =
    let r' := { r with iut := r.acted.1.2 }.withLink r.acted.2.link
    match r.acted.1.1 with
    | .running => r'
    | .elapsed => { r' with credit := r'.credit - 1 }
    | .waiting => { r' with turn := .nobody }
    | .yielding => { r' with iutWoken := true, turn := .nobody }
    | .over ending =>
      let joining := match r'.stage with | .joining _ => true | .playing _ => false
      { r' with ending := some ending, playerWoken := r'.playerWoken || joining, turn := .nobody }
    := by
  simp only [stepIut, Actor.step_eq_run_turn]
  rfl

theorem iut_stepIut : r.stepIut.iut = r.acted.1.2 := by
  rw [stepIut_eq]
  cases r.acted.1.1 <;> rfl

theorem ending_stepIut_eq : r.stepIut.ending = r.acted.1.1.ending?.or r.ending := by
  rw [stepIut_eq]
  cases r.acted.1.1 <;> rfl

theorem link_stepIut : r.stepIut.link = r.acted.2.link.collect.2 := by
  rw [stepIut_eq]
  cases r.acted.1.1 <;> rfl

theorem time_stepIut : r.stepIut.rounds = r.rounds ∧ r.stepIut.now = r.now := by
  rw [stepIut_eq]
  cases r.acted.1.1 <;> exact ⟨rfl, rfl⟩

variable {r}

theorem step_iut (turn : r.turn = .iut) : r.step = .inl r.stepIut := by
  simp [Run.step, turn]

theorem turn_stepIut_going (goes : r.acted.1.1 = .running ∨ r.acted.1.1 = .elapsed) :
    r.stepIut.turn = r.turn := by
  obtain status | status := goes <;> simp [stepIut_eq, status, withLink]

theorem turn_stepIut_waiting (waits : r.acted.1.1 = .waiting ∨ r.acted.1.1 = .yielding) :
    r.stepIut.turn = .nobody := by
  obtain status | status := waits <;> simp [stepIut_eq, status]

end StepIut

variable {clock : Clock} {config : Config} {deadline : Nat} {r : Run}

namespace Joined

theorem congr {r' : Run} (joined : r.Joined clock config deadline) (terms : r'.terms = r.terms)
    (stage : r'.stage = r.stage) (link : r'.link = r.link) (ending : r'.ending = r.ending) :
    r'.Joined clock config deadline where
  terms := terms.trans joined.terms
  stage := stage.trans joined.stage
  deserted := link ▸ joined.deserted
  collected := link ▸ joined.collected
  going := ending.trans joined.going

theorem stepIut (joined : r.Joined clock config deadline) (still : r.acted.1.1.ending? = none) :
    r.stepIut.Joined clock config deadline where
  terms := (terms_stepIut r).trans joined.terms
  stage := (stage_stepIut r).trans joined.stage
  deserted := by
    have deserted := joined.deserted.run_turn iutTask (r.iut.turn r.now r.credit)
    rw [link_stepIut]
    exact ⟨deserted.outbound, deserted.inbound⟩
  collected := by simp [link_stepIut, Link.collect]
  going := by simp [ending_stepIut_eq, still, joined.going]

theorem config_eq (joined : r.Joined clock config deadline) : r.config = config :=
  congrArg Prod.snd joined.terms

theorem clock_eq (joined : r.Joined clock config deadline) : r.clock = clock :=
  congrArg Prod.fst joined.terms

theorem late_ends (joined : r.Joined clock config deadline) (nobody : r.turn = .nobody)
    (late : deadline ≤ r.now + r.clock.lag r.rounds) : r.Ends (Well config) :=
  joined.config_eq ▸ called_ends joined.stage nobody (.inr late)

theorem ended_ends (joined : r.Joined clock config deadline) (turn : r.turn = .iut)
    {ending : Ending} (ended : r.acted.1.1 = .over ending) : r.Ends (Well config) := by
  have same : r.stepIut.config = config :=
    (congrArg Prod.snd (terms_stepIut r)).trans joined.config_eq
  refine .later (step_iut turn) ?_
  rw [← same]
  apply called_ends ((stage_stepIut r).trans joined.stage)
  · simp [stepIut_eq, ended]
  · left
    simp [stepIut_eq, ended, withLink, joined.stage]

theorem sleep_cases (joined : r.Joined clock config deadline) :
    (∃ woken, r.sleep = .inl { r with now := deadline, playerWoken := true, iutWoken := woken }) ∨
    ∃ wakeAt, r.iut.alarm = some wakeAt ∧
      r.sleep = .inl { r with now := wakeAt, playerWoken := false, iutWoken := true } := by
  have own : r.playerAlarm = some deadline := by simp [playerAlarm, joined.stage]
  have other : r.iutAlarm = r.iut.alarm := by simp [iutAlarm, joined.going]
  cases alarm : r.iut.alarm with
  | none => exact .inl ⟨false, by simp [sleep, own, other, alarm]⟩
  | some wakeAt =>
    by_cases early : wakeAt < deadline
    · refine .inr ⟨wakeAt, rfl, ?_⟩
      simp [sleep, own, other, alarm, Nat.min_eq_right (Nat.le_of_lt early), Nat.ne_of_gt early]
    · refine .inl ⟨decide (wakeAt = deadline), ?_⟩
      simp [sleep, own, other, alarm, Nat.min_eq_left (Nat.le_of_not_lt early)]

theorem dispatch_cases (joined : r.Joined clock config deadline) (nobody : r.turn = .nobody) :
    r.Ends (Well config) ∨
    (∃ next, r.after 2 = some next ∧ next.Joined clock config deadline ∧ next.turn = .nobody ∧
      next.iut = r.iut ∧ next.playerWoken = false ∧ r.RoundLater next ∧ r.playerWoken = true) ∨
    (∃ next, r.after 1 = some next ∧ next.Resumed clock config deadline r.iut ∧
      r.RoundLater next ∧ (r.iutWoken = false → due next.now r.iut.alarm = true)) ∨
    (∃ next, r.after 1 = some next ∧ next.Joined clock config deadline ∧ next.turn = .nobody ∧
      next.iut = r.iut ∧ next.playerWoken = false ∧ next.iutWoken = true ∧ r.RoundLater next ∧
      r.iutWoken = false ∧ due next.now r.iut.alarm = true) := by
  by_cases late : deadline ≤ r.now + r.clock.lag r.rounds
  · exact .inl (joined.late_ends nobody late)
  have own : r.playerAlarm = some deadline := by simp [playerAlarm, joined.stage]
  have other : r.iutAlarm = r.iut.alarm := by simp [iutAlarm, joined.going]
  have ticked : r.tick.Joined clock config deadline := joined.congr rfl rfl rfl rfl
  have player : r.tick.playerWoken = r.playerWoken := by simp [tick, own, due, late]
  have iut : r.tick.iutWoken = (r.iutWoken || due r.tick.now r.iut.alarm) := by simp [tick, other]
  have step : r.step = r.tick.dispatch := by simp [Run.step, nobody]
  cases woken : r.playerWoken with
  | true =>
    let called := { r.tick with playerWoken := false, turn := .player }
    have first : r.step = .inl called := by simp [step, dispatch, player, woken, called]
    have second : called.step = called.join deadline := by simp [Run.step, called, ticked.stage]
    obtain ⟨report, ended, well⟩ | ⟨-, -, goes⟩ := called.join_cases deadline
    · rw [show called.config = config from joined.config_eq] at well
      exact .inl (.later first (Ends.now (second.trans ended) well))
    · let back := { called with stage := .joining deadline, turn := .nobody }
      have returned : r.after 2 = some back := by
        rw [after_succ_of_step first, after_succ_of_step (second.trans goes)]
        rfl
      exact .inr (.inl ⟨back, returned, ticked.congr rfl ticked.stage.symm rfl rfl, rfl, rfl, rfl,
        ⟨rfl, Nat.le_refl _⟩, rfl⟩)
  | false =>
    cases called : r.tick.iutWoken with
    | true =>
      let resumed := { r.tick with iutWoken := false, turn := .iut, credit := timersPerTurn }
      have first : r.step = .inl resumed := by
        simp [step, dispatch, player, woken, called, ticked.going, resumed]
      refine .inr (.inr (.inl ⟨resumed, after_succ_of_step first 0, ?_, ⟨rfl, Nat.le_refl _⟩, ?_⟩))
      · exact ⟨ticked.congr rfl rfl rfl rfl, rfl, rfl, rfl, player.trans woken, rfl⟩
      · intro asleep
        simpa [asleep, called] using iut.symm
    | false =>
      obtain ⟨unwoken, early⟩ : r.iutWoken = false ∧ due r.tick.now r.iut.alarm = false := by
        simpa [called] using iut.symm
      have first : r.step = r.tick.sleep := by simp [step, dispatch, player, woken, called]
      obtain ⟨other, sleeps⟩ | ⟨wakeAt, alarm, sleeps⟩ := ticked.sleep_cases
      · left
        refine .later (first.trans sleeps) (late_ends (ticked.congr rfl rfl rfl rfl) nobody ?_)
        exact Nat.le_add_right _ _
      · replace alarm : r.iut.alarm = some wakeAt := alarm
        refine .inr (.inr (.inr ⟨_, after_succ_of_step (first.trans sleeps) 0,
          ticked.congr rfl rfl rfl rfl, nobody, rfl, rfl, rfl, ⟨rfl, ?_⟩, unwoken, ?_⟩))
        · have before : r.tick.now < wakeAt := by simpa [due, alarm] using early
          exact Nat.le_of_lt before
        · simp [due, alarm]

theorem due_mono {m n : Nat} (le : m ≤ n) {alarm : Option Nat} (rings : due m alarm = true) :
    due n alarm = true := by
  cases alarm with
  | none => simp [due] at rings
  | some t =>
    simp only [due, Option.any_some, decide_eq_true_eq] at rings ⊢
    exact Nat.le_trans rings le

theorem undisturbed_resumes (joined : r.Joined clock config deadline) (nobody : r.turn = .nobody)
    (player : r.playerWoken = false) :
    r.ComesTo fun next => next.Done config ∨ next.Resumed clock config deadline r.iut ∧
      (r.iutWoken = false → due next.now r.iut.alarm = true) := by
  obtain ends | ⟨_, -, -, -, -, -, -, woken⟩ | ⟨next, reached, resumed, -, rings⟩ |
      ⟨slept, reached, again, nobody', same, player', woken', -, unwoken, rings⟩ :=
    joined.dispatch_cases nobody
  · exact ends.mono fun _ => .inl
  · simp [player] at woken
  · exact ⟨1, next, reached, .inr ⟨resumed, rings⟩⟩
  · refine .of_after reached ?_
    obtain ends | ⟨_, -, -, -, -, -, -, woken⟩ | ⟨next, reached, resumed, later, -⟩ |
        ⟨_, -, -, -, -, -, -, -, unwoken', -⟩ := again.dispatch_cases nobody'
    · exact ends.mono fun _ => .inl
    · simp [player'] at woken
    · rw [same] at resumed
      have passed : slept.now ≤ next.now := Nat.le_trans (Nat.le_add_right _ _) later.2
      exact ⟨1, next, reached, .inr ⟨resumed, fun _ => due_mono passed rings⟩⟩
    · simp [woken'] at unwoken'

theorem nobody_resumes (joined : r.Joined clock config deadline) (nobody : r.turn = .nobody) :
    r.ComesTo fun next => next.Done config ∨ next.Resumed clock config deadline r.iut := by
  have undisturbed {n : Nat} {next : Run} (reached : r.after n = some next)
      (joined : next.Joined clock config deadline) (nobody : next.turn = .nobody)
      (same : next.iut = r.iut) (player : next.playerWoken = false) :
      r.ComesTo fun next => next.Done config ∨ next.Resumed clock config deadline r.iut := by
    refine .of_after reached ((joined.undisturbed_resumes nobody player).mono ?_)
    rintro last (done | ⟨resumed, -⟩)
    · exact .inl done
    · exact .inr (same ▸ resumed)
  obtain ends | ⟨back, reached, joined, nobody, same, player, -⟩ | ⟨next, reached, resumed, -⟩ |
      ⟨slept, reached, joined, nobody, same, player, -⟩ := joined.dispatch_cases nobody
  · exact ends.mono fun _ => .inl
  · exact undisturbed reached joined nobody same player
  · exact ⟨1, next, reached, .inr resumed⟩
  · exact undisturbed reached joined nobody same player

end Joined

structure Onward (clock : Clock) (config : Config) (deadline count : Nat) (r : Run) : Prop where
  joined : r.Joined clock config deadline
  turn : r.turn = .iut
  longer : count < r.iut.entries.length

section Iut

theorem Joined.logged_onward (joined : r.Joined clock config deadline) (turn : r.turn = .iut)
    (entry : Entry) {status : Status} {before : Actor}
    (acted : r.acted.1 = (status, before.log entry))
    (goes : status = .running ∨ status = .elapsed) (same : before.entries = r.iut.entries) :
    r.ComesTo (Onward clock config deadline r.iut.entries.length) := by
  refine .later (step_iut turn) (.here ⟨joined.stepIut ?_, ?_, ?_⟩)
  · rw [acted]
    exact Status.ending?_eq_none (.inl goes)
  · rw [turn_stepIut_going (by rwa [acted]), turn]
  · simp [iut_stepIut, acted, Actor.log, same]

theorem acted_asleep {wakeAt : Nat} (asleep : r.iut.activity = .asleep wakeAt)
    (credit : r.credit = timersPerTurn) :
    r.acted = (if wakeAt ≤ r.now then (.elapsed, r.iut.log .done) else (.waiting, r.iut), ⟨r.link⟩)
    := by
  have same : { r.iut with activity := .asleep wakeAt } = r.iut := by rw [← asleep]
  simp [acted, Actor.turn, asleep, Wire.Turn.run, Actor.sleepUntil, credit, timersPerTurn, same]

theorem Resumed.waits {a : Actor} (resumed : r.Resumed clock config deadline a)
    (waits : r.acted = ((.waiting, a), ⟨r.link⟩)) :
    r.ComesTo fun next => next.Done config ∨ next.Resumed clock config deadline a ∧
      due next.now a.alarm = true := by
  obtain ⟨joined, turn, rfl, credit, player, iut⟩ := resumed
  have link : { r.link with woken := [] } = r.link := by rw [← joined.collected]
  have paused : r.stepIut = { r with turn := .nobody } := by
    simp [stepIut_eq, waits, withLink, Link.collect, joined.collected, link]
  have still := joined.stepIut (by rw [waits]; rfl)
  refine .later (step_iut turn) ?_
  rw [paused] at still ⊢
  refine (still.undisturbed_resumes rfl player).mono ?_
  rintro last (done | ⟨resumed, rings⟩)
  · exact .inl done
  · exact .inr ⟨resumed, rings (by simp [iut])⟩

theorem Resumed.rest_onward {a : Actor} (resumed : r.Resumed clock config deadline a)
    (rests : a.activity.Rests) :
    r.ComesTo fun next =>
      next.Done config ∨ next.Onward clock config deadline a.entries.length := by
  cases activity : a.activity with
  | paused =>
    obtain ⟨joined, turn, rfl, -⟩ := resumed
    refine (joined.logged_onward turn .done ?_ (.inl rfl) rfl).mono fun _ => .inr
    simp [acted, Actor.turn, activity, Wire.Turn.run]
  | asleep wakeAt =>
    have elapsed (r' : Run) (resumed : r'.Resumed clock config deadline a)
        (late : wakeAt ≤ r'.now) :
        r'.ComesTo fun next =>
          next.Done config ∨ next.Onward clock config deadline a.entries.length := by
      obtain ⟨joined, turn, rfl, credit, -⟩ := resumed
      refine (joined.logged_onward turn .done ?_ (.inr rfl) rfl).mono fun _ => .inr
      simp [acted_asleep activity credit, late]
    by_cases late : wakeAt ≤ r.now
    · exact elapsed r resumed late
    · have waits : r.acted = ((.waiting, a), ⟨r.link⟩) := by
        obtain ⟨-, -, rfl, credit, -⟩ := resumed
        simp [acted_asleep activity credit, late]
      refine (resumed.waits waits).trans ?_
      rintro next (done | ⟨resumed, rings⟩)
      · exact .here (.inl done)
      · exact elapsed next resumed (by simpa [Actor.alarm, activity, due] using rings)
  | stuck =>
    have waits : r.acted = ((.waiting, a), ⟨r.link⟩) := by
      obtain ⟨-, -, rfl, -⟩ := resumed
      simp [acted, Actor.turn, activity, Wire.Turn.run]
    refine (resumed.waits waits).mono ?_
    rintro next (done | ⟨-, rings⟩)
    · exact .inl done
    · simp [Actor.alarm, activity, due] at rings
  | _ => simp [activity, Activity.Rests] at rests

def left (r : Run) : Nat := (r.link.inbound .b).available.length

theorem Joined.moved (joined : r.Joined clock config deadline) :
    r.iut.Moved r.left r.stepIut.left r.acted.1 := by
  rw [left, left, link_stepIut]
  exact Actor.moved_run_turn (joined.deserted.prompt iutTask) r.iut r.now r.credit

theorem Joined.onward (joined : r.Joined clock config deadline) (turn : r.turn = .iut) :
    r.ComesTo fun next =>
      next.Done config ∨ next.Onward clock config deadline r.iut.entries.length := by
  induction rank : r.iut.activity.rank r.left using WellFoundedLT.induction generalizing r with
  | ind _ ih =>
    have moved := joined.moved
    generalize acted : r.acted.1 = result at moved
    cases moved with
    | logged entry goes same =>
      exact (joined.logged_onward turn entry acted goes same).mono fun _ => .inr
    | @onward a same nearer =>
      have next : r.stepIut.iut = a := by rw [iut_stepIut, acted]
      rw [← next] at nearer same
      have still := joined.stepIut (by rw [acted]; rfl)
      have turn' : r.stepIut.turn = .iut := by
        rw [turn_stepIut_going (.inl (by rw [acted])), turn]
      rw [← same]
      exact .later (step_iut turn) (ih _ (rank ▸ nearer) still turn' rfl)
    | @resting status a waits same rests =>
      have next : r.stepIut.iut = a := by rw [iut_stepIut, acted]
      have nobody := turn_stepIut_waiting (by rwa [acted])
      have still : r.stepIut.Joined clock config deadline := by
        refine joined.stepIut ?_
        rw [acted]
        exact Status.ending?_eq_none (.inr waits)
      refine .later (step_iut turn) ((still.nobody_resumes nobody).trans ?_)
      rintro last (done | resumed)
      · exact .here (.inl done)
      · rw [next] at resumed
        rw [← same]
        exact resumed.rest_onward rests
    | ended ending => exact (joined.ended_ends turn (by rw [acted])).mono fun _ => .inl

theorem Joined.endless (joined : r.Joined clock config deadline) (turn : r.turn = .iut)
    (goes : ¬ r.Ends (Well config)) : r.Endless := by
  -- Every step of the plan that is done leads to another one, and to a longer log.
  have longer (k : Nat) : ∃ n last, k ≤ n ∧ r.after n = some last ∧
      last.Joined clock config deadline ∧ last.turn = .iut ∧ k ≤ last.iut.entries.length := by
    induction k with
    | zero => exact ⟨0, r, Nat.le_refl 0, rfl, joined, turn, Nat.zero_le _⟩
    | succ k ih =>
      obtain ⟨n, last, long, reached, joined, turn, logged⟩ := ih
      obtain ⟨m, next, onward, done | further⟩ := joined.onward turn
      · exact absurd (ComesTo.of_after reached ⟨m, next, onward, done⟩) goes
      · have moved : m ≠ 0 := by
          rintro rfl
          obtain rfl : last = next := by simpa [after] using onward
          exact absurd further.longer (Nat.lt_irrefl _)
        refine ⟨n + m, next, by omega, (after_add reached m).trans onward, further.joined,
          further.turn, ?_⟩
        exact Nat.lt_of_le_of_lt logged further.longer
  intro k
  obtain ⟨n, last, long, reached, -, -, logged⟩ := longer k
  exact ⟨n, last, long, reached, logged⟩

end Iut

section Live

theorem Joined.keeps_turn (joined : r.Joined clock config deadline) (turn : r.turn = .iut)
    (goes : ¬ r.Ends (Well config))
    (keeps : ∀ n next, r.after n = some next → next.Joined clock config deadline →
      next.turn = .nobody → ¬ (next.rounds = r.rounds ∧ next.now = r.now)) (n : Nat) :
    ∃ later, r.after n = some later ∧ later.Joined clock config deadline ∧ later.turn = .iut ∧
      later.rounds = r.rounds ∧ later.now = r.now := by
  induction n with
  | zero => exact ⟨r, rfl, joined, turn, rfl, rfl⟩
  | succ n ih =>
    obtain ⟨last, reached, joined, turn, rounds, now⟩ := ih
    have next : r.after (n + 1) = some last.stepIut := by
      rw [after_add reached, after_succ_of_step (step_iut turn)]
      rfl
    have time : last.stepIut.rounds = r.rounds ∧ last.stepIut.now = r.now :=
      ⟨last.time_stepIut.1.trans rounds, last.time_stepIut.2.trans now⟩
    obtain onward | waits | ⟨ending, ended⟩ := last.acted.1.1.onward_or_waits_or_over
    · refine ⟨_, next, joined.stepIut (Status.ending?_eq_none (.inl onward)), ?_, time⟩
      exact (turn_stepIut_going onward).trans turn
    · have still := joined.stepIut (Status.ending?_eq_none (.inr waits))
      exact absurd time (keeps _ _ next still (turn_stepIut_waiting waits))
    · exact absurd (ComesTo.of_after reached (joined.ended_ends turn ended)) goes

theorem Joined.round (joined : r.Joined clock config deadline) (nobody : r.turn = .nobody)
    (goes : ¬ r.Ends (Well config)) (free : ¬ r.Hogged) :
    ∃ n next, r.after n = some next ∧ next.Joined clock config deadline ∧ next.turn = .nobody ∧
      r.RoundLater next := by
  obtain ends | ⟨back, reached, joined, nobody, -, -, later, -⟩ |
      ⟨next, reached, resumed, later, -⟩ | ⟨slept, reached, joined, nobody, -, -, -, later, -⟩ :=
    joined.dispatch_cases nobody
  · exact absurd ends goes
  · exact ⟨2, back, reached, joined, nobody, later⟩
  · by_contra stuck
    -- The turn never comes back, and so the implementation has it for good.
    have keeps := resumed.joined.keeps_turn resumed.turn
      (fun ends => goes (ComesTo.of_after reached ends)) (by
        rintro n last onward joined nobody ⟨rounds, now⟩
        refine stuck ⟨1 + n, last, (after_add reached n).trans onward, joined, nobody, ?_⟩
        exact ⟨rounds.trans later.1, now ▸ later.2⟩)
    refine free (.of_after reached (.here ?_))
    intro n
    obtain ⟨last, onward, -, turn, -⟩ := keeps n
    exact ⟨last, onward, turn⟩
  · exact ⟨1, slept, reached, joined, nobody, later⟩

theorem Joined.rounds (joined : r.Joined clock config deadline) (nobody : r.turn = .nobody)
    (goes : ¬ r.Ends (Well config)) (free : ¬ r.Hogged) (k : Nat) :
    ∃ n next, r.after n = some next ∧ next.Joined clock config deadline ∧ next.turn = .nobody ∧
      next.rounds = r.rounds + k ∧ r.now ≤ next.now := by
  induction k with
  | zero => exact ⟨0, r, rfl, joined, nobody, rfl, Nat.le_refl _⟩
  | succ k ih =>
    obtain ⟨n, last, reached, joined, nobody, rounds, now⟩ := ih
    obtain ⟨m, next, onward, joined, nobody, later⟩ := joined.round nobody
      (fun ends => goes (ComesTo.of_after reached ends))
      (fun hogged => free (ComesTo.of_after reached hogged))
    refine ⟨n + m, next, (after_add reached m).trans onward, joined, nobody, ?_, ?_⟩
    · rw [later.1, rounds, Nat.add_assoc]
    · exact Nat.le_trans now (Nat.le_trans (Nat.le_add_right _ _) later.2)

theorem Joined.time_passes (live : clock.Live) (joined : r.Joined clock config deadline)
    (nobody : r.turn = .nobody) (goes : ¬ r.Ends (Well config)) (free : ¬ r.Hogged) (d : Nat) :
    ∃ n next, r.after n = some next ∧ next.Joined clock config deadline ∧ next.turn = .nobody ∧
      r.now + d ≤ next.now := by
  induction d with
  | zero => exact ⟨0, r, rfl, joined, nobody, Nat.le_refl _⟩
  | succ d ih =>
    obtain ⟨n, last, reached, joined, nobody, now⟩ := ih
    have goes' : ¬ last.Ends (Well config) := fun ends => goes (ComesTo.of_after reached ends)
    have free' : ¬ last.Hogged := fun hogged => free (ComesTo.of_after reached hogged)
    -- On to the next round in which the clock moves, and through that one.
    obtain ⟨m, beyond, moves⟩ := live last.rounds
    obtain ⟨k, rfl⟩ := Nat.exists_eq_add_of_le beyond
    obtain ⟨i, mid, reached', joined, nobody, rounds, now'⟩ := joined.rounds nobody goes' free' k
    obtain ⟨j, next, onward, joined', nobody', later⟩ := joined.round nobody
      (fun ends => goes' (ComesTo.of_after reached' ends))
      (fun hogged => free' (ComesTo.of_after reached' hogged))
    refine ⟨n + (i + j), next, ?_, joined', nobody', ?_⟩
    · rw [after_add reached, after_add reached', onward]
    · have passed := later.2
      rw [joined.clock_eq, rounds] at passed
      omega

theorem Joined.hogged (live : clock.Live) (joined : r.Joined clock config deadline)
    (nobody : r.turn = .nobody) (goes : ¬ r.Ends (Well config)) : r.Hogged := by
  by_contra free
  obtain ⟨n, next, reached, joined, nobody, late⟩ :=
    joined.time_passes live nobody goes free deadline
  exact goes (ComesTo.of_after reached (joined.late_ends nobody (by omega)))

end Live

def Passing (r : Run) : Prop :=
  r.turn = .player ∧ ∃ player, r.stage = .playing player ∧
    (player.step playerTask (⟨r.link⟩ : Terminal .a)).1 = .over (.ok ())

section Passing

theorem Passing.step (passing : r.Passing) :
    ∃ r' : Run, r'.terms = r.terms ∧ r'.link.Deserted .b ∧ r'.link.woken = [] ∧
      r.step =
        match r.deadline? with
        | some deadline => r'.join deadline
        | none => r'.stop .clockOverflow := by
  obtain ⟨turn, player, stage, passes⟩ := passing
  let played := r.withLink (player.step playerTask (⟨r.link⟩ : Terminal .a)).2.link
  refine ⟨played.withLink (played.link.drop .a), rfl, ?_, rfl, ?_⟩
  · have deserted := Link.deserted_drop played.link .b
    exact ⟨deserted.outbound, deserted.inbound⟩
  · simp only [Run.step, turn, stage, stepPlayer, passes]
    rfl

theorem Passing.ends_overflow (passing : r.Passing) (untold : r.deadline? = none) :
    r.Ends (· = .clockOverflow) := by
  obtain ⟨r', -, -, -, step⟩ := passing.step
  rw [untold] at step
  exact .now step rfl

theorem Passing.joined (passing : r.Passing) (told : r.deadline? = some deadline)
    (goes : ¬ r.Ends (Well r.config)) :
    ∃ next, r.step = .inl next ∧ next.Joined r.clock r.config deadline ∧ next.turn = .nobody := by
  obtain ⟨r', terms, deserted, collected, step⟩ := passing.step
  rw [told] at step
  obtain ⟨report, ended, well⟩ | ⟨going, -, joins⟩ := r'.join_cases deadline
  · rw [show r'.config = r.config from congrArg Prod.snd terms] at well
    exact absurd (Ends.now (step.trans ended) well) goes
  · exact ⟨_, step.trans joins, ⟨terms, rfl, deserted, collected, going⟩, rfl⟩

theorem Passing.ends_well_or_endless (passing : r.Passing) (told : r.deadline? ≠ none) :
    r.Ends (Well r.config) ∨ r.Endless ∧ (r.clock.Live → r.Hogged) := by
  by_cases ends : r.Ends (Well r.config)
  · exact .inl ends
  right
  obtain ⟨deadline, told⟩ := Option.ne_none_iff_exists'.1 told
  obtain ⟨next, step, joined, nobody⟩ := passing.joined told ends
  have goes : ¬ next.Ends (Well r.config) := fun others => ends (.later step others)
  have first : r.after 1 = some next := after_succ_of_step step 0
  refine ⟨?_, fun live => .of_after first (joined.hogged live nobody goes)⟩
  obtain ⟨n, last, reached, done | resumed⟩ := joined.nobody_resumes nobody
  · exact absurd ⟨n, last, reached, done⟩ goes
  · refine .of_after first (.of_after reached (resumed.joined.endless resumed.turn ?_))
    exact fun others => goes (ComesTo.of_after reached others)

theorem deadline?_eq_none_iff (r : Run) :
    r.deadline? = none ↔
      0x8000000000000000 * 1000000000 ≤ r.clock.start.total + r.allowance := by
  rw [deadline?, Option.map_eq_none_iff, Instant.later?_eq_none_iff]

end Passing

/-- Once its player has passed, a rehearsal overflows the clock if, and only if, the clock cannot
tell the time up to which the implementation may go on. If it can, the rehearsal passes or tells of
a panic of the implementation, unless the implementation goes on with its plan for ever; and if the
clock never stands still, that is only so if the implementation never gives its turn away. -/
theorem ends_well_unless_clock_overflows (clock : Clock) (growth : Wire.Growth) (config : Config)
    (t : Transcript) (plan : Plan) {n : Nat} {r : Run}
    (reached : (start clock growth config t plan).after n = some r) (passing : r.Passing) :
    ((start clock growth config t plan).Ends (· = .clockOverflow) ↔
      0x8000000000000000 * 1000000000 ≤ clock.start.total + r.allowance) ∧
    (clock.start.total + r.allowance < 0x8000000000000000 * 1000000000 →
      (start clock growth config t plan).Ends (Well config) ∨
        (start clock growth config t plan).Endless ∧
          (clock.Live → (start clock growth config t plan).Hogged)) := by
  obtain ⟨rfl, rfl⟩ : r.clock = clock ∧ r.config = config :=
    Prod.ext_iff.1 (terms_after reached)
  have told : r.deadline? ≠ none ↔
      r.clock.start.total + r.allowance < 0x8000000000000000 * 1000000000 := by
    rw [Ne, deadline?_eq_none_iff, Int.not_le]
  have otherwise (fits : r.clock.start.total + r.allowance < 0x8000000000000000 * 1000000000) :
      (start r.clock growth r.config t plan).Ends (Well r.config) ∨
        (start r.clock growth r.config t plan).Endless ∧
          (r.clock.Live → (start r.clock growth r.config t plan).Hogged) := by
    obtain well | ⟨endless, hogged⟩ := passing.ends_well_or_endless (told.2 fits)
    · exact .inl (.of_after reached well)
    · exact .inr ⟨.of_after reached endless, fun live => .of_after reached (hogged live)⟩
  refine ⟨⟨?_, ?_⟩, otherwise⟩
  · intro overflow
    by_contra fits
    obtain well | ⟨endless, -⟩ := otherwise (Int.not_le.1 fits)
    · obtain ⟨outcome, rfl, other | other⟩ := overflow.agree well <;> simp at other
    · exact endless.not_ends overflow
  · intro beyond
    exact .of_after reached (passing.ends_overflow (r.deadline?_eq_none_iff.2 beyond))

def exchange : Transcript := ⟨[.inject [1, 2], .expect [3]]⟩

def hanging : Plan := .ofSteps false [.readExact 2, .writeAll [3], .hang]

def timed (span : Span) : Config := { Config.standard with timeout := some span }

def ticking : Clock := ⟨⟨.ofNat 86399, Fin.last 999999999⟩, fun _ => 1⟩

theorem hanging_ends_well :
    ∃ r, (start ticking .standard (timed ⟨2, 0⟩) exchange hanging).after 16 = some r ∧ r.Passing ∧
      ¬ (start ticking .standard (timed ⟨2, 0⟩) exchange hanging).Ends (· = .clockOverflow) ∧
      (start ticking .standard (timed ⟨2, 0⟩) exchange hanging).Ends (Well (timed ⟨2, 0⟩)) := by
  refine ⟨_, rfl, ⟨rfl, _, rfl, rfl⟩, ?_⟩
  obtain ⟨overflows, otherwise⟩ := ends_well_unless_clock_overflows ticking .standard (timed ⟨2, 0⟩)
    exchange hanging (n := 16) rfl ⟨rfl, _, rfl, rfl⟩
  refine ⟨?_, ?_⟩
  · rw [overflows]
    decide
  · refine (otherwise (by decide)).resolve_right ?_
    rintro ⟨endless, -⟩
    exact endless.going 30 rfl

theorem largest_timeout_overflows :
    let config := timed ⟨0xFFFFFFFFFFFFFFFF, 999999999⟩
    (∃ r, (start (.paused (.ofSecs 1)) .standard config ⟨[]⟩ (.ofSteps false [])).after 1 =
        some r ∧ r.Passing) ∧
      (rehearse config ⟨[]⟩ [] false).outcome = .clockOverflow :=
  ⟨⟨_, rfl, rfl, _, rfl, rfl⟩, rfl⟩

end WireScript.Rehearsal.Run
