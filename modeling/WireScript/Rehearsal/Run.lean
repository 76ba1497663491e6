import WireScript.Party.Actor
import WireScript.Rehearsal.Outcome
import WireScript.Rendezvous.Link
import WireScript.Replay.Player
import WireScript.Time.Instant

set_option autoImplicit false

namespace WireScript.Rehearsal

open Party (Actor Ending Plan Step)
open Rendezvous (Link Terminal)
open Replay (Config Player)

def grace : Nat := 1000

/-- What shows the time to a rehearsal: the instant of its start, and the milliseconds that pass
before each round of dispatching. -/
structure Clock where
  start : Instant
  lag : Nat → Nat

def Clock.paused (start : Instant) : Clock := ⟨start, fun _ => 0⟩

def playerTask : Wire.Task := "player"

def iutTask : Wire.Task := "iut"

inductive Stage
  | playing (player : Player)
  | joining (deadline : Nat)

inductive Turn
  | nobody
  | player
  | iut
deriving DecidableEq, Repr

/-- The player and the implementation run in turns on one thread, the player first whenever it has
been woken. Whoever runs goes on until it has to wait, the implementation also until its credit for
timers is used up. -/
structure Run where
  clock : Clock
  config : Config
  stage : Stage
  iut : Actor
  ending : Option Ending
  link : Link
  now : Nat
  rounds : Nat
  playerWoken : Bool
  iutWoken : Bool
  turn : Turn
  credit : Nat

namespace Run

def start (clock : Clock) (growth : Wire.Growth) (config : Config) (t : Transcript) (plan : Plan) :
    Run :=
  { clock, config, stage := .playing (.start growth config t), iut := .start plan, ending := none,
    link := .fresh, now := 0, rounds := 0, playerWoken := true, iutWoken := true, turn := .nobody,
    credit := Party.timersPerTurn }

def withLink (r : Run) (link : Link) : Run :=
  let (woken, link) := link.collect
  { r with
    link
    playerWoken := r.playerWoken || woken.contains playerTask
    iutWoken := r.iutWoken || woken.contains iutTask }

def report (r : Run) (outcome : Outcome) : Report := ⟨outcome, r.iut.entries, r.now⟩

def stop (r : Run) (outcome : Outcome) : Run ⊕ Report := .inr (r.report outcome)

-- In nanoseconds from the start.
def allowance (r : Run) : Nat :=
  match r.config.timeout with
  | some span => span.inNanos
  | none => (r.now + grace) * 1000000

def deadline? (r : Run) : Option Nat :=
  (r.clock.start.later? r.allowance).map fun _ =>
    match r.config.timeout with
    | some span => span.millis
    | none => r.now + grace

-- A time that the clock cannot tell never comes.
def expiry? (r : Run) : Option Nat :=
  r.config.timeout.bind fun span => (r.clock.start.later? span.inNanos).map fun _ => span.millis

def playerAlarm (r : Run) : Option Nat :=
  match r.stage with
  | .playing _ => r.expiry?
  | .joining deadline => some deadline

def iutAlarm (r : Run) : Option Nat :=
  if r.ending.isNone then r.iut.alarm else none

def due (now : Nat) (alarm : Option Nat) : Bool := alarm.any (· ≤ now)

def join (r : Run) (deadline : Nat) : Run ⊕ Report :=
  match r.ending with
  | some (.returned _) => r.stop .passed
  | some (.panicked _) => r.stop (.panicked r.config.name)
  | none =>
    if deadline ≤ r.now then r.stop .passed
    else .inl { r with stage := .joining deadline, turn := .nobody }

def pause (r : Run) (player : Player) : Run ⊕ Report :=
  let r := { r with stage := .playing player, turn := .nobody }
  match r.config.timeout with
  | some span =>
    if due r.now r.expiry? then r.stop (.timedOut r.config.name span) else .inl r
  | none => .inl r

def stepPlayer (r : Run) (player : Player) : Run ⊕ Report :=
  let (status, terminal) := player.step playerTask (⟨r.link⟩ : Terminal .a)
  let r := r.withLink terminal.link
  match status with
  | .running player => .inl { r with stage := .playing player }
  | .waiting player => r.pause player
  | .over (.error fault) => r.stop (.failed fault)
  | .over (.ok _) =>
    let r := r.withLink (r.link.drop .a)
    match r.deadline? with
    | some deadline => r.join deadline
    | none => r.stop .clockOverflow

def stepIut (r : Run) : Run :=
  let (status, iut, terminal) := r.iut.step iutTask r.now r.credit (⟨r.link⟩ : Terminal .b)
  let r := { r with iut }.withLink terminal.link
  match status with
  | .running => r
  | .elapsed => { r with credit := r.credit - 1 }
  | .waiting => { r with turn := .nobody }
  | .yielding => { r with iutWoken := true, turn := .nobody }
  | .over ending =>
    let joining := match r.stage with | .joining _ => true | .playing _ => false
    { r with ending := some ending, playerWoken := r.playerWoken || joining, turn := .nobody }

def tick (r : Run) : Run :=
  let now := r.now + r.clock.lag r.rounds
  { r with
    now
    rounds := r.rounds + 1
    playerWoken := r.playerWoken || due now r.playerAlarm
    iutWoken := r.iutWoken || due now r.iutAlarm }

def sleep (r : Run) : Run ⊕ Report :=
  match (r.playerAlarm.toList ++ r.iutAlarm.toList).min? with
  | none => r.stop .stalled
  | some t =>
    .inl { r with
      now := t
      playerWoken := r.playerAlarm = some t
      iutWoken := r.iutAlarm = some t }

def dispatch (r : Run) : Run ⊕ Report :=
  if r.playerWoken then .inl { r with playerWoken := false, turn := .player }
  else if r.iutWoken && r.ending.isNone then
    .inl { r with iutWoken := false, turn := .iut, credit := Party.timersPerTurn }
  else r.sleep

def step (r : Run) : Run ⊕ Report :=
  match r.turn with
  | .nobody => r.tick.dispatch
  | .iut => .inl r.stepIut
  | .player =>
    match r.stage with
    | .playing player => r.stepPlayer player
    | .joining deadline => r.join deadline

end Run

end WireScript.Rehearsal
