import WireScript.Proofs.Party.Sequential
import WireScript.Proofs.Rendezvous.Pipe
import WireScript.Proofs.Replay.Sound
import WireScript.Rehearsal.Run

set_option autoImplicit false

namespace WireScript.Rehearsal

open Party (Actor Ending Plan)
open Rendezvous (Link Pipe Terminal sight)
open Replay (Config Player Verdict)
open Wire (Act Growth Sight)

inductive Role
  | player
  | iut
deriving DecidableEq, Repr

/-- The two tasks of a rehearsal on the two ends of a fresh channel. A poll of a task makes at most
one poll of its end, so that every interleaving of whole task polls is one of single ones. -/
structure Scene where
  part : Player ⊕ Verdict
  iut : Actor
  ending : Option Ending
  link : Link

namespace Scene

def start (growth : Growth) (config : Config) (t : Transcript) (plan : Plan) : Scene :=
  ⟨.inl (.start growth config t), .start plan, none, .fresh⟩

def withPlayer (s : Scene) (status : Replay.Status) (link : Link) : Scene :=
  match status.part with
  | .inl player => { s with part := .inl player, link := link.collect.2 }
  | .inr verdict => { s with part := .inr verdict, link := (link.drop .a).collect.2 }

def withIut (s : Scene) (status : Party.Status) (iut : Actor) (link : Link) : Scene :=
  { s with iut, ending := status.ending?, link := link.collect.2 }

def poll (s : Scene) : Role → Scene
  | .player =>
    match s.part with
    | .inr _ => s
    | .inl player =>
      let (status, terminal) := player.step playerTask (⟨s.link⟩ : Terminal .a)
      s.withPlayer status terminal.link
  | .iut =>
    match s.ending with
    | some _ => s
    | none =>
      let (status, iut, terminal) :=
        s.iut.step iutTask 0 Party.timersPerTurn (⟨s.link⟩ : Terminal .b)
      s.withIut status iut terminal.link

def run (s : Scene) (order : List Role) : Scene := order.foldl poll s

def verdict? (s : Scene) : Option Verdict := s.part.getRight?

-- All of a scene but who waits to be woken.
def gist (s : Scene) :=
  (s.part, s.iut, s.ending,
    (s.link.forth.offer, s.link.forth.writeClosed, s.link.forth.readClosed),
    (s.link.back.offer, s.link.back.writeClosed, s.link.back.readClosed))

-- Neither task can make progress.
def Settled (s : Scene) : Prop := ∀ role, (s.poll role).gist = s.gist

section Settled

variable {s : Scene} (settled : s.Settled) (role : Role)
include settled

theorem Settled.part_eq : (s.poll role).part = s.part := congrArg (·.1) (settled role)

theorem Settled.iut_eq : (s.poll role).iut = s.iut := congrArg (·.2.1) (settled role)

theorem Settled.forth_offer : (s.poll role).link.forth.offer = s.link.forth.offer :=
  congrArg (·.2.2.2.1.1) (settled role)

theorem Settled.back_offer : (s.poll role).link.back.offer = s.link.back.offer :=
  congrArg (·.2.2.2.2.1) (settled role)

end Settled

@[simp] theorem run_nil (s : Scene) : s.run [] = s := rfl

@[simp] theorem run_cons (s : Scene) (role : Role) (order : List Role) :
    s.run (role :: order) = (s.poll role).run order := rfl

theorem run_append (s : Scene) (first second : List Role) :
    s.run (first ++ second) = (s.run first).run second := List.foldl_append

abbrev iutTurn (s : Scene) : Wire.Turn (Party.Status × Actor) := s.iut.turn 0 Party.timersPerTurn

def iutAsks (s : Scene) : Option Act := if s.ending.isSome then none else s.iutTurn.asks

variable {s : Scene} {p : Player}

theorem poll_player_still (playing : s.part = .inl p) {status : Replay.Status}
    (turn : p.turn = .still status) : s.poll .player = s.withPlayer status s.link := by
  simp only [poll, playing, Player.step_eq_run_turn, turn, Wire.Turn.run]

theorem poll_player_asking (playing : s.part = .inl p) {act : Act} {next : Sight → Replay.Status}
    (turn : p.turn = .asking act next) :
    ∃ link : Link, link.forth = s.link.forth.afterWriter playerTask act ∧
      link.back = s.link.back.afterReader playerTask act ∧
      s.poll .player =
        s.withPlayer (next (sight playerTask act s.link.forth s.link.back)) link := by
  refine ⟨(act.perform playerTask (⟨s.link⟩ : Terminal .a)).2.link,
    Rendezvous.outbound_perform playerTask act .a s.link,
    Rendezvous.inbound_perform playerTask act .a s.link, ?_⟩
  simp only [poll, playing, Player.step_eq_run_turn, turn, Wire.Turn.run,
    Rendezvous.perform_sight]
  rfl

theorem poll_iut_ended {ending : Ending} (ended : s.ending = some ending) :
    s.poll .iut = s := by
  simp only [poll, ended]

theorem poll_iut_still (going : s.ending = none) {result : Party.Status × Actor}
    (turn : s.iutTurn = .still result) :
    s.poll .iut = s.withIut result.1 result.2 s.link := by
  unfold iutTurn at turn
  simp only [poll, going, Actor.step_eq_run_turn, turn, Wire.Turn.run]

theorem poll_iut_asking (going : s.ending = none) {act : Act}
    {next : Sight → Party.Status × Actor} (turn : s.iutTurn = .asking act next) :
    ∃ link : Link, link.back = s.link.back.afterWriter iutTask act ∧
      link.forth = s.link.forth.afterReader iutTask act ∧
      s.poll .iut = s.withIut (next (sight iutTask act s.link.back s.link.forth)).1
        (next (sight iutTask act s.link.back s.link.forth)).2 link := by
  refine ⟨(act.perform iutTask (⟨s.link⟩ : Terminal .b)).2.link,
    Rendezvous.outbound_perform iutTask act .b s.link,
    Rendezvous.inbound_perform iutTask act .b s.link, ?_⟩
  unfold iutTurn at turn
  simp only [poll, going, Actor.step_eq_run_turn, turn, Wire.Turn.run, Rendezvous.perform_sight]
  rfl

theorem withPlayer_playing {status : Replay.Status} {q : Player} (left : status.part = .inl q)
    (link : Link) :
    s.withPlayer status link = { s with part := .inl q, link := link.collect.2 } := by
  simp [withPlayer, left]

theorem part_withPlayer (status : Replay.Status) (link : Link) :
    (s.withPlayer status link).part = status.part := by
  unfold withPlayer
  split <;> simp_all

structure Tidy (s : Scene) (p : Player) : Prop where
  sound : p.Sound
  forth : s.link.forth.Kept p.turn.asks
  back : s.link.back.Kept s.iutAsks
  opened : s.link.forth.writeClosed = false
  there : s.link.back.readClosed = false
  gone : s.link.forth.readClosed = s.ending.isSome
  steady : s.ending = none → s.iut.Steady

def Orderly (s : Scene) : Prop := ∀ p, s.part = .inl p → s.Tidy p

theorem tidy_start (growth : Growth) (config : Config) (t : Transcript) {plan : Plan}
    (sequential : plan.Sequential) :
    (start growth config t plan).Tidy (.start growth config t) where
  sound := Player.sound_start growth config t
  forth := Pipe.Kept.of_free rfl _
  back := Pipe.Kept.of_free rfl _
  opened := rfl
  there := rfl
  gone := rfl
  steady _ := Actor.steady_start sequential

theorem Tidy.poll_player (tidy : s.Tidy p) (playing : s.part = .inl p) {q : Player}
    (on : (s.poll .player).part = .inl q) : (s.poll .player).Tidy q := by
  cases turn : p.turn with
  | still status =>
    rw [poll_player_still playing turn] at on ⊢
    rw [part_withPlayer] at on
    rw [withPlayer_playing on]
    have free : s.link.forth.offer = none := tidy.forth.free (by simp [turn, Wire.Turn.asks])
    exact {
      sound := tidy.sound.step (by rw [turn]; rfl) on
      forth := .of_free free _
      back := tidy.back
      opened := tidy.opened
      there := tidy.there
      gone := tidy.gone
      steady := tidy.steady }
  | asking act next =>
    have asked : p.turn.asks = some act := by rw [turn]; rfl
    obtain ⟨proper, opens, stays⟩ := tidy.sound.asks asked
    obtain ⟨link, forth, back, after⟩ := poll_player_asking playing turn
    rw [after] at on ⊢
    rw [part_withPlayer] at on
    rw [withPlayer_playing on]
    have sound : q.Sound :=
      tidy.sound.step (by rw [turn]; exact ⟨_, Rendezvous.admits_sight _ act _ _, rfl⟩) on
    have kept : link.forth.Kept q.turn.asks := by
      rw [forth]
      have before := asked ▸ tidy.forth
      by_cases waits : sight playerTask act s.link.forth s.link.back = .pending
      · rw [waits, Player.next_pending turn] at on
        obtain rfl := Sum.inl.inj on
        exact asked ▸ before.waiting playerTask proper waits
      · -- A write that fails ends the player, so that this one has cleared its offer.
        refine .of_free (before.moved playerTask proper waits (.inr ?_)) _
        intro e failed
        rw [failed, Player.next_failed turn] at on
        simp [Player.fail, Replay.Status.part] at on
    exact {
      sound
      forth := kept
      back := back ▸ tidy.back.afterReader playerTask act
      opened := by simpa [forth, opens, stays] using tidy.opened
      there := by simpa [back, stays] using tidy.there
      gone := by simpa [forth] using tidy.gone
      steady := tidy.steady }

theorem iutAsks_going (going : s.ending = none) : s.iutAsks = s.iutTurn.asks := by
  simp [iutAsks, going]

theorem Tidy.poll_iut_leaving (tidy : s.Tidy p) (going : s.ending = none)
    {next : Sight → Party.Status × Actor} (turn : s.iutTurn = .asking .release next)
    {ending : Ending}
    (through : (next (sight iutTask .release s.link.back s.link.forth)).1 = .over ending) :
    (s.poll .iut).Tidy p := by
  have kept := iutAsks_going going ▸ tidy.back
  have free : s.link.back.offer = none := kept.free (by simp [turn, Wire.Turn.asks])
  obtain ⟨link, back, forth, after⟩ := poll_iut_asking going turn
  rw [after]
  exact {
    sound := tidy.sound
    forth := by simpa [withIut, forth] using tidy.forth.afterReader iutTask .release
    back := .of_free (by rw [withIut, Link.back_collect, back]; exact free) _
    opened := by simpa [withIut, forth] using tidy.opened
    there := by simpa [withIut, back] using tidy.there
    gone := by simp [withIut, forth, through, Party.Status.ending?]
    steady := by simp [withIut, through, Party.Status.ending?] }

theorem Tidy.poll_iut_staying (tidy : s.Tidy p) (going : s.ending = none) {act : Act}
    {next : Sight → Party.Status × Actor} (turn : s.iutTurn = .asking act next)
    (stays : act ≠ .release)
    (onward : (next (sight iutTask act s.link.back s.link.forth)).1.ending? = none)
    (steady' : (next (sight iutTask act s.link.back s.link.forth)).2.Steady) :
    (s.poll .iut).Tidy p := by
  have asked : s.iutTurn.asks = some act := by rw [turn]; rfl
  have proper := (tidy.steady going).asks asked
  have kept := iutAsks_going going ▸ tidy.back
  rw [asked] at kept
  obtain ⟨link, back, forth, after⟩ := poll_iut_asking going turn
  rw [after]
  generalize shown : sight iutTask act s.link.back s.link.forth = shows at onward steady' ⊢
  -- An operation that has to wait is asked for again; any other one has cleared its offer.
  have kept' : link.back.Kept (s.withIut (next shows).1 (next shows).2 link).iutAsks := by
    rw [back]
    by_cases waits : shows = .pending
    · rw [waits, (tidy.steady going).next_pending turn stays]
      have asks : (s.withIut .waiting s.iut link).iutAsks = some act := asked
      exact asks ▸ kept.waiting iutTask proper (shown.trans waits)
    · exact .of_free (kept.moved iutTask proper (by rwa [shown]) (.inl tidy.there)) _
  exact {
    sound := tidy.sound
    forth := by simpa [withIut, forth] using tidy.forth.afterReader iutTask act
    back := kept'
    opened := by simpa [withIut, forth] using tidy.opened
    there := by simpa [withIut, back] using tidy.there
    gone := by simpa [withIut, forth, onward, going, stays] using tidy.gone
    steady := fun _ => steady' }

theorem Tidy.poll_iut (tidy : s.Tidy p) : (s.poll .iut).Tidy p := by
  rcases Option.eq_none_or_eq_some s.ending with going | ⟨ending, ended⟩
  · have steady := tidy.steady going
    cases turn : s.iutTurn with
    | still result =>
      have can : s.iutTurn.Can result := by rw [turn]; rfl
      have kept := iutAsks_going going ▸ tidy.back
      have free : s.link.back.offer = none := kept.free (by simp [turn, Wire.Turn.asks])
      obtain ⟨leaves, -⟩ | ⟨-, onward, steady'⟩ := steady.step can
      · simp [turn, Wire.Turn.asks] at leaves
      · rw [poll_iut_still going turn]
        exact {
          sound := tidy.sound
          forth := tidy.forth
          back := .of_free free _
          opened := tidy.opened
          there := tidy.there
          gone := by simpa [withIut, onward, going] using tidy.gone
          steady := fun _ => steady' }
    | asking act next =>
      have asked : s.iutTurn.asks = some act := by rw [turn]; rfl
      have can : s.iutTurn.Can (next (sight iutTask act s.link.back s.link.forth)) := by
        rw [turn]
        exact ⟨_, Rendezvous.admits_sight _ act _ _, rfl⟩
      obtain ⟨leaves, ending, through⟩ | ⟨stays, onward, steady'⟩ := steady.step can
      · obtain rfl : act = .release := by simpa [asked] using leaves
        exact tidy.poll_iut_leaving going turn through
      · have stays : act ≠ .release := by simpa [asked] using stays
        exact tidy.poll_iut_staying going turn stays onward steady'
  · rw [poll_iut_ended ended]
    exact tidy

theorem part_poll_iut (s : Scene) : (s.poll .iut).part = s.part := by
  simp only [poll]
  split <;> rfl

theorem Orderly.poll (orderly : s.Orderly) (role : Role) : (s.poll role).Orderly := by
  intro q on
  cases role with
  | player =>
    cases playing : s.part with
    | inl p => exact (orderly p playing).poll_player playing on
    | inr verdict => simp [Scene.poll, playing] at on
  | iut =>
    rw [part_poll_iut] at on
    exact (orderly q on).poll_iut

theorem Orderly.run (orderly : s.Orderly) (order : List Role) : (s.run order).Orderly := by
  induction order generalizing s with
  | nil => exact orderly
  | cons role order ih => exact ih (orderly.poll role)

theorem orderly_start (growth : Growth) (config : Config) (t : Transcript) {plan : Plan}
    (sequential : plan.Sequential) : (start growth config t plan).Orderly := by
  intro p playing
  obtain rfl := Sum.inl.inj playing
  exact tidy_start growth config t sequential

end Scene

end WireScript.Rehearsal
