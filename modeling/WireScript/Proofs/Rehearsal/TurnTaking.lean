import WireScript.Proofs.Recording.Traffic
import WireScript.Proofs.Rendezvous.Pipe
import WireScript.Proofs.Replay.Account
import WireScript.Rehearsal.Run

set_option autoImplicit false

namespace WireScript.Rehearsal

open Recording (Log Tap)
open Rendezvous (Link Pipe Terminal sight)
open Replay (Config Player Verdict)
open Wire (Act Sight Task)

structure Trial where
  part : Player ⊕ Verdict
  link : Link
  playerLog : Log
  iutLog : Log

inductive Cue
  | player
  | iut (act : Act) (task : Task)
  | leave
deriving DecidableEq, Repr

namespace Trial

def start (growth : Wire.Growth) (config : Config) (t : Transcript) : Trial :=
  ⟨.inl (.start growth config t), .fresh, .fresh, .fresh⟩

def play (s : Trial) : Cue → Trial
  | .player =>
    match s.part with
    | .inr _ => s
    | .inl player =>
      let (status, tap) := player.step playerTask (⟨s.playerLog, ⟨s.link⟩⟩ : Tap (Terminal .a))
      { s with part := status.part, link := tap.inner.link, playerLog := tap.log }
  | .iut act task =>
    if s.link.isDropped .b then s
    else
      let (_, tap) := act.perform task (⟨s.iutLog, ⟨s.link⟩⟩ : Tap (Terminal .b))
      { s with link := tap.inner.link, iutLog := tap.log }
  | .leave =>
    match s.part with
    | .inr _ => { s with link := s.link.drop .a }
    | .inl _ => s

def run (s : Trial) (cues : List Cue) : Trial := cues.foldl play s

def heard (s : Trial) : Bytes := s.iutLog.bytes .received

def taken (s : Trial) : Bytes := s.playerLog.bytes .received

def told (s : Trial) : Bytes := s.playerLog.bytes .sent

def completed (t : Transcript) (s : Trial) : Nat :=
  match s.part with
  | .inl player => player.index
  | .inr verdict => verdict.completed t

structure InTurn (t : Transcript) (i : Nat) (heard taken : Bytes) : Prop where
  heard : ∃ part, part <+: t.due i .toIut ∧ heard = (t.upTo i).content .toIut ++ part
  taken : i < t.length → ∃ more, more.length ≤ (t.due i .fromIut).length ∧
    taken = (t.upTo i).content .fromIut ++ more

structure Playing (t : Transcript) (s : Trial) (p : Player) : Prop where
  sound : p.Sound
  abides : p.Abides t s.told s.taken
  kept : s.link.forth.Kept p.turn.asks
  opened : s.link.forth.writeClosed = false
  heard : s.heard = s.told ++ s.link.forth.ahead

theorem playing_start (growth : Wire.Growth) (config : Config) (t : Transcript) :
    (start growth config t).Playing t (.start growth config t) where
  sound := Player.sound_start growth config t
  abides := Player.abides_start growth config t
  kept := Pipe.Kept.of_free rfl _
  opened := rfl
  heard := rfl

variable {t : Transcript} {s : Trial} {p : Player}

theorem Playing.inTurn (playing : s.Playing t p) : InTurn t p.index s.heard s.taken where
  heard := by
    refine ⟨p.fed ++ s.link.forth.ahead, ?_, ?_⟩
    · by_cases free : s.link.forth.offer = none
      · rw [Pipe.ahead_of_free free, List.append_nil]
        exact playing.abides.fed_prefix playing.sound
      · -- What is on the channel is the rest of the segment, of which the first bytes were taken.
        have asked := playing.kept.data_eq free
        rw [playing.abides.due_of_write playing.sound asked, ← List.append_assoc]
        exact List.prefix_append _ _
    · rw [playing.heard, playing.abides.told, List.append_assoc]
  taken within := ⟨p.got, playing.abides.length_got_le playing.sound within, playing.abides.taken⟩

structure Over (t : Transcript) (s : Trial) (verdict : Verdict) : Prop where
  inTurn : InTurn t (verdict.completed t) s.heard s.taken
  silent : s.link.forth.available = [] ∨ s.link.forth.readClosed = true

def Good (t : Transcript) (s : Trial) : Prop :=
  (∃ p, s.part = .inl p ∧ s.Playing t p) ∨ ∃ verdict, s.part = .inr verdict ∧ s.Over t verdict

theorem play_player_still (playing : s.part = .inl p) {status : Replay.Status}
    (turn : p.turn = .still status) : s.play .player = { s with part := status.part } := by
  simp only [play, playing, Player.step_eq_run_turn, turn, Wire.Turn.run]

theorem play_player_asking (playing : s.part = .inl p) {act : Act} {next : Sight → Replay.Status}
    (turn : p.turn = .asking act next) :
    ∃ link : Link, link.forth = s.link.forth.afterWriter playerTask act ∧
      s.play .player =
        { s with
          part := (next (sight playerTask act s.link.forth s.link.back)).part
          link := link
          playerLog := s.playerLog.note act (sight playerTask act s.link.forth s.link.back) } := by
  refine ⟨(act.perform playerTask (⟨s.link⟩ : Terminal .a)).2.link,
    Rendezvous.outbound_perform playerTask act .a s.link, ?_⟩
  simp only [play, playing, Player.step_eq_run_turn, turn, Wire.Turn.run, Tap.perform_eq,
    Rendezvous.perform_sight]
  rfl

theorem Playing.play_player_still (playing : s.Playing t p) (part : s.part = .inl p)
    {status : Replay.Status} (turn : p.turn = .still status) : (s.play .player).Good t := by
  have free : s.link.forth.offer = none := playing.kept.free (by simp [turn, Wire.Turn.asks])
  rw [Trial.play_player_still part turn]
  cases on : status.part with
  | inl q =>
    refine .inl ⟨q, rfl, ?_⟩
    exact {
      sound := playing.sound.step (by rw [turn]; rfl) on
      abides := playing.abides.after_still playing.sound turn on
      kept := .of_free free _
      opened := playing.opened
      heard := playing.heard }
  | inr verdict =>
    refine .inr ⟨verdict, rfl, ?_, .inl (Pipe.available_of_free free)⟩
    rw [playing.abides.completed_still playing.sound turn on]
    exact playing.inTurn

theorem Playing.after_player (playing : s.Playing t p) {act : Act} {next : Sight → Replay.Status}
    (turn : p.turn = .asking act next) {q : Player}
    (on : (next (sight playerTask act s.link.forth s.link.back)).part = .inl q) {link : Link}
    (forth : link.forth = s.link.forth.afterWriter playerTask act) (part : Player ⊕ Verdict) :
    Playing t
      { s with
        part := part
        link := link
        playerLog := s.playerLog.note act (sight playerTask act s.link.forth s.link.back) } q := by
  have asked : p.turn.asks = some act := by rw [turn]; rfl
  obtain ⟨proper, opens, stays⟩ := playing.sound.asks asked
  have admits := Rendezvous.admits_sight playerTask act s.link.forth s.link.back
  have kept := playing.kept
  rw [asked] at kept
  have behind := kept.ahead_afterWriter playerTask s.link.back
  exact {
    sound := playing.sound.step (by rw [turn]; exact ⟨_, admits, rfl⟩) on
    abides := by
      have abides := playing.abides.after_asking playing.sound turn admits on
      simpa [told, taken, Log.sent_note, Log.received_note] using abides
    kept := by
      rw [forth]
      by_cases waits : sight playerTask act s.link.forth s.link.back = .pending
      · rw [waits, Player.next_pending turn] at on
        obtain rfl := Sum.inl.inj on
        exact asked ▸ kept.waiting playerTask proper waits
      · refine .of_free (kept.moved playerTask proper waits (.inr ?_)) _
        intro e failed
        rw [failed, Player.next_failed turn] at on
        simp [Player.fail, Replay.Status.part] at on
    opened := by simpa [forth, opens, stays] using playing.opened
    heard := by
      -- The implementation heard the bytes before the player is told that they were taken.
      have heard := playing.heard
      rw [behind, ← List.append_assoc] at heard
      simpa [Trial.heard, told, Log.sent_note, forth] using heard }

theorem Playing.silent (playing : s.Playing t p) {act : Act} {next : Sight → Replay.Status}
    (turn : p.turn = .asking act next) {verdict : Verdict}
    (through : (next (sight playerTask act s.link.forth s.link.back)).part = .inr verdict) :
    (s.link.forth.afterWriter playerTask act).available = [] ∨ s.link.forth.readClosed = true := by
  have asked : p.turn.asks = some act := by rw [turn]; rfl
  obtain ⟨proper, -⟩ := playing.sound.asks asked
  have kept := playing.kept
  rw [asked] at kept
  -- A write that fails is left behind, but then nobody is there to read it.
  rcases Bool.eq_false_or_eq_true s.link.forth.readClosed with gone | there
  · exact .inr gone
  · left
    have moves : sight playerTask act s.link.forth s.link.back ≠ .pending := by
      intro waits
      rw [waits, Player.next_pending turn] at through
      simp [Replay.Status.part] at through
    exact Pipe.available_of_free (kept.moved playerTask proper moves (.inl there))

theorem Playing.play_player_asking (playing : s.Playing t p) (part : s.part = .inl p) {act : Act}
    {next : Sight → Replay.Status} (turn : p.turn = .asking act next) :
    (s.play .player).Good t := by
  obtain ⟨link, forth, after⟩ := Trial.play_player_asking part turn
  have admits := Rendezvous.admits_sight playerTask act s.link.forth s.link.back
  rw [after]
  cases on : (next (sight playerTask act s.link.forth s.link.back)).part with
  | inl q => exact .inl ⟨q, rfl, playing.after_player turn on forth _⟩
  | inr verdict =>
    obtain ⟨completed, nothing⟩ := playing.abides.completed_asking playing.sound turn admits on
    refine .inr ⟨verdict, rfl, ?_, ?_⟩
    · rw [completed]
      refine ⟨playing.inTurn.heard, ?_⟩
      intro within
      obtain none | done := nothing
      · simpa [taken, Log.received_note, none] using playing.inTurn.taken within
      · exact absurd done (Nat.ne_of_lt within)
    · simpa [forth] using playing.silent turn on

theorem play_iut_there (there : ¬ s.link.isDropped .b) (act : Act) (task : Task) :
    ∃ link : Link, link.forth = s.link.forth.afterReader task act ∧
      s.play (.iut act task) =
        { s with
          link := link
          iutLog := s.iutLog.note act (sight task act s.link.back s.link.forth) } := by
  refine ⟨(act.perform task (⟨s.link⟩ : Terminal .b)).2.link,
    Rendezvous.inbound_perform task act .b s.link, ?_⟩
  simp only [play, there, Bool.false_eq_true, if_false, Tap.perform_eq, Rendezvous.perform_sight]
  rfl

theorem Good.play_iut (good : s.Good t) (act : Act) (task : Task) :
    (s.play (.iut act task)).Good t := by
  by_cases gone : s.link.isDropped .b
  · simpa [play, gone] using good
  · obtain ⟨link, forth, after⟩ := play_iut_there gone act task
    rw [after]
    have ahead := Pipe.ahead_afterReader task act s.link.back s.link.forth
    have available := Pipe.available_afterReader task act s.link.back s.link.forth
    rw [← forth] at ahead available
    -- Whatever it does, it gets no more than what is on offer, and the offer gets less by that.
    obtain ⟨p, part, playing⟩ | ⟨verdict, part, through⟩ := good
    · refine .inl ⟨p, part, ?_⟩
      exact {
        sound := playing.sound
        abides := playing.abides
        kept := forth ▸ playing.kept.afterReader task act
        opened := by simpa [forth] using playing.opened
        heard := by
          have heard := playing.heard
          simp only [Trial.heard, told] at heard ⊢
          rw [Log.received_note, heard, ahead, List.append_assoc] }
    · refine .inr ⟨verdict, part, ?_⟩
      have silent : s.link.forth.available = [] := by
        obtain silent | closed := through.silent
        · exact silent
        · exact absurd closed gone
      rw [silent] at available
      obtain ⟨nothing, silent'⟩ := List.append_eq_nil_iff.1 available.symm
      refine ⟨?_, .inl silent'⟩
      have inTurn := through.inTurn
      simpa [Trial.heard, taken, Log.received_note, nothing] using inTurn

theorem Good.play (good : s.Good t) (cue : Cue) : (s.play cue).Good t := by
  cases cue with
  | iut act task => exact good.play_iut act task
  | player =>
    obtain ⟨p, part, playing⟩ | ⟨verdict, part, through⟩ := good
    · cases turn : p.turn with
      | still status => exact playing.play_player_still part turn
      | asking act next => exact playing.play_player_asking part turn
    · exact .inr ⟨verdict, by simp [Trial.play, part], by simpa [Trial.play, part] using through⟩
  | leave =>
    obtain ⟨p, part, playing⟩ | ⟨verdict, part, through⟩ := good
    · exact .inl ⟨p, by simp [Trial.play, part], by simpa [Trial.play, part] using playing⟩
    · refine .inr ⟨verdict, by simp [Trial.play, part], ?_⟩
      simp only [Trial.play, part]
      exact ⟨through.inTurn, through.silent⟩

theorem Good.run (good : s.Good t) (cues : List Cue) : (s.run cues).Good t := by
  induction cues generalizing s with
  | nil => exact good
  | cons cue cues ih => exact ih (good.play cue)

theorem Good.inTurn (good : s.Good t) : InTurn t (s.completed t) s.heard s.taken := by
  obtain ⟨p, part, playing⟩ | ⟨verdict, part, through⟩ := good
  · simpa [completed, part] using playing.inTurn
  · simpa [completed, part] using through.inTurn

/-- Strict turns: the bytes that have passed are those of the segments that are done, and some of
the current one. So nothing of a later segment can be heard before its turn. -/
theorem strict_turn_taking (growth : Wire.Growth) (config : Config) (t : Transcript)
    (cues : List Cue) :
    InTurn t (((start growth config t).run cues).completed t)
        ((start growth config t).run cues).heard ((start growth config t).run cues).taken ∧
      ∀ j, ((start growth config t).run cues).completed t < j →
        ((start growth config t).run cues).heard <+: (t.upTo j).content .toIut := by
  have good : (start growth config t).Good t := .inl ⟨_, rfl, playing_start growth config t⟩
  have inTurn := (good.run cues).inTurn
  refine ⟨inTurn, ?_⟩
  intro j later
  obtain ⟨part, first, heard⟩ := inTurn.heard
  have current : ((start growth config t).run cues).heard <+:
      (t.upTo (((start growth config t).run cues).completed t + 1)).content .toIut := by
    rw [heard, Transcript.content_upTo_succ, List.prefix_append_right_inj]
    exact first
  exact current.trans (t.content_upTo_prefix .toIut later)

def repeated : Transcript := ⟨[.inject [1, 2], .expect [5], .inject [1, 2]]⟩

def greedy : List Cue :=
  [.player, .player, .iut (.read 1) "iut", .iut (.read 8) "iut", .iut (.read 8) "iut", .player,
    .player, .player, .iut (.read 8) "iut", .player, .iut (.write [6]) "iut",
    .iut (.write [7]) "iut", .iut (.write [5, 6]) "iut", .player, .iut (.read 8) "iut"]

theorem greedy_in_turn :
    ((start .standard .standard repeated).run greedy).completed repeated = 1 ∧
      ((start .standard .standard repeated).run greedy).heard = [1, 2] ∧
      ((start .standard .standard repeated).run greedy).taken = [5] ∧
      InTurn repeated 1 [1, 2] [5] ∧ [1, 2] <+: (repeated.upTo 2).content .toIut := by
  have turns := strict_turn_taking .standard .standard repeated greedy
  have completed : ((start .standard .standard repeated).run greedy).completed repeated = 1 := rfl
  have heard : ((start .standard .standard repeated).run greedy).heard = [1, 2] := rfl
  have taken : ((start .standard .standard repeated).run greedy).taken = [5] := rfl
  rw [completed, heard, taken] at turns
  exact ⟨completed, heard, taken, turns.1, turns.2 2 (by decide)⟩

end Trial

end WireScript.Rehearsal
