import WireScript.Capture.Run
import WireScript.Proofs.Capture.Sink
import WireScript.Proofs.Recording.Traffic
import WireScript.Wire.Scripted

set_option autoImplicit false

namespace WireScript.Capture

open Party (Actor Plan Status)
open Recording (Tap trafficOf)
open Wire (Failure Polls Task Transport Turn Scripted)

section Session

variable {σ : Type} [Transport σ]

def polls (task : Task) : (limit now : Nat) → Actor → σ → Polls
  | 0, _, _, _ => []
  | limit + 1, now, p, s =>
    (p.turn now Party.timersPerTurn).poll task s ++
      match p.step task now Party.timersPerTurn s with
      | (.over _, _, _) => []
      | (.waiting, p, s) => polls task limit (p.alarm.getD now) p s
      | (_, p, s) => polls task limit now p s

theorem made_polls (task : Task) (limit now : Nat) (p : Actor) (s : σ) :
    (polls task limit now p s).Made task s (play task limit now p s).2.2 := by
  induction limit generalizing now p s with
  | zero => rfl
  | succ limit ih =>
    have first := (p.turn now Party.timersPerTurn).made_poll task s
    rw [polls, play, Actor.step_eq_run_turn]
    rcases comes : (p.turn now Party.timersPerTurn).run task s with ⟨⟨status, q⟩, s₁⟩
    rw [comes] at first
    apply first.append
    cases status with
    | waiting => exact ih (q.alarm.getD now) q s₁
    | running => exact ih now q s₁
    | elapsed => exact ih now q s₁
    | yielding => exact ih now q s₁
    | _ => rfl

end Session

variable {σ τ : Type} [Sink τ]

def outcomeOf (t : Transcript) : Except Failure Unit → Outcome
  | .ok _ => .captured t
  | .error e => .failed (.output e)

theorem conclude_eq (format : Format) (tap : Tap σ) (sink : τ) :
    conclude format tap sink =
      (let t := Transcript.ofEvents .iut tap.log.events
      let written := writeTranscript t format sink
      (outcomeOf t written.1, written.2)) := by
  simp only [conclude]
  rcases writeTranscript (.ofEvents .iut tap.log.events) format sink with ⟨_ | _, _⟩ <;> rfl

theorem conclude_booked (format : Format) (tap : Tap σ) (b : Booked τ) :
    conclude format tap b.sink = ((conclude format tap b).1, (conclude format tap b).2.sink) := by
  have writes := Booked.writes_writeTranscript (.ofEvents .iut tap.log.events) format b
  simp only [conclude_eq, writes.answer, writes.sink]

variable [Transport σ]

theorem run_booked (limit : Nat) (config : Config) (connect : String → Except Failure σ)
    (plan : Plan) (b : Booked τ) :
    run limit config connect plan b.sink =
      (let kept := run limit config connect plan b; (kept.1, kept.2.1, kept.2.2.sink)) := by
  cases enabled : config.enabled with
  | false => simp [run, enabled]
  | true =>
    cases reached : connect config.address with
    | error e => simp [run, enabled, reached]
    | ok stream =>
      simp only [run, enabled, reached]
      -- Only a session that has returned without a failure gets to the sink.
      rcases play "iut" limit 0 (Actor.start plan) (Tap.wrap stream) with
        ⟨_ | (_ | e) | text, iut, tap⟩
      · rfl
      · simp [conclude_booked]
      · rfl
      · rfl

theorem run_returned (config : Config) (connect : String → Except Failure σ) {limit : Nat}
    {plan : Plan} {stream : σ} {iut : Actor} {tap : Tap σ} (enabled : config.enabled = true)
    (reached : connect config.address = .ok stream)
    (played : play "iut" limit 0 (Actor.start plan) (Tap.wrap stream) =
      (some (.returned none), iut, tap)) (sink : τ) :
    run limit config connect plan sink =
      ((conclude config.format tap sink).1, iut, (conclude config.format tap sink).2) := by
  simp [run, enabled, reached, played]

/-- A session that went well is kept: its traffic is in the transcript that is returned, which is
also what the sink holds, unless the sink has failed. -/
structure Kept (format : Format) (session : Polls) (outcome : Outcome) (b : Booked τ) : Prop where
  failed : ∀ e ∈ b.faults, outcome = .failed (.output e)
  captured : b.faults = [] → ∃ t text, outcome = .captured t ∧
    Transcript.streamOf t.segments = trafficOf .iut session ∧
    b.taken = Bytes.ofText text ∧ format.readBack text = some t

theorem kept_conclude {task : Task} {session : Polls} {stream : σ} {tap : Tap σ}
    (made : session.Made task (Tap.wrap stream) tap) (format : Format) (sink : τ) :
    Kept format session (conclude format tap (Booked.fresh sink)).1
      (conclude format tap (Booked.fresh sink)).2 := by
  have traffic : Transcript.streamOf (Transcript.ofEvents .iut tap.log.events).segments =
      trafficOf .iut session := by
    have logged : tap.log = Recording.Log.fresh.notes session := (Tap.of_made made).2
    rw [logged]
    calc _ = (Recording.Log.fresh.notes session).traffic .iut :=
          Recording.Log.traffic_ofEvents_drain _ .iut
      _ = trafficOf .iut session := Recording.Log.fresh.traffic_notes .iut session
  have faults := Booked.faults_writeTranscript (.ofEvents .iut tap.log.events) format sink
  have reads := Booked.read_writeTranscript (.ofEvents .iut tap.log.events) format sink
  simp only [conclude_eq]
  cases answer : (writeTranscript (.ofEvents .iut tap.log.events) format (Booked.fresh sink)).1 with
  | error e =>
    rw [answer] at faults
    exact ⟨by simp [faults, faultsOf, outcomeOf], by simp [faults, faultsOf]⟩
  | ok _ =>
    rw [answer] at faults
    obtain ⟨text, taken, read⟩ := reads answer
    exact ⟨by simp [faults, faultsOf], fun _ => ⟨_, text, rfl, traffic, taken, read⟩⟩

/-- An enabled capture of a session, on a sink with a book. Without a connection, or when the
session fails, the capture fails with that and leaves the sink alone. A session that went well is
kept with all that its operations have moved, in their order; and so is whatever else is done on a
recorded stream. The book changes nothing. -/
theorem session_captured_and_written (limit : Nat) (config : Config)
    (enabled : config.enabled = true) (connect : String → Except Failure σ) (plan : Plan)
    (sink : τ) :
    let capture := run limit config connect plan (Booked.fresh sink)
    run limit config connect plan sink = (capture.1, capture.2.1, capture.2.2.sink) ∧
    (∀ e, connect config.address = .error e →
      capture.1 = .failed (.connect config.address e) ∧ capture.2.2.deeds = []) ∧
    (∀ stream failure iut tap, connect config.address = .ok stream →
      play "iut" limit 0 (Actor.start plan) (Tap.wrap stream) =
        (some (.returned failure), iut, tap) →
      let session := polls "iut" limit 0 (Actor.start plan) (Tap.wrap stream)
      session.Made "iut" (Tap.wrap stream) tap ∧ session.Made "iut" stream tap.inner ∧
      (∀ e, failure = some e →
        capture.1 = .failed (.session e) ∧ capture.2.2.deeds = []) ∧
      (failure = none → Kept config.format session capture.1 capture.2.2)) ∧
    ∀ (task : Task) (stream : σ) (session : Polls) (tap : Tap σ),
      session.Made task (Tap.wrap stream) tap →
      Kept config.format session (conclude config.format tap (Booked.fresh sink)).1
        (conclude config.format tap (Booked.fresh sink)).2 := by
  intro capture
  refine ⟨run_booked limit config connect plan (Booked.fresh sink), ?_, ?_, ?_⟩
  · intro e refused
    simp [capture, run, enabled, refused, Booked.fresh]
  · intro stream failure iut tap reached played session
    have made : session.Made "iut" (Tap.wrap stream) tap := by
      have all := made_polls "iut" limit 0 (Actor.start plan) (Tap.wrap stream)
      rw [played] at all
      exact all
    refine ⟨made, (Tap.of_made made).1, ?_, ?_⟩
    · rintro e rfl
      simp [capture, run, enabled, reached, played, Booked.fresh]
    · rintro rfl
      have concludes := run_returned config connect enabled reached played (Booked.fresh sink)
      simp only [capture, concludes]
      exact kept_conclude made config.format sink
  · intro task stream session tap made
    exact kept_conclude made config.format sink

def sampleErrand : Plan :=
  .ofSteps false [.writeAll [1, 2, 3], .sleep 5, .readExact 3, .echo 1, .flush, .close]

def samplePeer : Scripted :=
  .start [.wait, .give [7, 8], .give [9, 5]] [.give 2, .wait] [.wait]

def sampleConnect (_ : String) : Except Failure Scripted := .ok samplePeer

theorem sampleErrand_captured :
    let capture := run 40 ⟨true, "peer", .json⟩ sampleConnect sampleErrand
      (Booked.fresh (Vessel.empty none false))
    ∃ t text, capture.1 = .captured t ∧
      Transcript.streamOf t.segments = Direction.fromIut.mark [1, 2, 3] ++
        Direction.toIut.mark [7, 8, 9, 5] ++ Direction.fromIut.mark [5] ∧
      capture.2.2.taken = Bytes.ofText text ∧ Format.json.readBack text = some t := by
  obtain ⟨iut, tap, played⟩ : ∃ iut tap,
      play "iut" 40 0 (Actor.start sampleErrand) (Tap.wrap samplePeer) =
        (some (.returned none), iut, tap) := ⟨_, _, rfl⟩
  obtain ⟨-, -, captures, -⟩ := session_captured_and_written 40 ⟨true, "peer", .json⟩ rfl
    sampleConnect sampleErrand (Vessel.empty none false)
  obtain ⟨-, -, -, kept⟩ := captures samplePeer none iut tap rfl played
  apply (kept rfl).captured
  rw [run_returned ⟨true, "peer", .json⟩ sampleConnect rfl rfl played, conclude_eq]
  exact Vessel.faults_roomy rfl rfl _ .json

end WireScript.Capture
