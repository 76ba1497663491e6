import WireScript.Proofs.Capture.Sink
import WireScript.Proofs.Recording.Traffic
import WireScript.Proofs.Relay.Pump
import WireScript.Relay.Exchange
import WireScript.Wire.Scripted

set_option autoImplicit false

namespace WireScript.Relay

open Capture (Booked Format Sink Vessel faultsOf writeTranscript)
open Recording (Log Tap)
open Wire (Act Failure Polls Scripted Task Transport Watched)

/-- All that one stream had to give was written to the other, which was then closed. -/
structure Passed (source target : Polls) : Prop where
  whole : target.written = source.received
  ended : source.Ended
  closed : (.close, .done) ∈ target

namespace Exchange

variable {κ ς : Type}

def bare (x : Exchange (Watched κ) (Watched ς)) : Exchange κ ς :=
  ⟨⟨x.client.log, x.client.inner.stream⟩, x.server.stream, x.toServer, x.toClient, x.failure⟩

def map {κ' ς' : Type} (f : κ → κ') (g : ς → ς') (x : Exchange κ ς) : Exchange κ' ς' :=
  ⟨x.client.map f, g x.server, x.toServer, x.toClient, x.failure⟩

theorem noteFailure_of_none {x : Exchange κ ς} (fine : x.failure = none) (status : Status) :
    x.noteFailure status = { x with failure := status.failure? } := by
  cases status <;> simp [noteFailure, Status.failure?, ← fine]

theorem content_transcript (y : Exchange κ ς) :
    y.transcript.content .fromIut = y.client.log.bytes .received ∧
      y.transcript.content .toIut = y.client.log.bytes .sent :=
  ⟨Transcript.content_ofEvents .peer y.client.log.events .received,
    Transcript.content_ofEvents .peer y.client.log.events .sent⟩

theorem conclude?_booked {τ : Type} [Sink τ] (y : Exchange κ ς) (format : Format) (b : Booked τ) :
    y.conclude? format b.sink = (y.conclude? format b).map (fun w => (w.1, w.2.sink)) := by
  have writes := Booked.writes_writeTranscript y.transcript format b
  simp only [conclude?]
  split
  · rfl
  · split
    · exact congrArg some (Prod.ext writes.answer.symm writes.sink.symm)
    · rfl

variable {x : Exchange (Watched κ) (Watched ς)}

structure Fits (x : Exchange (Watched κ) (Watched ς)) : Prop where
  toServer : x.toServer.Conveys x.client.inner.polls x.server.polls
  toClient : x.toClient.Conveys x.server.polls x.client.inner.polls
  log : x.client.log = Log.fresh.notes x.client.inner.polls
  faults : x.client.inner.polls.faults ++ x.server.polls.faults = x.failure.toList

theorem fits_start (client : κ) (server : ς) :
    (start (Watched.fresh client) (Watched.fresh server)).Fits :=
  ⟨Pump.conveys_nothing, Pump.conveys_nothing, rfl, rfl⟩

theorem Fits.received (fits : x.Fits) :
    x.client.log.bytes .received = x.client.inner.polls.received := by
  rw [fits.log, Log.received_notes]
  rfl

theorem Fits.sent (fits : x.Fits) : x.client.log.bytes .sent = x.client.inner.polls.written := by
  rw [fits.log, Log.sent_notes]
  rfl

theorem Fits.passed (fits : x.Fits) (done : x.isDone = true) :
    Passed x.client.inner.polls x.server.polls ∧ Passed x.server.polls x.client.inner.polls := by
  have pumps : x.toServer = .done ∧ x.toClient = .done := by simpa [isDone] using done
  obtain ⟨carried, ended, closed⟩ := fits.toServer
  obtain ⟨carried', ended', closed'⟩ := fits.toClient
  rw [pumps.1] at carried ended closed
  rw [pumps.2] at carried' ended' closed'
  exact ⟨⟨by simpa [Pump.left] using carried.symm, ended trivial, closed rfl⟩,
    ⟨by simpa [Pump.left] using carried'.symm, ended' trivial, closed' rfl⟩⟩

variable [Transport κ] [Transport ς]

section Step

variable {y : Exchange κ ς}

theorem step_toServer (fine : y.failure = none) (task : Task) :
    y.step task .toServer =
      let ((status, pump), client, server) := y.toServer.step task y.client y.server
      ⟨client, server, pump, y.toClient, status.failure?⟩ := by
  rcases step : y.toServer.step task y.client y.server with ⟨⟨status, pump⟩, client, server⟩
  simp only [Exchange.step, fine, step, Option.isSome_none, Bool.false_eq_true, if_false]
  exact noteFailure_of_none rfl status

theorem step_toClient (fine : y.failure = none) (task : Task) :
    y.step task .toClient =
      let ((status, pump), server, client) := y.toClient.step task y.server y.client
      ⟨client, server, y.toServer, pump, status.failure?⟩ := by
  rcases step : y.toClient.step task y.server y.client with ⟨⟨status, pump⟩, server, client⟩
  simp only [Exchange.step, fine, step, Option.isSome_none, Bool.false_eq_true, if_false]
  exact noteFailure_of_none rfl status

theorem step_failed {e : Failure} (failed : y.failure = some e) (task : Task) (lane : Lane) :
    y.step task lane = y := by
  simp [Exchange.step, failed]

end Step

theorem step_map {κ' ς' : Type} [Transport κ'] [Transport ς'] {task : Task} {lane : Lane}
    {f : κ → κ'} {g : ς → ς'} {y : Exchange κ ς}
    (client : ∀ act, y.wants lane = some act → lane.onClient act = true →
      act.Passes task f y.client.inner)
    (server : ∀ act, y.wants lane = some act → lane.onClient act = false →
      act.Passes task g y.server) :
    (y.map f g).step task lane = (y.step task lane).map f g := by
  cases fine : y.failure with
  | some e =>
    have same : (y.map f g).failure = some e := fine
    rw [step_failed fine, step_failed same]
  | none =>
    have same : (y.map f g).failure = none := fine
    have wanted {act : Act} (wants : (y.pump lane).wants = some act) :
        y.wants lane = some act := by
      simpa [Exchange.wants, fine] using wants
    cases lane with
    | toServer =>
      have step := Pump.step_map (f := Tap.map f) (g := g) (p := y.toServer)
        (fun reading => Tap.passes_map
          (client _ (wanted (by simp [pump, reading, Pump.wants])) rfl))
        (fun act asked => server act (wanted (Pump.wants_of_asks asked))
          (Pump.onClient_of_asks asked).1)
      rw [step_toServer fine, step_toServer same]
      simp only [map, step]
    | toClient =>
      have step := Pump.step_map (f := g) (g := Tap.map f) (p := y.toClient)
        (fun reading => server _ (wanted (by simp [pump, reading, Pump.wants])) rfl)
        (fun act asked => Tap.passes_map (client act (wanted (Pump.wants_of_asks asked))
          (Pump.onClient_of_asks asked).2))
      rw [step_toClient fine, step_toClient same]
      simp only [map, step]

theorem bare_step (task : Task) (lane : Lane) (x : Exchange (Watched κ) (Watched ς)) :
    (x.step task lane).bare = x.bare.step task lane :=
  (step_map (fun act _ _ => x.client.inner.passes_stream act task)
    (fun act _ _ => x.server.passes_stream act task)).symm

theorem bare_steps (task : Task) (lanes : List Lane) (x : Exchange (Watched κ) (Watched ς)) :
    (x.steps task lanes).bare = x.bare.steps task lanes := by
  induction lanes generalizing x with
  | nil => rfl
  | cons lane lanes ih => rw [steps, steps, ih, bare_step]

theorem Fits.extend {y : Exchange (Watched κ) (Watched ς)} (fits : x.Fits) (fine : x.failure = none)
    {task : Task} {onClient onServer : Polls} (client : onClient.Made task x.client y.client)
    (server : onServer.Made task x.server y.server)
    (toServer : y.toServer.Conveys (x.client.inner.polls ++ onClient) (x.server.polls ++ onServer))
    (toClient : y.toClient.Conveys (x.server.polls ++ onServer) (x.client.inner.polls ++ onClient))
    (faults : onClient.faults ++ onServer.faults = y.failure.toList) : y.Fits := by
  obtain ⟨inner, log⟩ := Tap.of_made client
  have clientPolls := Watched.polls_of_made inner
  have serverPolls := Watched.polls_of_made server
  have none := fits.faults
  rw [fine] at none
  obtain ⟨onClientBefore, onServerBefore⟩ := List.append_eq_nil_iff.1 none
  refine ⟨?_, ?_, ?_, ?_⟩
  · rw [clientPolls, serverPolls]
    exact toServer
  · rw [clientPolls, serverPolls]
    exact toClient
  · rw [log, fits.log, clientPolls]
    exact List.foldl_append.symm
  · rw [clientPolls, serverPolls, Polls.faults_append, Polls.faults_append, onClientBefore,
      onServerBefore]
    exact faults

theorem Fits.step (fits : x.Fits) (task : Task) (lane : Lane) : (x.step task lane).Fits := by
  cases fine : x.failure with
  | some e =>
    rw [step_failed fine]
    exact fits
  | none =>
    -- One direction reads where the other writes, so that neither notices the other.
    cases lane with
    | toServer =>
      obtain ⟨onClient, onServer, takes, client, server⟩ :=
        x.toServer.step_takes task x.client x.server
      obtain ⟨received, found⟩ := takes.read_onTarget
      rw [step_toServer fine]
      exact fits.extend fine client server (takes.conveys fits.toServer)
        (fits.toClient.extend onServer onClient received found takes.written_onSource) takes.faults
    | toClient =>
      obtain ⟨onServer, onClient, takes, server, client⟩ :=
        x.toClient.step_takes task x.server x.client
      obtain ⟨received, found⟩ := takes.read_onTarget
      rw [step_toClient fine]
      refine fits.extend fine client server
        (fits.toServer.extend onClient onServer received found takes.written_onSource)
        (takes.conveys fits.toClient) ?_
      rw [takes.faults_comm]
      exact takes.faults

theorem Fits.steps (fits : x.Fits) (task : Task) (lanes : List Lane) :
    (x.steps task lanes).Fits := by
  induction lanes generalizing x with
  | nil => exact fits
  | cons lane lanes ih => exact ih (fits.step task lane)

/-- However the two directions take turns, and whatever the streams do: each side was written a
beginning of what was read from the other, and the log has just what was read from the client and
written to it. Once both directions are done, everything has arrived, both streams are closed, and
the transcript that goes to the sink has what either side has sent. A failure of either direction is
the failure of the relay, which then leaves the sink alone. The accounts change nothing. -/
theorem relayed_and_recorded_exactly {τ : Type} [Sink τ] (task : Task) (client : κ) (server : ς)
    (lanes : List Lane) (format : Format) (sink : τ) :
    let x := (start (Watched.fresh client) (Watched.fresh server)).steps task lanes
    let onClient := x.client.inner.polls
    let onServer := x.server.polls
    let written := x.conclude? format (Booked.fresh sink)
    (x.bare = (start client server).steps task lanes ∧
      x.bare.conclude? format sink = written.map (fun w => (w.1, w.2.sink))) ∧
    (onServer.written <+: onClient.received ∧ onClient.written <+: onServer.received) ∧
    (x.client.log.bytes .received = onClient.received ∧
      x.client.log.bytes .sent = onClient.written) ∧
    (x.isDone = true → x.failure = none →
      Passed onClient onServer ∧ Passed onServer onClient ∧
      x.transcript.content .fromIut = onClient.received ∧
      x.transcript.content .toIut = onServer.received ∧
      ∃ answer b, written = some (answer, b) ∧ b.faults = faultsOf answer ∧
        (answer = .ok () →
          ∃ text, b.taken = Bytes.ofText text ∧ format.readBack text = some x.transcript)) ∧
    (x.failure.toList = onClient.faults ++ onServer.faults ∧
      ∀ e, x.failure = some e → written = some (.error e, Booked.fresh sink)) := by
  intro x onClient onServer written
  have fits : x.Fits := (fits_start client server).steps task lanes
  have erased : x.bare = (start client server).steps task lanes := bare_steps task lanes _
  refine ⟨⟨erased, x.conclude?_booked format (Booked.fresh sink)⟩, ⟨?_, ?_⟩,
    ⟨fits.received, fits.sent⟩, ?_, fits.faults.symm, ?_⟩
  · exact ⟨x.toServer.left, fits.toServer.carried.symm⟩
  · exact ⟨x.toClient.left, fits.toClient.carried.symm⟩
  · intro done fine
    obtain ⟨toServer, toClient⟩ := fits.passed done
    obtain ⟨received, sent⟩ := x.content_transcript
    have concludes : written = some (writeTranscript x.transcript format (Booked.fresh sink)) := by
      simp [written, conclude?, fine, done]
    refine ⟨toServer, toClient, ?_, ?_, _, _, concludes, ?_, ?_⟩
    · rw [received, fits.received]
    · rw [sent, fits.sent, toClient.whole]
    · exact Booked.faults_writeTranscript x.transcript format sink
    · exact Booked.read_writeTranscript x.transcript format sink
  · intro e failed
    simp [written, conclude?, failed]

def sampleClient : Scripted := .start [.give [1, 2], .wait, .give [3]] [.give 1] []

def sampleServer : Scripted := .start [.wait, .give [7, 8]] [.wait, .give 1] [.wait]

def sampleExchange : Exchange (Watched Scripted) (Watched Scripted) :=
  (start (Watched.fresh sampleClient) (Watched.fresh sampleServer)).steps "relay"
    (List.replicate 12 [Lane.toServer, .toClient]).flatten

theorem sampleExchange_relayed :
    sampleExchange.isDone = true ∧ sampleExchange.failure = none ∧
    Passed sampleExchange.client.inner.polls sampleExchange.server.polls ∧
    Passed sampleExchange.server.polls sampleExchange.client.inner.polls ∧
    sampleExchange.transcript.content .fromIut = [1, 2, 3] ∧
    sampleExchange.transcript.content .toIut = [7, 8] ∧
    ∃ b text, sampleExchange.conclude? .fixture (Booked.fresh (Vessel.empty none false)) =
        some (.ok (), b) ∧
      b.taken = Bytes.ofText text ∧
      Format.fixture.readBack text = some sampleExchange.transcript := by
  have done : sampleExchange.isDone = true := by decide
  have fine : sampleExchange.failure = none := by decide
  obtain ⟨-, -, -, passes, -⟩ := relayed_and_recorded_exactly "relay" sampleClient sampleServer
    (List.replicate 12 [Lane.toServer, .toClient]).flatten .fixture (Vessel.empty none false)
  obtain ⟨toServer, toClient, fromIut, toIut, answer, b, written, faults, reads⟩ :=
    passes done fine
  have whole : writeTranscript sampleExchange.transcript .fixture
      (Booked.fresh (Vessel.empty none false)) = (answer, b) := by
    have concludes : sampleExchange.conclude? .fixture (Booked.fresh (Vessel.empty none false)) =
        some (answer, b) := written
    simpa [conclude?, fine, done] using concludes
  have calm := Vessel.faults_roomy rfl rfl sampleExchange.transcript .fixture
    (v := Vessel.empty none false)
  rw [whole] at calm
  rw [calm] at faults
  cases answer with
  | error e => simp [faultsOf] at faults
  | ok _ =>
    obtain ⟨text, taken, read⟩ := reads rfl
    exact ⟨done, fine, toServer, toClient, fromIut, toIut, b, text, written, taken, read⟩

end Exchange

end WireScript.Relay
