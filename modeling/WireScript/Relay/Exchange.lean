import WireScript.Capture.Output
import WireScript.Recording.Tap
import WireScript.Relay.Pump

set_option autoImplicit false

namespace WireScript.Relay

open Capture (Format Sink writeTranscript)
open Recording (Tap)
open Wire (Act Failure Task Transport)

inductive Lane
  | toServer
  | toClient
deriving DecidableEq, Repr

def Lane.onClient : Lane → Act → Bool
  | .toServer, .read _ => true
  | .toServer, _ => false
  | .toClient, .read _ => false
  | .toClient, _ => true

structure Exchange (κ ς : Type) where
  client : Tap κ
  server : ς
  toServer : Pump
  toClient : Pump
  failure : Option Failure

namespace Exchange

variable {κ ς : Type}

def pump (x : Exchange κ ς) : Lane → Pump
  | .toServer => x.toServer
  | .toClient => x.toClient

def wants (x : Exchange κ ς) (lane : Lane) : Option Act :=
  if x.failure.isSome then none else (x.pump lane).wants

variable [Transport κ] [Transport ς]

def start (client : κ) (server : ς) : Exchange κ ς :=
  ⟨.wrap client, server, .reading, .reading, none⟩

def noteFailure (x : Exchange κ ς) : Status → Exchange κ ς
  | .failed e => { x with failure := some e }
  | _ => x

def step (task : Task) (lane : Lane) (x : Exchange κ ς) : Exchange κ ς :=
  if x.failure.isSome then x
  else
    match lane with
    | .toServer =>
      let ((status, pump), client, server) := x.toServer.step task x.client x.server
      { x with client, server, toServer := pump }.noteFailure status
    | .toClient =>
      let ((status, pump), server, client) := x.toClient.step task x.server x.client
      { x with client, server, toClient := pump }.noteFailure status

def steps (task : Task) (x : Exchange κ ς) : List Lane → Exchange κ ς
  | [] => x
  | lane :: rest => (x.step task lane).steps task rest

def isDone (x : Exchange κ ς) : Bool := x.toServer == .done && x.toClient == .done

def transcript (x : Exchange κ ς) : Transcript := .ofEvents .peer x.client.log.events

/-- Writes the transcript of an exchange that is done; a failed one writes nothing, and one that is
still going on has no result. -/
def conclude? {τ : Type} [Sink τ] (x : Exchange κ ς) (format : Format) (sink : τ) :
    Option (Except Failure Unit × τ) :=
  match x.failure with
  | some e => some (.error e, sink)
  | none => if x.isDone then some (writeTranscript x.transcript format sink) else none

end Exchange

end WireScript.Relay
