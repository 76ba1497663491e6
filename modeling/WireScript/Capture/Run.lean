import WireScript.Capture.Config
import WireScript.Capture.Output
import WireScript.Network.Isolated
import WireScript.Party.Actor
import WireScript.Recording.Tap

set_option autoImplicit false

namespace WireScript.Capture

open Party (Actor Ending Plan)
open Recording (Tap)
open Wire (Failure Task Transport)

inductive Fault
  | connect (address : String) (failure : Failure)
  | session (failure : Failure)
  | output (failure : Failure)
deriving DecidableEq, Repr

def Fault.message : Fault → String
  | .connect address failure => s!"failed to connect to {address}: {failure.message}"
  | .session failure => s!"capture session failed: {failure.message}"
  | .output failure => s!"failed to write capture: {failure.message}"

inductive Outcome
  | disabled
  | captured (transcript : Transcript)
  | failed (fault : Fault)
  | panicked (text : String)
  | stalled

variable {σ τ : Type} [Transport σ] [Sink τ]

-- None if `limit` steps do not suffice.
def play (task : Task) : (limit now : Nat) → Actor → σ → Option Ending × Actor × σ
  | 0, _, p, s => (none, p, s)
  | limit + 1, now, p, s =>
    match p.step task now Party.timersPerTurn s with
    | (.over ending, p, s) => (some ending, p, s)
    | (.waiting, p, s) => play task limit (p.alarm.getD now) p s
    | (_, p, s) => play task limit now p s

def conclude (format : Format) (tap : Tap σ) (sink : τ) : Outcome × τ :=
  let transcript := Transcript.ofEvents .iut tap.log.events
  match writeTranscript transcript format sink with
  | (.ok _, sink) => (.captured transcript, sink)
  | (.error e, sink) => (.failed (.output e), sink)

/-- Captures a session; `connect` answers for the network. -/
def run (limit : Nat) (config : Config) (connect : String → Except Failure σ) (plan : Plan)
    (sink : τ) : Outcome × Actor × τ :=
  let iut := Actor.start plan
  if !config.enabled then (.disabled, iut, sink)
  else
    match connect config.address with
    | .error e => (.failed (.connect config.address e), iut, sink)
    | .ok stream =>
      match play "iut" limit 0 iut (Tap.wrap stream) with
      | (none, iut, _) => (.stalled, iut, sink)
      | (some (.panicked text), iut, _) => (.panicked text, iut, sink)
      | (some (.returned (some e)), iut, _) => (.failed (.session e), iut, sink)
      | (some (.returned none), iut, tap) =>
        let (outcome, sink) := conclude config.format tap sink
        (outcome, iut, sink)

end WireScript.Capture
