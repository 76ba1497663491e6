import Std.Async.DNS
import Std.Async.TCP
import WireScript.Network.Address
import WireScript.Relay.Answers
import WireScript.Relay.Command

set_option autoImplicit false

namespace WireScript.Relay

open Capture (Format Vessel)
open Std.Async (Async)
open Std.Async.TCP.Socket (Client Server)
open Std.Net (IPAddr SocketAddress)
open Wire (Act Failure Scripted)

def bareHost (host : List Char) : String :=
  match host with
  | '[' :: rest => String.ofList (rest.takeWhile (· != ']'))
  | _ => String.ofList host

def locate (text : String) : Async SocketAddress := do
  match Network.Address.parse text with
  | .error failure => throw (.userError failure.message)
  | .ok address =>
    let found ← Std.Async.DNS.getAddrInfo (bareHost address.host) (toString address.service)
    let service := UInt16.ofNat address.service
    match found.toList with
    | .v4 ip :: _ => pure (.v4 ⟨ip, service⟩)
    | .v6 ip :: _ => pure (.v6 ⟨ip, service⟩)
    | [] => throw (.userError "failed to lookup address information")

def perform (socket : Client) : Act → Async Bytes
  | .read room => do
    let found ← socket.recv? (UInt64.ofNat room)
    pure (found.elim [] (·.toList))
  | .write data => do
    socket.send ⟨data.toArray⟩
    pure []
  | .close => do
    socket.shutdown
    pure []
  -- A socket passes on at once what it is sent.
  | .flush | .release => pure []

def attempt (socket : Client) (act : Act) : Async (Except Failure Bytes) :=
  try .ok <$> perform socket act
  catch e => pure (.error ⟨.other, some (toString e)⟩)

structure Ongoing where
  exchange : IO.Ref (Exchange Scripted Scripted)
  format : Format
  outcome : IO.Promise (Except Failure Unit × Vessel)

-- Whatever has become of the operations, it is the exchange that says what comes next and when it
-- is over.
partial def Ongoing.carry (o : Ongoing) (client server : Client) (lane : Lane) : Async Unit := do
  let x ← o.exchange.get
  match x.wants lane with
  | some act =>
    let answer ← attempt (if lane.onClient act then client else server) act
    o.exchange.modify (·.proceed "relay" lane answer)
    o.carry client server lane
  | none =>
    match x.conclude? o.format (Vessel.empty none false) with
    | some result => o.outcome.resolve result
    | none => pure ()

def session (arguments : Arguments) : Async (Except Failure Unit × Vessel) := do
  let listener ← Server.mk
  listener.bind (← locate arguments.listen)
  listener.listen 1
  let client ← listener.accept
  let server ← Client.mk
  server.connect (← locate arguments.server)
  have : Nonempty (Except Failure Unit × Vessel) := ⟨.ok (), .empty none false⟩
  let o : Ongoing := ⟨← IO.mkRef .untold, arguments.format, ← IO.Promise.new⟩
  Std.Async.background (o.carry client server .toServer)
  Std.Async.background (o.carry client server .toClient)
  Std.Async.await o.outcome

def deliver (output : Option String) (v : Vessel) : IO Unit := do
  let out ←
    match output with
    | some path => IO.FS.Stream.ofHandle <$> IO.FS.Handle.mk path .write
    | none => IO.getStdout
  out.write ⟨v.content.toArray⟩
  if 0 < v.flushes then out.flush

def serve (arguments : Arguments) : IO Exit := do
  match (← (session arguments).block) with
  | (.error failure, _) => pure (failureExit failure)
  | (.ok _, v) =>
    deliver arguments.output v
    pure ⟨0, "", ""⟩

end WireScript.Relay

open WireScript WireScript.Relay in
def main (arguments : List String) : IO UInt32 := do
  let env : Environment := ⟨← IO.getEnv "LISTEN", ← IO.getEnv "UPSTREAM"⟩
  let result ←
    match prepare env arguments with
    | .inl result => pure result
    | .inr arguments =>
      try serve arguments
      catch e => pure (failureExit ⟨.other, some (toString e)⟩)
  IO.print result.stdout
  unless result.stderr.isEmpty do IO.eprintln result.stderr
  return UInt32.ofNat result.code
