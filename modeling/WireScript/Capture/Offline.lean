import WireScript.Capture.Run
import WireScript.Rendezvous.Link

set_option autoImplicit false

namespace WireScript.Capture

open Party (Plan Step)
open Rendezvous (Terminal)

def runOffline (config : Config) (iut : List Step) (peer : Option (List Step)) (sink : Vessel) :
    Outcome × List Party.Entry × Vessel :=
  if peer.isSome && (Network.Isolated.listen Network.Isolated.loopback).toOption.isNone then
    (.stalled, [], sink)
  else
    let connect (address : String) : Except Wire.Failure (Terminal .a) :=
      .error (Network.Isolated.connect address)
    let (outcome, actor, sink) := run (iut.length + 1) config connect (.ofSteps false iut) sink
    (outcome, actor.entries, sink)

end WireScript.Capture
