import WireScript.Relay.Exchange
import WireScript.Wire.Scripted

set_option autoImplicit false

namespace WireScript.Relay

open Wire (Act Failure Reply Scripted Task)

def reply {α : Type} (value : Bytes → α) : Except Failure Bytes → Reply α
  | .ok found => .give (value found)
  | .error e => .fail e

-- Only reads come back with bytes; a write comes back once all of its bytes are sent.
def hearOf (act : Act) (answer : Except Failure Bytes) (s : Scripted) : Scripted :=
  match act with
  | .read _ => { s with reads := s.reads ++ [reply id answer] }
  | .write data => { s with writes := s.writes ++ [reply (fun _ => data.length) answer] }
  | .flush | .close => { s with flushes := s.flushes ++ [reply (fun _ => ()) answer] }
  | .release => s

namespace Exchange

def untold : Exchange Scripted Scripted := start (.start [] [] []) (.start [] [] [])

def hear (lane : Lane) (answer : Except Failure Bytes) (x : Exchange Scripted Scripted) :
    Exchange Scripted Scripted :=
  match x.wants lane with
  | none => x
  | some act =>
    if lane.onClient act then
      { x with client := ⟨x.client.log, hearOf act answer x.client.inner⟩ }
    else { x with server := hearOf act answer x.server }

def proceed (task : Task) (lane : Lane) (answer : Except Failure Bytes)
    (x : Exchange Scripted Scripted) : Exchange Scripted Scripted :=
  (x.hear lane answer).step task lane

def proceeds (task : Task) (x : Exchange Scripted Scripted) :
    List (Lane × Except Failure Bytes) → Exchange Scripted Scripted
  | [] => x
  | (lane, answer) :: rest => (x.proceed task lane answer).proceeds task rest

end Exchange

end WireScript.Relay
