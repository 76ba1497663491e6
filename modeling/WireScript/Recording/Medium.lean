import WireScript.Rendezvous.History
import WireScript.Wire.Buffer
import WireScript.Wire.Scripted

set_option autoImplicit false

namespace WireScript.Recording

open Rendezvous (Link Terminal)
open Wire (Act Sight Task Transport Buffer Scripted)

inductive Medium
  | channel (terminal : Terminal .a)
  | buffer (memory : Buffer)
  | scripted (stream : Scripted)

namespace Medium

def lift {α : Type} (onChannel : Terminal .a → α × Terminal .a) (onBuffer : Buffer → α × Buffer)
    (onScripted : Scripted → α × Scripted) : Medium → α × Medium
  | .channel p => let (x, p) := onChannel p; (x, .channel p)
  | .buffer b => let (x, b) := onBuffer b; (x, .buffer b)
  | .scripted s => let (x, s) := onScripted s; (x, .scripted s)

instance : Transport Medium where
  read task room := lift (Transport.read task room) (Transport.read task room)
    (Transport.read task room)
  write task data := lift (Transport.write task data) (Transport.write task data)
    (Transport.write task data)
  flush task := lift (Transport.flush task) (Transport.flush task) (Transport.flush task)
  close task := lift (Transport.close task) (Transport.close task) (Transport.close task)
  release
    | .channel p => .channel (Transport.release p)
    | .buffer b => .buffer (Transport.release b)
    | .scripted s => .scripted (Transport.release s)

def performRemote (m : Medium) (act : Act) (task : Task) : Sight × Medium :=
  match m with
  | .channel p =>
    let (sight, _, link) := p.link.perform ⟨.b, act, task⟩
    (sight, .channel ⟨link⟩)
  | _ => (.gone, m)

end Medium

end WireScript.Recording
