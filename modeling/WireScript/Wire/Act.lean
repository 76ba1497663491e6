import WireScript.Wire.Transport

set_option autoImplicit false

namespace WireScript.Wire

inductive Act
  | read (room : Nat)
  | write (data : Bytes)
  | flush
  | close
  | release
deriving DecidableEq, Repr

inductive Sight
  | pending
  | count (n : Nat)
  | data (bytes : Bytes)
  | done
  | failed (e : Failure)
  | released
  | gone
deriving DecidableEq, Repr

def Sight.ofPoll {α : Type} (onReady : α → Sight) : Poll α → Sight
  | .pending => .pending
  | .ready (.error e) => .failed e
  | .ready (.ok value) => onReady value

variable {σ : Type} [Transport σ]

def Act.perform (act : Act) (task : Task) (s : σ) : Sight × σ :=
  match act with
  | .read room => let (poll, s) := Transport.read task room s; (Sight.ofPoll .data poll, s)
  | .write data => let (poll, s) := Transport.write task data s; (Sight.ofPoll .count poll, s)
  | .flush => let (poll, s) := Transport.flush task s; (Sight.ofPoll (fun _ => .done) poll, s)
  | .close => let (poll, s) := Transport.close task s; (Sight.ofPoll (fun _ => .done) poll, s)
  | .release => (.released, Transport.release s)

end WireScript.Wire
