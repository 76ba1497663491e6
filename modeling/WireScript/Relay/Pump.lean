import WireScript.Wire.Act

set_option autoImplicit false

namespace WireScript.Relay

open Wire (Act Failure Poll Task Transport)

inductive Pump
  | reading
  | writing (left : Bytes)
  | flushing
  | closing
  | done
deriving DecidableEq, Repr

inductive Status
  | running
  | waiting
  | done
  | failed (e : Failure)
deriving DecidableEq, Repr

namespace Pump

def room : Nat := 8192

def wants : Pump → Option Act
  | .reading => some (.read room)
  | .writing left => some (.write left)
  | .flushing => some .flush
  | .closing => some .close
  | .done => none

variable {κ ς : Type} [Transport κ] [Transport ς]

def after {α : Type} (p : Pump) (onReady : α → Status × Pump) : Poll α → Status × Pump
  | .pending => (.waiting, p)
  | .ready (.error e) => (.failed e, p)
  | .ready (.ok value) => onReady value

def step (task : Task) (p : Pump) (source : κ) (target : ς) : (Status × Pump) × κ × ς :=
  match p with
  | .reading =>
    let (poll, source) := Transport.read task room source
    let next (data : Bytes) : Status × Pump :=
      (.running, if data = [] then .flushing else .writing data)
    (p.after next poll, source, target)
  | .writing left =>
    let (poll, target) := Transport.write task left target
    let next (n : Nat) : Status × Pump :=
      if n = 0 then (.failed (.ofKind .writeZero), p)
      else
        let left := left.drop n
        (.running, if left = [] then .reading else .writing left)
    (p.after next poll, source, target)
  | .flushing =>
    let (poll, target) := Transport.flush task target
    (p.after (fun _ => (.running, .closing)) poll, source, target)
  | .closing =>
    let (poll, target) := Transport.close task target
    (p.after (fun _ => (.done, .done)) poll, source, target)
  | .done => ((.done, .done), source, target)

end Pump

end WireScript.Relay
