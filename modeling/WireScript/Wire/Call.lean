import WireScript.Wire.Transport

set_option autoImplicit false

namespace WireScript.Wire

/-- How a buffer grows: the room that it has for more when it holds so many bytes. There is always
some. -/
structure Growth where
  room : Nat → Nat
  roomy : ∀ held, room held ≠ 0

def Growth.standard : Growth where
  room held := max 32 (Nat.pow 2 (held.log2 + 1)) - held
  roomy held := by
    have fits : held < Nat.pow 2 (held.log2 + 1) := Nat.lt_log2_self
    omega

inductive Call
  | readSome (room : Nat)
  | readUpTo (missing : Nat) (got : Bytes)
  | readToEnd (growth : Growth) (got : Bytes)
  | writeSome (data : Bytes)
  | writeAll (left : Bytes)
  | flush
  | close

inductive Answer
  | data (bytes : Bytes)
  | count (n : Nat)
  | done
deriving DecidableEq, Repr

inductive Progress
  | running (next : Call)
  | waiting (call : Call)
  | finished (result : Except Failure Answer)

namespace Call

def ofPoll {α : Type} (call : Call) (onReady : α → Progress) : Poll α → Progress
  | .pending => .waiting call
  | .ready (.error e) => .finished (.error e)
  | .ready (.ok value) => onReady value

variable {σ : Type} [Transport σ]

def step (task : Task) (call : Call) (s : σ) : Progress × σ :=
  match call with
  | .readSome room =>
    let (poll, s) := Transport.read task room s
    (call.ofPoll (fun data => .finished (.ok (.data data))) poll, s)
  | .readUpTo missing got =>
    if missing = 0 then (.finished (.ok (.data got)), s)
    else
      let (poll, s) := Transport.read task missing s
      let next (data : Bytes) : Progress :=
        if data = [] then .finished (.ok (.data got))
        else .running (.readUpTo (missing - data.length) (got ++ data))
      (call.ofPoll next poll, s)
  | .readToEnd growth got =>
    let (poll, s) := Transport.read task (growth.room got.length) s
    let next (data : Bytes) : Progress :=
      if data = [] then .finished (.ok (.data got))
      else .running (.readToEnd growth (got ++ data))
    (call.ofPoll next poll, s)
  | .writeSome data =>
    let (poll, s) := Transport.write task data s
    (call.ofPoll (fun n => .finished (.ok (.count n))) poll, s)
  | .writeAll left =>
    if left = [] then (.finished (.ok .done), s)
    else
      let (poll, s) := Transport.write task left s
      let next (n : Nat) : Progress :=
        if n = 0 then .finished (.error (.ofKind .writeZero))
        else .running (.writeAll (left.drop n))
      (call.ofPoll next poll, s)
  | .flush =>
    let (poll, s) := Transport.flush task s
    (call.ofPoll (fun _ => .finished (.ok .done)) poll, s)
  | .close =>
    let (poll, s) := Transport.close task s
    (call.ofPoll (fun _ => .finished (.ok .done)) poll, s)

end Call

end WireScript.Wire
