import WireScript.Recording.Log
import WireScript.Wire.Transport

set_option autoImplicit false

namespace WireScript.Recording

open Wire (Task Poll Transport)

structure Tap (σ : Type) where
  log : Log
  inner : σ
deriving DecidableEq, Repr

namespace Tap

variable {σ : Type} [Transport σ]

def wrap (inner : σ) : Tap σ := ⟨.fresh, inner⟩

def read (task : Task) (room : Nat) (t : Tap σ) : Poll Bytes × Tap σ :=
  let (poll, inner) := Transport.read task room t.inner
  match poll with
  | .ready (.ok data) => (poll, ⟨t.log.record .received data, inner⟩)
  | _ => (poll, ⟨t.log, inner⟩)

def write (task : Task) (data : Bytes) (t : Tap σ) : Poll Nat × Tap σ :=
  let (poll, inner) := Transport.write task data t.inner
  match poll with
  | .ready (.ok n) => (poll, ⟨t.log.record .sent (data.take n), inner⟩)
  | _ => (poll, ⟨t.log, inner⟩)

instance : Transport (Tap σ) where
  read := read
  write := write
  flush task t := let (poll, inner) := Transport.flush task t.inner; (poll, ⟨t.log, inner⟩)
  close task t := let (poll, inner) := Transport.close task t.inner; (poll, ⟨t.log, inner⟩)
  release t := ⟨t.log, Transport.release t.inner⟩

end Tap

end WireScript.Recording
