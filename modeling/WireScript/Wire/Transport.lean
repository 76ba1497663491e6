import WireScript.Bytes
import WireScript.Wire.Failure

set_option autoImplicit false

namespace WireScript.Wire

abbrev Task := String

inductive Poll (α : Type)
  | pending
  | ready (result : Except Failure α)

def Poll.ok {α : Type} (value : α) : Poll α := .ready (.ok value)

def Poll.failed {α : Type} (e : Failure) : Poll α := .ready (.error e)

/-- A stream of bytes in both directions. A read asks for at most `room` bytes, and none at all
means that the stream has ended; a write tells how many of its bytes were taken. -/
class Transport (σ : Type) where
  read : Task → (room : Nat) → σ → Poll Bytes × σ
  write : Task → (data : Bytes) → σ → Poll Nat × σ
  flush : Task → σ → Poll Unit × σ
  close : Task → σ → Poll Unit × σ
  release : σ → σ

/-- The contract of a stream: no operation gives or takes more than it was asked to. -/
class LawfulTransport (σ : Type) [Transport σ] : Prop where
  length_read_le : ∀ (task : Task) (room : Nat) (s s' : σ) (data : Bytes),
    Transport.read task room s = (.ready (.ok data), s') → data.length ≤ room
  write_le : ∀ (task : Task) (data : Bytes) (s s' : σ) (n : Nat),
    Transport.write task data s = (.ready (.ok n), s') → n ≤ data.length

end WireScript.Wire
