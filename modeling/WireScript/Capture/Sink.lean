import WireScript.Bytes
import WireScript.Wire.Failure

set_option autoImplicit false

namespace WireScript.Capture

open Wire (Failure)

class Sink (σ : Type) where
  write : Bytes → σ → Except Failure Nat × σ
  flush : σ → Except Failure Unit × σ
  patience : σ → Nat
  tires : ∀ {data : Bytes} {s s' : σ} {e : Failure}, write data s = (.error e, s') →
    e.kind = .interrupted → patience s' < patience s

namespace Sink

def stopped : Failure := ⟨.writeZero, some "failed to write whole buffer"⟩

variable {σ : Type} [Sink σ]

/-- Writes again for as long as that is interrupted. -/
def offer (data : Bytes) (s : σ) : Except Failure Nat × σ :=
  match comes : Sink.write data s with
  | (.ok n, s') => (.ok n, s')
  | (.error e, s') =>
    if interrupted : e.kind = .interrupted then
      have := tires comes interrupted
      offer data s'
    else (.error e, s')
termination_by patience s

theorem offer_of_write_ok {data : Bytes} {s s' : σ} {n : Nat}
    (takes : Sink.write data s = (.ok n, s')) : offer data s = (.ok n, s') := by
  rw [offer]
  split <;> simp_all

theorem offer_of_write_error {data : Bytes} {s s' : σ} {e : Failure}
    (fails : Sink.write data s = (.error e, s')) :
    offer data s = if e.kind = .interrupted then offer data s' else (.error e, s') := by
  rw [offer]
  split <;> simp_all

def writeAll (data : Bytes) (s : σ) : Except Failure Unit × σ :=
  match data with
  | [] => (.ok (), s)
  | b :: rest =>
    match offer (b :: rest) s with
    | (.error e, s) => (.error e, s)
    | (.ok 0, s) => (.error stopped, s)
    | (.ok (n + 1), s) => writeAll (rest.drop n) s
termination_by data.length
decreasing_by simp only [List.length_drop, List.length_cons]; omega

def writePieces : List Bytes → σ → Except Failure Unit × σ
  | [], s => (.ok (), s)
  | piece :: rest, s =>
    match writeAll piece s with
    | (.ok _, s) => writePieces rest s
    | (.error e, s) => (.error e, s)

end Sink

structure Vessel where
  room : Option Nat
  flushFails : Bool
  content : Bytes
  flushes : Nat
deriving DecidableEq, Repr

namespace Vessel

def full : Failure := ⟨.other, some "sink full"⟩

def unflushed : Failure := ⟨.other, some "flush refused"⟩

def empty (room : Option Nat) (flushFails : Bool) : Vessel := ⟨room, flushFails, [], 0⟩

def write (data : Bytes) (v : Vessel) : Except Failure Nat × Vessel :=
  match v.room with
  | none => (.ok data.length, { v with content := v.content ++ data })
  | some 0 => (.error full, v)
  | some room =>
    let taken := data.take room
    (.ok taken.length,
      { v with room := some (room - taken.length), content := v.content ++ taken })

def flush (v : Vessel) : Except Failure Unit × Vessel :=
  (if v.flushFails then .error unflushed else .ok (), { v with flushes := v.flushes + 1 })

theorem not_interrupted {data : Bytes} {v v' : Vessel} {e : Failure}
    (fails : v.write data = (.error e, v')) : e.kind ≠ .interrupted := by
  unfold write at fails
  split at fails
  · simp at fails
  · cases fails
    decide
  · simp at fails

instance : Sink Vessel where
  write := write
  flush := flush
  patience _ := 0
  tires fails interrupted := absurd interrupted (not_interrupted fails)

def text (v : Vessel) : String :=
  String.ofList (v.content.map (fun b => Char.ofNat b.toNat))

end Vessel

end WireScript.Capture
