import WireScript.Time.Span

set_option autoImplicit false

namespace WireScript

structure Instant where
  secs : Int64
  nanos : Fin 1000000000
deriving DecidableEq, Repr

namespace Instant

def ofSecs (secs : Nat) : Instant := ⟨.ofNat secs, Span.zero.nanos⟩

def total (t : Instant) : Int := t.secs.toInt * 1000000000 + t.nanos.val

/-- The instant so many nanoseconds later; none if its seconds no longer fit the word. -/
def later? (t : Instant) (nanos : Nat) : Option Instant :=
  let sum := t.nanos.val + nanos
  let secs := t.secs.toInt + (sum / 1000000000 : Nat)
  if secs < 0x8000000000000000 then
    some ⟨Int64.ofInt secs, ⟨sum % 1000000000, Nat.mod_lt _ (by decide)⟩⟩
  else none

theorem later?_eq_none_iff (t : Instant) (nanos : Nat) :
    t.later? nanos = none ↔ 0x8000000000000000 * 1000000000 ≤ t.total + nanos := by
  simp only [later?, total]
  split
  · simp only [reduceCtorEq, false_iff]
    omega
  · simp only [true_iff]
    omega

end Instant

end WireScript
