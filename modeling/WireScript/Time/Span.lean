import WireScript.Text.Outline

set_option autoImplicit false

namespace WireScript

structure Span where
  secs : UInt64
  nanos : Fin 1000000000
deriving DecidableEq, Repr

namespace Span

def zero : Span := ⟨0, 0⟩

def ofParts? (secs : UInt64) (nanos : Nat) : Option Span :=
  let total := secs.toNat + nanos / 1000000000
  if total < 0x10000000000000000 then
    some ⟨UInt64.ofNat total, ⟨nanos % 1000000000, Nat.mod_lt _ (by decide)⟩⟩
  else none

def inNanos (d : Span) : Nat := d.secs.toNat * 1000000000 + d.nanos.val

def millis (d : Span) : Nat :=
  d.secs.toNat * 1000 + (d.nanos.val + 999999) / 1000000

def padded (width n : Nat) : List Char :=
  let digits := Nat.toDigits 10 n
  List.replicate (width - digits.length) '0' ++ digits

def decimal (whole fraction width : Nat) : String :=
  let digits := ((padded width fraction).reverse.dropWhile (· == '0')).reverse
  toString whole ++ (if digits.isEmpty then "" else String.ofList ('.' :: digits))

def label (d : Span) : String :=
  let n := d.nanos.val
  if 0 < d.secs then decimal d.secs.toNat n 9 ++ "s"
  else if 1000000 ≤ n then decimal (n / 1000000) (n % 1000000) 6 ++ "ms"
  else if 1000 ≤ n then decimal (n / 1000) (n % 1000) 3 ++ "µs"
  else decimal n 0 0 ++ "ns"

def outline (d : Span) : Text.Outline := .atom d.label

end Span

end WireScript
