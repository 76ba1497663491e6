set_option autoImplicit false

namespace WireScript.Decimal

-- The reals that round to `mantissa * 2 ^ exponent` reach half a unit of its last place to either
-- side, or a quarter below where the places get finer.
structure Binary where
  mantissa : Nat
  exponent : Int
  finerBelow : Bool
deriving DecidableEq, Repr

structure Scaled where
  digits : Nat
  scale : Int
deriving DecidableEq, Repr

def power (base : Nat) (exponent : Int) : Nat :=
  Nat.pow base exponent.toNat

namespace Binary

def measure (b : Binary) (scale : Int) (quarters : Nat) : Nat × Nat :=
  (quarters * power 2 (b.exponent - 2) * power 10 (-scale),
   power 2 (2 - b.exponent) * power 10 scale)

def covers (b : Binary) (scale : Int) (n : Nat) : Bool :=
  let low := b.measure scale (4 * b.mantissa - if b.finerBelow then 1 else 2)
  let high := b.measure scale (4 * b.mantissa + 2)
  if b.mantissa % 2 = 0 then low.1 ≤ n * low.2 && n * high.2 ≤ high.1
  else low.1 < n * low.2 && n * high.2 < high.1

def onGrid? (b : Binary) (scale : Int) : Option Nat :=
  let (value, unit) := b.measure scale (4 * b.mantissa)
  let below := value / unit
  match b.covers scale below, b.covers scale (below + 1) with
  | false, false => none
  | true, false => some below
  | false, true => some (below + 1)
  | true, true =>
    let rest := value % unit
    if 2 * rest < unit ∨ (2 * rest = unit ∧ below % 2 = 0) then some below else some (below + 1)

def leading (b : Binary) : Int :=
  let (value, unit) := b.measure (-400) (4 * b.mantissa)
  ((Nat.toDigits 10 (value / unit)).length : Int) - 401

def search (b : Binary) (scale : Int) : Nat → Scaled
  | 0 => ⟨0, 0⟩
  | count + 1 =>
    match b.onGrid? scale with
    | some n => ⟨n, scale⟩
    | none => b.search (scale - 1) count

end Binary

def trimmed (digits : List Char) (scale : Int) : List Char × Int :=
  let zeros := (digits.reverse.takeWhile (· == '0')).length
  (digits.take (digits.length - zeros), scale + zeros)

-- Seventeen digits always suffice for a double.
def shortest (b : Binary) : List Char × Int :=
  let found := b.search b.leading 18
  let (digits, scale) := trimmed (Nat.toDigits 10 found.digits) found.scale
  (digits, scale + digits.length - 1)

structure Layout where
  lowest : Int
  highest : Int
deriving DecidableEq, Repr

namespace Layout

def exponentText (e : Int) : List Char :=
  'e' :: (if e < 0 then '-' else '+') :: Nat.toDigits 10 e.natAbs

def text (layout : Layout) (digits : List Char) (e : Int) : List Char :=
  if e < layout.lowest ∨ layout.highest < e then
    match digits with
    | [] => []
    | [d] => d :: exponentText e
    | d :: rest => d :: '.' :: rest ++ exponentText e
  else if e < 0 then
    '0' :: '.' :: List.replicate (-e - 1).toNat '0' ++ digits
  else
    let whole := e.toNat + 1
    let fraction := digits.drop whole
    digits.take whole ++ List.replicate (whole - digits.length) '0' ++
      '.' :: (if fraction.isEmpty then ['0'] else fraction)

end Layout

inductive Magnitude
  | zero
  | finite (value : Binary)
  | infinite
  | undefined
deriving DecidableEq, Repr

def ofBits (bits : Nat) : Bool × Magnitude :=
  let negative := bits / 0x8000000000000000 % 2 = 1
  let field : Nat := bits / 0x10000000000000 % 0x800
  let fraction : Nat := bits % 0x10000000000000
  let magnitude :=
    if field = 2047 then (if fraction = 0 then .infinite else .undefined)
    else if field = 0 then
      (if fraction = 0 then .zero else .finite ⟨fraction, -1074, false⟩)
    else .finite ⟨0x10000000000000 + fraction, (field : Int) - 1075, fraction = 0 && 1 < field⟩
  (negative, magnitude)

def render (layout : Layout) (x : Float) : String :=
  let (negative, magnitude) := ofBits x.toBits.toNat
  let body :=
    match magnitude with
    | .zero => ['0', '.', '0']
    | .finite b => let (digits, e) := shortest b; layout.text digits e
    | .infinite => ['i', 'n', 'f']
    | .undefined => ['N', 'a', 'N']
  String.ofList (if negative then '-' :: body else body)

end WireScript.Decimal
