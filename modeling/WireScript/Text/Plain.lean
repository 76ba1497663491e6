set_option autoImplicit false

namespace WireScript.Text

-- The control sequences of ECMA-48, by how far into one of them a text is.
inductive Sequence
  | ground
  | escape
  | escapeBetween
  | csi
  | dcsEntry
  | dcsParameters
  | dcsBetween
  | dcsBody
  | osc
  | string
deriving DecidableEq, Repr

def isSpacing (c : Char) : Bool :=
  c == '\t' || c == '\n' || c == '\x0c' || c == '\r'

def isShown (c : Char) : Bool :=
  isSpacing c || (0x20 ≤ c.toNat && c.toNat != 0x7F)

namespace Sequence

def print (s : Sequence) (n : Nat) : Sequence :=
  match s with
  | .ground => .ground
  | .escape =>
    if n < 0x30 then .escapeBetween
    else if n = 0x5B then .csi
    else if n = 0x5D then .osc
    else if n = 0x50 then .dcsEntry
    else if n = 0x58 ∨ n = 0x5E ∨ n = 0x5F then .string
    else .ground
  | .escapeBetween => if n < 0x30 then .escapeBetween else .ground
  | .csi => if n < 0x40 then .csi else .ground
  | .dcsEntry =>
    if n < 0x30 then .dcsBetween else if n < 0x40 then .dcsParameters else .dcsBody
  | .dcsParameters =>
    if n < 0x30 then .dcsBetween else if n < 0x3C then .dcsParameters else .dcsBody
  | .dcsBetween => if n < 0x30 then .dcsBetween else .dcsBody
  | .dcsBody => .dcsBody
  | .osc => .osc
  | .string => .string

def control (s : Sequence) (n : Nat) : Sequence :=
  if n = 0x18 ∨ n = 0x1A then .ground
  else if n = 0x1B then .escape
  else if n = 0x07 ∧ s = .osc then .ground
  else s

def beyond (s : Sequence) (c : Char) : Sequence :=
  if (s = .dcsBody ∨ s = .string) ∧ (String.utf8EncodeChar c).contains 0x9C then .ground else s

def after (s : Sequence) (c : Char) : Sequence :=
  let n := c.toNat
  if n < 0x20 ∨ n = 0x7F then s.control n
  else if n < 0x7F then s.print n
  else s.beyond c

def obeysControls : Sequence → Bool
  | .ground | .escape | .escapeBetween | .csi => true
  | _ => false

def reveals (s : Sequence) (c : Char) : Bool :=
  if isSpacing c then s.obeysControls else s = .ground && isShown c

end Sequence

structure Place where
  sequence : Sequence
  showing : Bool
deriving DecidableEq, Repr

def Place.step (p : Place) (c : Char) : Bool × Place :=
  if p.showing && isShown c then
    (true, { p with sequence := if c.toNat < 0x80 then p.sequence else .ground })
  else (p.sequence.reveals c, ⟨p.sequence.after c, p.sequence.reveals c⟩)

def Place.keep (p : Place) : List Char → List Char
  | [] => []
  | c :: rest =>
    let (kept, p) := p.step c
    if kept then c :: p.keep rest else p.keep rest

def plain (text : List Char) : List Char :=
  Place.keep ⟨.ground, false⟩ text

end WireScript.Text
