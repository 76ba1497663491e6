import WireScript.Bytes
import WireScript.Text.Quoted

set_option autoImplicit false

namespace WireScript.Hex

def ofByte (b : UInt8) : List Char :=
  [Nat.digitChar (b.toNat / 16), Nat.digitChar (b.toNat % 16)]

def encode (data : Bytes) : List Char :=
  data.flatMap ofByte

def digit? (code : UInt8) : Option Nat :=
  let n := code.toNat
  if 48 ≤ n ∧ n ≤ 57 then some (n - 48)
  else if 97 ≤ n ∧ n ≤ 102 then some (n - 87)
  else if 65 ≤ n ∧ n ≤ 70 then some (n - 55)
  else none

-- Codes and positions are those of the text's bytes in UTF-8.
inductive Fault
  | oddLength
  | notADigit (code : UInt8) (position : Nat)
deriving DecidableEq, Repr

def Fault.message : Fault → String
  | .oddLength => "Odd number of digits"
  | .notADigit code position =>
    s!"Invalid character {Text.quotedChar (Char.ofNat code.toNat)} at position {position}"

def decodeCodes (position : Nat) : List UInt8 → Except Fault Bytes
  | [] => .ok []
  | [_] => .error .oddLength
  | high :: low :: rest =>
    match digit? high, digit? low with
    | none, _ => .error (.notADigit high position)
    | some _, none => .error (.notADigit low (position + 1))
    | some h, some l => (decodeCodes (position + 2) rest).map (UInt8.ofNat (16 * h + l) :: ·)

def decode (text : List Char) : Except Fault Bytes :=
  let codes := Bytes.ofText text
  if codes.length % 2 = 1 then .error .oddLength else decodeCodes 0 codes

def code (n : Nat) : UInt8 := UInt8.ofNat (Nat.digitChar n).toNat

theorem digit?_code (n : Nat) (small : n < 16) : digit? (code n) = some n := by
  rcases n with _ | _ | _ | _ | _ | _ | _ | _ | _ | _ | _ | _ | _ | _ | _ | _ | n
  all_goals first | decide | omega

theorem utf8EncodeChar_digitChar (n : Nat) (small : n < 16) :
    String.utf8EncodeChar (Nat.digitChar n) = [code n] := by
  rcases n with _ | _ | _ | _ | _ | _ | _ | _ | _ | _ | _ | _ | _ | _ | _ | _ | n
  all_goals first | decide | omega

theorem ofText_encode (data : Bytes) :
    Bytes.ofText (encode data) =
      data.flatMap (fun b => [code (b.toNat / 16), code (b.toNat % 16)]) := by
  induction data with
  | nil => rfl
  | cons b rest ih =>
    have bound := b.toNat_lt
    simp only [encode, Bytes.ofText, List.flatMap_cons, ofByte, List.cons_append,
      List.nil_append] at ih ⊢
    rw [utf8EncodeChar_digitChar _ (by omega), utf8EncodeChar_digitChar _ (by omega), ih]
    rfl

theorem decodeCodes_encode (position : Nat) (data : Bytes) :
    decodeCodes position (Bytes.ofText (encode data)) = .ok data := by
  rw [ofText_encode]
  induction data generalizing position with
  | nil => rfl
  | cons b rest ih =>
    have bound := b.toNat_lt
    have halves : 16 * (b.toNat / 16) + b.toNat % 16 = b.toNat := by omega
    simp only [List.flatMap_cons, List.cons_append, List.nil_append, decodeCodes]
    rw [digit?_code _ (by omega), digit?_code _ (by omega)]
    simp [ih, Except.map, halves]

theorem length_ofText_encode (data : Bytes) :
    (Bytes.ofText (encode data)).length = 2 * data.length := by
  rw [ofText_encode]
  induction data with
  | nil => rfl
  | cons b rest ih =>
    simp only [List.flatMap_cons, List.cons_append, List.nil_append, List.length_cons, ih]
    omega

theorem decode_encode (data : Bytes) : decode (encode data) = .ok data := by
  have even : (Bytes.ofText (encode data)).length % 2 ≠ 1 := by
    rw [length_ofText_encode]
    omega
  simp [decode, even, decodeCodes_encode]

def text (data : Bytes) : String :=
  String.ofList (encode data)

end WireScript.Hex
