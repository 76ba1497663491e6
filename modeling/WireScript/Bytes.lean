set_option autoImplicit false

namespace WireScript

abbrev Bytes := List UInt8

namespace Bytes

def firstMismatch : (expected actual : Bytes) → Option Nat
  | [], [] => none
  | [], _ :: _ => some 0
  | _ :: _, [] => some 0
  | e :: expected, a :: actual =>
    if e = a then (firstMismatch expected actual).map (· + 1) else some 0

theorem firstMismatch_eq_none_iff (expected actual : Bytes) :
    firstMismatch expected actual = none ↔ expected = actual := by
  fun_induction firstMismatch expected actual <;> simp_all

def ofText (text : List Char) : Bytes :=
  text.flatMap String.utf8EncodeChar

def chunks (size : Nat) (data : Bytes) : List Bytes :=
  match data with
  | [] => []
  | b :: rest => (b :: rest.take (size - 1)) :: chunks size (rest.drop (size - 1))
termination_by data.length
decreasing_by simp only [List.length_drop, List.length_cons]; omega

theorem flatten_chunks (size : Nat) (data : Bytes) : (chunks size data).flatten = data := by
  fun_induction chunks size data with
  | case1 => rfl
  | case2 b rest ih => simp [ih]

end Bytes

end WireScript
