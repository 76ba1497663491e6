import WireScript.Bytes.Hex

set_option autoImplicit false

namespace WireScript.Hex

def IsDigit (c : Char) : Prop :=
  ('0' ≤ c ∧ c ≤ '9') ∨ ('a' ≤ c ∧ c ≤ 'f') ∨ ('A' ≤ c ∧ c ≤ 'F')

instance (c : Char) : Decidable (IsDigit c) := inferInstanceAs (Decidable (_ ∨ _ ∨ _))

def IsHex (text : List Char) : Prop :=
  text.length % 2 = 0 ∧ ∀ c ∈ text, IsDigit c

def Spells (text : List Char) (data : Bytes) : Prop :=
  text.map Char.toLower = encode data

def Fault.Marks (codes : List UInt8) : Fault → Prop
  | .oddLength => codes.length % 2 = 1
  | .notADigit code position =>
    codes.length % 2 = 0 ∧ ∃ front back, codes = front ++ code :: back ∧ front.length = position ∧
      (∀ b ∈ front, IsDigit (Char.ofNat b.toNat)) ∧ ¬IsDigit (Char.ofNat code.toNat)

theorem isSome_digit?_iff (b : UInt8) :
    (digit? b).isSome = true ↔ IsDigit (Char.ofNat b.toNat) := by
  have every : ∀ n : Fin 256,
      (digit? (UInt8.ofNat n)).isSome = true ↔ IsDigit (Char.ofNat n) := by decide +kernel
  simpa using every ⟨b.toNat, b.toNat_lt⟩

theorem digit?_eq_none_iff (b : UInt8) :
    digit? b = none ↔ ¬IsDigit (Char.ofNat b.toNat) := by
  rw [← isSome_digit?_iff]
  simp

theorem IsDigit.toNat_lt {c : Char} (digit : IsDigit c) : c.toNat < 128 := by
  simp only [IsDigit, Char.le_def, UInt32.le_iff_toNat_le] at digit
  have small : c.val.toNat < 128 := by
    rcases digit with ⟨-, high⟩ | ⟨-, high⟩ | ⟨-, high⟩
    all_goals exact Nat.lt_of_le_of_lt high (by decide)
  exact small

theorem IsDigit.value {c : Char} (digit : IsDigit c) :
    ∃ n, n < 16 ∧ c.toLower = Nat.digitChar n ∧ digit? (UInt8.ofNat c.toNat) = some n ∧
      String.utf8EncodeChar c = [UInt8.ofNat c.toNat] := by
  have every : ∀ n : Fin 128, IsDigit (Char.ofNat n) →
      ∃ v : Fin 16, (Char.ofNat n).toLower = Nat.digitChar v ∧
        digit? (UInt8.ofNat (Char.ofNat n).toNat) = some v.val ∧
        String.utf8EncodeChar (Char.ofNat n) = [UInt8.ofNat (Char.ofNat n).toNat] := by decide
  have known := every ⟨c.toNat, digit.toNat_lt⟩
  simp only [Char.ofNat_toNat] at known
  obtain ⟨v, letter, value, byte⟩ := known digit
  exact ⟨v, v.isLt, letter, value, byte⟩

theorem toNat_lt_of_toLower {c : Char} {n : Nat} (small : n < 16)
    (letter : c.toLower = Nat.digitChar n) : c.toNat < 128 := by
  have bound : (Nat.digitChar n).toNat < 128 := by
    rcases n with _ | _ | _ | _ | _ | _ | _ | _ | _ | _ | _ | _ | _ | _ | _ | _ | n
    all_goals first | decide | omega
  by_cases upper : c.val ≥ 'A'.val ∧ c.val ≤ 'Z'.val
  · have high := upper.2
    simp only [UInt32.le_iff_toNat_le] at high
    exact Nat.lt_of_le_of_lt high (by decide)
  · have kept : c.toLower = c := dif_neg upper
    rwa [← letter, kept] at bound

theorem isDigit_of_toLower {c : Char} {n : Nat} (small : n < 16)
    (letter : c.toLower = Nat.digitChar n) : IsDigit c := by
  have every : ∀ (k : Fin 128) (v : Fin 16), (Char.ofNat k).toLower = Nat.digitChar v →
      IsDigit (Char.ofNat k) := by decide +kernel
  have known := every ⟨c.toNat, toNat_lt_of_toLower small letter⟩ ⟨n, small⟩
  simp only [Char.ofNat_toNat] at known
  exact known letter

theorem digit?_of_high {n : Nat} (high : 128 ≤ n) (small : n < 256) :
    digit? (UInt8.ofNat n) = none := by
  simp only [digit?, UInt8.toNat_ofNat']
  rw [if_neg (by omega), if_neg (by omega), if_neg (by omega)]

theorem first_of_not_isDigit {c : Char} (other : ¬IsDigit c) :
    ∃ b rest, String.utf8EncodeChar c = b :: rest ∧ digit? b = none := by
  by_cases ascii : c.val.toNat ≤ 127
  · have same : Char.ofNat (UInt8.ofNat c.val.toNat).toNat = c := by
      rw [UInt8.toNat_ofNat', Nat.mod_eq_of_lt (Nat.lt_of_le_of_lt ascii (by decide))]
      exact Char.ofNat_toNat c
    refine ⟨UInt8.ofNat c.val.toNat, [], if_pos ascii, ?_⟩
    rwa [digit?_eq_none_iff, same]
  · -- A character beyond ASCII begins with a byte that says how many follow.
    simp only [String.utf8EncodeChar, if_neg ascii]
    split
    · exact ⟨_, _, rfl, digit?_of_high (by omega) (by omega)⟩
    · split
      · exact ⟨_, _, rfl, digit?_of_high (by omega) (by omega)⟩
      · exact ⟨_, _, rfl, digit?_of_high (by omega) (by omega)⟩

theorem isDigit_bytes_iff (c : Char) :
    (∀ b ∈ String.utf8EncodeChar c, IsDigit (Char.ofNat b.toNat)) ↔ IsDigit c := by
  constructor
  · intro digits
    by_cases digit : IsDigit c
    · exact digit
    · obtain ⟨b, rest, bytes, other⟩ := first_of_not_isDigit digit
      exact absurd (digits b (by simp [bytes])) ((digit?_eq_none_iff b).1 other)
  · intro digit
    obtain ⟨n, -, -, value, byte⟩ := digit.value
    simp [byte, ← isSome_digit?_iff, value]

theorem length_ofText {text : List Char} (digits : ∀ c ∈ text, IsDigit c) :
    (Bytes.ofText text).length = text.length := by
  induction text with
  | nil => rfl
  | cons c text ih =>
    obtain ⟨n, -, -, -, byte⟩ := (digits c List.mem_cons_self).value
    have others := ih (fun d member => digits d (List.mem_cons_of_mem c member))
    simp only [Bytes.ofText, List.flatMap_cons, byte, List.length_append, List.length_cons,
      List.length_nil] at others ⊢
    omega

theorem isHex_iff (text : List Char) :
    IsHex text ↔ (Bytes.ofText text).length % 2 = 0 ∧
      ∀ b ∈ Bytes.ofText text, IsDigit (Char.ofNat b.toNat) := by
  have same : (∀ b ∈ Bytes.ofText text, IsDigit (Char.ofNat b.toNat)) ↔ ∀ c ∈ text, IsDigit c := by
    simp only [Bytes.ofText, List.mem_flatMap]
    constructor
    · intro digits c member
      exact (isDigit_bytes_iff c).1 (fun b byte => digits b ⟨c, member, byte⟩)
    · rintro digits b ⟨c, member, byte⟩
      exact (isDigit_bytes_iff c).2 (digits c member) b byte
  rw [IsHex, same]
  constructor
  · rintro ⟨even, digits⟩
    exact ⟨by rw [length_ofText digits]; exact even, digits⟩
  · rintro ⟨even, digits⟩
    exact ⟨by rw [← length_ofText digits]; exact even, digits⟩

theorem decodeCodes_ok {position : Nat} {codes : List UInt8} {data : Bytes}
    (read : decodeCodes position codes = .ok data) :
    codes.length % 2 = 0 ∧ ∀ b ∈ codes, IsDigit (Char.ofNat b.toNat) := by
  fun_induction decodeCodes position codes generalizing data with
  | case1 => simp
  | case2 => simp at read
  | case3 => simp at read
  | case4 => simp at read
  | case5 position high low rest h l value' value ih =>
    cases more : decodeCodes (position + 2) rest with
    | error fault => simp [more, Except.map] at read
    | ok tail =>
      obtain ⟨even, digits⟩ := ih more
      refine ⟨by simp only [List.length_cons]; omega, ?_⟩
      simpa [← isSome_digit?_iff, value, value'] using digits

theorem decodeCodes_error {position : Nat} {codes : List UInt8} {fault : Fault}
    (even : codes.length % 2 = 0) (read : decodeCodes position codes = .error fault) :
    ∃ front code back, codes = front ++ code :: back ∧
      fault = .notADigit code (position + front.length) ∧
      (∀ b ∈ front, IsDigit (Char.ofNat b.toNat)) ∧ ¬IsDigit (Char.ofNat code.toNat) := by
  fun_induction decodeCodes position codes with
  | case1 => simp at read
  | case2 => simp at even
  | case3 position high low rest other =>
    obtain rfl := Except.error.inj read
    exact ⟨[], high, low :: rest, rfl, rfl, by simp, (digit?_eq_none_iff high).1 other⟩
  | case4 position high low rest h other value =>
    obtain rfl := Except.error.inj read
    refine ⟨[high], low, rest, rfl, rfl, ?_, (digit?_eq_none_iff low).1 other⟩
    simp [← isSome_digit?_iff, value]
  | case5 position high low rest h l value' value ih =>
    cases more : decodeCodes (position + 2) rest with
    | ok tail => simp [more, Except.map] at read
    | error fault' =>
      obtain rfl : fault' = fault := by simpa [more, Except.map] using read
      obtain ⟨front, code, back, rfl, rfl, digits, other⟩ :=
        ih (by simp only [List.length_cons] at even; omega) more
      refine ⟨high :: low :: front, code, back, rfl, ?_, ?_, other⟩
      · simp only [List.length_cons]
        congr 1
        omega
      · simpa [← isSome_digit?_iff, value, value'] using digits

theorem decodeCodes_of_isHex (position : Nat) {text : List Char} (hex : IsHex text) :
    ∃ data, decodeCodes position (Bytes.ofText text) = .ok data ∧ Spells text data := by
  match text with
  | [] => exact ⟨[], rfl, rfl⟩
  | [a] => simp [IsHex] at hex
  | a :: b :: text =>
    obtain ⟨even, digits⟩ := hex
    simp only [List.mem_cons, forall_eq_or_imp] at digits
    obtain ⟨high, small, letter, value, byte⟩ := digits.1.value
    obtain ⟨low, small', letter', value', byte'⟩ := digits.2.1.value
    have shorter : text.length % 2 = 0 := by simp only [List.length_cons] at even; omega
    obtain ⟨data, read, spelled⟩ := decodeCodes_of_isHex (position + 2) ⟨shorter, digits.2.2⟩
    refine ⟨UInt8.ofNat (16 * high + low) :: data, ?_, ?_⟩
    · simp only [Bytes.ofText, List.flatMap_cons, byte, byte', List.cons_append, List.nil_append,
        decodeCodes, value, value'] at read ⊢
      rw [read]
      rfl
    · have whole : (UInt8.ofNat (16 * high + low)).toNat = 16 * high + low := by
        rw [UInt8.toNat_ofNat', Nat.mod_eq_of_lt (by omega)]
      have upper : (16 * high + low) / 16 = high := by omega
      have lower : (16 * high + low) % 16 = low := by omega
      simp only [Spells, List.map_cons, encode, List.flatMap_cons, ofByte, whole, upper, lower,
        letter, letter', List.cons_append, List.nil_append] at spelled ⊢
      rw [spelled]

theorem mem_encode {c : Char} {data : Bytes} (member : c ∈ encode data) :
    ∃ n, n < 16 ∧ c = Nat.digitChar n := by
  simp only [encode, List.mem_flatMap, ofByte, List.mem_cons, List.not_mem_nil, or_false] at member
  obtain ⟨b, -, high | low⟩ := member
  · have bound := b.toNat_lt
    exact ⟨b.toNat / 16, by omega, high⟩
  · exact ⟨b.toNat % 16, Nat.mod_lt _ (by decide), low⟩

theorem length_encode (data : Bytes) : (encode data).length = 2 * data.length := by
  induction data with
  | nil => rfl
  | cons b data ih =>
    simp only [encode, List.flatMap_cons, ofByte, List.length_append, List.length_cons,
      List.length_nil] at ih ⊢
    omega

theorem Spells.isHex {text : List Char} {data : Bytes} (spelled : Spells text data) :
    IsHex text := by
  constructor
  · have lengths := congrArg List.length spelled
    rw [List.length_map, length_encode] at lengths
    omega
  · intro c member
    have lowered : c.toLower ∈ encode data := spelled ▸ List.mem_map_of_mem member
    obtain ⟨n, small, letter⟩ := mem_encode lowered
    exact isDigit_of_toLower small letter

theorem encode_injective {data other : Bytes} (same : encode data = encode other) :
    data = other := by
  have read := decode_encode data
  rw [same, decode_encode] at read
  exact (Except.ok.inj read).symm

theorem decode_of_isHex {text : List Char} (hex : IsHex text) :
    ∃ data, decode text = .ok data ∧ Spells text data := by
  have even := ((isHex_iff text).1 hex).1
  obtain ⟨data, read, spelled⟩ := decodeCodes_of_isHex 0 hex
  exact ⟨data, by simp [decode, even, read], spelled⟩

theorem isHex_of_decode {text : List Char} {data : Bytes} (read : decode text = .ok data) :
    IsHex text := by
  simp only [decode] at read
  split at read
  · simp at read
  · exact (isHex_iff text).2 (decodeCodes_ok read)

theorem decode_eq_ok_iff (text : List Char) (data : Bytes) :
    decode text = .ok data ↔ Spells text data := by
  constructor
  · intro read
    obtain ⟨data', read', spelled⟩ := decode_of_isHex (isHex_of_decode read)
    obtain rfl := Except.ok.inj (read'.symm.trans read)
    exact spelled
  · intro spelled
    obtain ⟨data', read, spelled'⟩ := decode_of_isHex spelled.isHex
    obtain rfl := encode_injective (spelled'.symm.trans spelled)
    exact read

theorem marks_of_decode {text : List Char} {fault : Fault} (read : decode text = .error fault) :
    fault.Marks (Bytes.ofText text) := by
  simp only [decode] at read
  split at read
  · rename_i odd
    obtain rfl := Except.error.inj read
    exact odd
  · have even : (Bytes.ofText text).length % 2 = 0 := by omega
    obtain ⟨front, code, back, split, rfl, digits, other⟩ := decodeCodes_error even read
    exact ⟨even, front, back, split, (Nat.zero_add _).symm, digits, other⟩

theorem Fault.Marks.not_hex {text : List Char} {fault : Fault}
    (marks : fault.Marks (Bytes.ofText text)) : ¬IsHex text := by
  intro hex
  obtain ⟨even, digits⟩ := (isHex_iff text).1 hex
  cases fault with
  | oddLength =>
    have odd : (Bytes.ofText text).length % 2 = 1 := marks
    omega
  | notADigit code position =>
    obtain ⟨-, front, back, split, -, -, other⟩ := marks
    exact other (digits code (by simp [split]))

end WireScript.Hex
