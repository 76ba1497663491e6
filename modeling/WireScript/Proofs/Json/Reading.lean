import WireScript.Json.Record
import WireScript.Proofs.Json.Layout

set_option autoImplicit false

namespace WireScript.Json.Reader

def Takes {α : Type} (r : Reader α) (text : List Char) (value : α) (rest : List Char) : Prop :=
  r text = .ok (value, rest)

section

variable {α β : Type} {r : Reader α} {text mid rest blanks : List Char} {a : α} {b : β} {c : Char}

theorem Takes.bind {f : α → Reader β} (first : Takes r text a mid)
    (second : Takes (f a) mid b rest) : Takes (r >>= f) text b rest := by
  have unfold : (r >>= f) text = (r text).bind (fun taken => f taken.1 taken.2) := rfl
  rw [Takes, unfold, first]
  exact second

theorem takes_pure (a : α) (text : List Char) : Takes (pure a : Reader α) text a text := rfl

theorem Takes.map (f : α → β) (takes : Takes r text a rest) : Takes (f <$> r) text (f a) rest := by
  have unfold : (f <$> r) text = (r text).bind (fun taken => .ok (f taken.1, taken.2)) := rfl
  rw [Takes, unfold, takes]
  rfl

theorem takes_get (text : List Char) : Takes (get : Reader (List Char)) text text text := rfl

theorem takes_set (text rest : List Char) : Takes (set rest : Reader PUnit) text ⟨⟩ rest := rfl

theorem takes_drop (c : Char) (rest : List Char) : Takes drop (c :: rest) () rest := rfl

theorem takes_peek (blank : Blank blanks) (solid : isSpace c = false) :
    Takes peek (blanks ++ c :: rest) (some c) (c :: rest) := by
  have passes : (blanks ++ c :: rest).dropWhile isSpace = c :: rest := by
    rw [List.dropWhile_append_of_pos blank, List.dropWhile_cons_of_neg (by simp [solid])]
  simp [Takes, peek, passes]

theorem takes_spell (word rest : List Char) : Takes (spell word) (word ++ rest) () rest := by
  induction word with
  | nil => rfl
  | cons c word ih =>
    refine (takes_get _).bind ?_
    simpa [spell] using (takes_set _ _).bind ih

end

theorem hexValue?_digitChar : ∀ n < 16, Text.hexValue? (Nat.digitChar n) = some n := by decide

theorem unicode_control {n : Nat} (control : n < 0x20) (rest : List Char) :
    unicode ('0' :: '0' :: Nat.digitChar (n / 16) :: Nat.digitChar (n % 16) :: rest) =
      .ok (Char.ofNat n, rest) := by
  have high := hexValue?_digitChar (n / 16) (by omega)
  have low := hexValue?_digitChar (n % 16) (by omega)
  have zero : Text.hexValue? '0' = some 0 := by decide
  have value : 4096 * 0 + 256 * 0 + 16 * (n / 16) + n % 16 = n := by omega
  have unit : codeUnit ('0' :: '0' :: Nat.digitChar (n / 16) :: Nat.digitChar (n % 16) :: rest) =
      .ok (n, rest) := by
    simp only [codeUnit, zero, high, low, value]
  have whole : isTrailing n = false ∧ isLeading n = false := by
    simp only [isTrailing, isLeading, Bool.and_eq_false_iff, decide_eq_false_iff_not]
    omega
  simp [unicode, unit, whole, bind, Except.bind]

theorem escape_cases (c : Char) :
    (∃ letter, escape c = ['\\', letter] ∧ letter ≠ 'u' ∧ shortEscape? letter = some c) ∨
    (c.toNat < 0x20 ∧ escape c =
      ['\\', 'u', '0', '0', Nat.digitChar (c.toNat / 16), Nat.digitChar (c.toNat % 16)]) ∨
    (¬c.toNat < 0x20 ∧ c ≠ '"' ∧ c ≠ '\\' ∧ escape c = [c]) := by
  generalize written : escape c = text
  unfold escape at written
  iterate 7
    split at written
    · subst c written
      exact .inl ⟨_, rfl, by decide, rfl⟩
  split at written
  · rename_i control
    exact .inr (.inl ⟨control, written.symm⟩)
  · rename_i quote backslash _ _ _ _ _ printable
    exact .inr (.inr ⟨printable, quote, backslash, written.symm⟩)

theorem stringItem_escape (c : Char) (rest : List Char) :
    stringItem (escape c ++ rest) = .ok (some c, rest) := by
  obtain ⟨letter, escaped, short, means⟩ | ⟨control, escaped⟩ |
      ⟨printable, quote, backslash, escaped⟩ := escape_cases c
  · rw [escaped, List.cons_append, List.singleton_append, stringItem]
    · rw [means]
    · exact short
  · simp only [escaped, List.cons_append, List.nil_append, stringItem, unicode_control control,
      Except.map, Char.ofNat_toNat]
  · rw [escaped, List.singleton_append, stringItem]
    · rw [if_neg printable]
    · exact quote
    · exact fun same => absurd same backslash
    · exact fun _ same => absurd same backslash
    · exact fun _ _ same => absurd same backslash

theorem stringItems_escape (chars : List Char) (rest : List Char) (limit : Nat)
    (enough : chars.length < limit) :
    stringItems limit (chars.flatMap escape ++ '"' :: rest) = .ok (chars, rest) := by
  induction chars generalizing limit with
  | nil =>
    obtain ⟨limit, rfl⟩ := Nat.exists_eq_add_of_lt enough
    rfl
  | cons c chars ih =>
    obtain ⟨limit, rfl⟩ := Nat.exists_eq_add_of_lt enough
    have fewer : chars.length < (c :: chars).length + limit := by
      rw [List.length_cons]
      omega
    rw [List.flatMap_cons, List.append_assoc, stringItems, stringItem_escape]
    simp only [ih _ fewer, Except.map]

theorem length_le_escape (chars : List Char) : chars.length ≤ (chars.flatMap escape).length := by
  induction chars with
  | nil => exact Nat.le_refl 0
  | cons c chars ih =>
    have some : 0 < (escape c).length := by
      obtain ⟨letter, escaped, -⟩ | ⟨-, escaped⟩ | ⟨-, -, -, escaped⟩ := escape_cases c <;>
        simp [escaped]
    rw [List.flatMap_cons, List.length_append, List.length_cons]
    omega

theorem takes_string (text : String) (rest : List Char) :
    Takes string (text.toList.flatMap escape ++ '"' :: rest) text rest := by
  have enough : text.toList.length < (text.toList.flatMap escape ++ '"' :: rest).length + 1 := by
    have := length_le_escape text.toList
    rw [List.length_append]
    omega
  rw [Takes, string, stringItems_escape _ _ _ enough]
  simp [Except.map]

theorem digitValue?_of_isDigit {c : Char} (digit : c.isDigit = true) :
    Text.digitValue? c = some (c.toNat - '0'.toNat) := by
  have bounds : '0' ≤ c ∧ c ≤ '9' := by simpa [Char.isDigit, Char.le_def] using digit
  simp [Text.digitValue?, bounds]

theorem le_ofDigitChars (digits : List Char) (value : Nat) :
    value ≤ Nat.ofDigitChars 10 digits value := by
  induction digits generalizing value with
  | nil => exact Nat.le_refl value
  | cons c digits ih =>
    rw [Nat.ofDigitChars_cons]
    have := ih (10 * value + (c.toNat - '0'.toNat))
    omega

theorem mantissa_digits {digits rest : List Char} (all : ∀ c ∈ digits, c.isDigit = true)
    (delimited : Delimited rest) (value : Nat)
    (fits : Nat.ofDigitChars 10 digits value ≤ wordMax) :
    mantissa value (digits ++ rest) = (Nat.ofDigitChars 10 digits value, rest) := by
  induction digits generalizing value with
  | nil =>
    rcases rest with _ | ⟨c, rest⟩
    · rfl
    · have other : Text.digitValue? c = none := by
        simpa [Text.isDigit] using (delimited c rfl).1
      simp [mantissa, other, Nat.ofDigitChars]
  | cons c digits ih =>
    obtain ⟨first, others⟩ := List.forall_mem_cons.1 all
    rw [Nat.ofDigitChars_cons] at fits ⊢
    -- Further digits only make the number larger, so all of them fit if the last one does.
    have small := Nat.le_trans (le_ofDigitChars digits _) fits
    simp only [List.cons_append, mantissa, digitValue?_of_isDigit first, small, if_true]
    exact ih others _ fits

theorem takes_afterWhole {rest : List Char} (delimited : Delimited rest) (value : Nat) :
    Takes (afterWhole false value 0) rest (.whole value) rest := by
  refine (takes_get rest).bind ?_
  split
  · exact absurd rfl (delimited '.' rfl).2.1
  · exact absurd rfl (delimited 'e' rfl).2.2.1
  · exact absurd rfl (delimited 'E' rfl).2.2.2
  · rfl

theorem toDigits_eq_cons {n : Nat} (positive : 0 < n) :
    ∃ c tail, Nat.toDigits 10 n = c :: tail ∧ c ≠ '0' := by
  induction n using Nat.strongRecOn with
  | ind n ih =>
    by_cases small : n < 10
    · have digit : ∀ n < 10, 0 < n → Nat.digitChar n ≠ '0' := by decide
      exact ⟨_, _, Nat.toDigits_of_lt_base small, digit n small positive⟩
    · obtain ⟨c, tail, digits, nonzero⟩ := ih (n / 10) (by omega) (by omega)
      refine ⟨c, tail ++ Nat.toDigits 10 (n % 10), ?_, nonzero⟩
      have split := Nat.toDigits_append_toDigits (b := 10) (n := n / 10) (d := n % 10) (by decide)
        (by omega) (by omega)
      rw [Nat.div_add_mod, digits] at split
      exact split.symm

theorem takes_magnitude {value : Nat} (fits : value ≤ wordMax) {rest : List Char}
    (delimited : Delimited rest) :
    Takes (magnitude false) (Nat.toDigits 10 value ++ rest) (.whole value) rest := by
  have solid : (rest.head?.map Text.isDigit).getD false = false := by
    rcases rest with _ | ⟨c, rest⟩
    · rfl
    · exact (delimited c rfl).1
  have none : rest.takeWhile Text.isDigit = [] := by
    rcases rest with _ | ⟨c, rest⟩
    · rfl
    · simp [(delimited c rfl).1]
  refine (takes_get _).bind ?_
  -- Zero is the one number that starts with a zero.
  rcases Nat.eq_zero_or_pos value with rfl | positive
  · simp only [Nat.toDigits_zero, List.singleton_append, solid]
    exact (takes_set _ rest).bind (takes_afterWhole delimited 0)
  · obtain ⟨c, tail, digits, nonzero⟩ := toDigits_eq_cons positive
    have all : ∀ c ∈ Nat.toDigits 10 value, c.isDigit = true := fun c mem =>
      Nat.isDigit_of_mem_toDigits (by decide) (by decide) mem
    have number := mantissa_digits all delimited 0 (by rwa [Nat.ofDigitChars_ten_toDigits])
    rw [Nat.ofDigitChars_ten_toDigits] at number
    rw [digits] at number all ⊢
    have digit : Text.isDigit c = true := by
      simp [Text.isDigit, digitValue?_of_isDigit (all c List.mem_cons_self)]
    dsimp only
    split
    · rename_i empty
      simp at empty
    · rename_i zero
      exact absurd (List.cons.inj zero).1 nonzero
    · rename_i first others same
      obtain rfl := (List.cons.inj same).1
      simp only [digit, if_true, number, none, List.length_nil, List.drop_zero]
      exact (takes_set _ rest).bind (takes_afterWhole delimited value)

end WireScript.Json.Reader
