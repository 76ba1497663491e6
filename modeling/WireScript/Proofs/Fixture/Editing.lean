import Mathlib.Data.List.Induction
import Mathlib.Data.List.TakeWhile
import Mathlib.Logic.Relation
import WireScript.Proofs.Fixture.Grammar

set_option autoImplicit false

namespace WireScript

namespace Text

theorem trim_append_blank {c : Char} (blank : isBlank c = true) (text : List Char) :
    trim (text ++ [c]) = trim text := by
  rw [trim, trim, List.dropWhile_append]
  split
  · rename_i nothing
    have none : text.dropWhile isBlank = [] := by simpa using nothing
    simp [none, blank]
  · simp [blank]

theorem squeeze_append (front back : List Char) :
    squeeze (front ++ back) = squeeze front ++ squeeze back := by
  simp [squeeze]

theorem lines_feedless {line : List Char} (feedless : '\n' ∉ line) (some : line ≠ []) :
    lines line = [line] := by
  induction line with
  | nil => exact absurd rfl some
  | cons c line ih =>
    simp only [List.mem_cons, not_or] at feedless
    have other : ∀ rest, c = '\r' → line = '\n' :: rest → False := by
      rintro rest - rfl
      exact feedless.2 List.mem_cons_self
    rw [lines.eq_4 c line (Ne.symm feedless.1) other]
    cases line with
    | nil => rfl
    | cons d line => rw [ih feedless.2 (List.cons_ne_nil d line)]

theorem lines_feed {line : List Char} (feedless : '\n' ∉ line) (rest : List Char) :
    ∃ kept, lines (line ++ '\n' :: rest) = kept :: lines rest ∧
      (line = kept ∨ line = kept ++ ['\r']) := by
  induction line with
  | nil => exact ⟨[], rfl, .inl rfl⟩
  | cons c line ih =>
    simp only [List.mem_cons, not_or] at feedless
    obtain ⟨kept, split, same⟩ := ih feedless.2
    -- Only a return right before the feed goes with it; any other one stays in its line.
    by_cases last : c = '\r' ∧ line = []
    · obtain ⟨rfl, rfl⟩ := last
      exact ⟨[], rfl, .inr rfl⟩
    · have other : ∀ tail, c = '\r' → line ++ '\n' :: rest = '\n' :: tail → False := by
        intro tail ret begins
        cases line with
        | nil => exact last ⟨ret, rfl⟩
        | cons d line => simp_all
      refine ⟨c :: kept, ?_, ?_⟩
      · rw [List.cons_append, lines.eq_4 c _ (Ne.symm feedless.1) other, split]
      · obtain rfl | rfl := same
        · exact .inl rfl
        · exact .inr rfl

end Text

namespace Hex

theorem encode_append (data more : Bytes) : encode (data ++ more) = encode data ++ encode more := by
  simp [encode]

theorem Spells.append {text text' : List Char} {data data' : Bytes} (spells : Spells text data)
    (spells' : Spells text' data') : Spells (text ++ text') (data ++ data') := by
  rw [Spells, List.map_append, encode_append, spells, spells']

theorem Spells.unique {text : List Char} {data data' : Bytes} (spells : Spells text data)
    (spells' : Spells text data') : data = data' :=
  encode_injective (spells.symm.trans spells')

theorem Spells.cut {text text' : List Char} {data : Bytes} (spells : Spells (text ++ text') data)
    (even : text.length % 2 = 0) :
    ∃ front back, Spells text front ∧ Spells text' back ∧ data = front ++ back := by
  obtain ⟨whole, digits⟩ := spells.isHex
  rw [List.length_append] at whole
  have front : IsHex text := ⟨even, fun c member => digits c (List.mem_append_left _ member)⟩
  have back : IsHex text' :=
    ⟨by omega, fun c member => digits c (List.mem_append_right _ member)⟩
  obtain ⟨first, -, spells₁⟩ := decode_of_isHex front
  obtain ⟨second, -, spells₂⟩ := decode_of_isHex back
  exact ⟨first, second, spells₁, spells₂, spells.unique (spells₁.append spells₂)⟩

theorem isBlank_toLower (c : Char) : Text.isBlank c.toLower = Text.isBlank c := by
  have every : ∀ n : Fin 128,
      Text.isBlank (Char.ofNat n).toLower = Text.isBlank (Char.ofNat n) := by decide
  by_cases upper : c.val ≥ 'A'.val ∧ c.val ≤ 'Z'.val
  · have high := upper.2
    simp only [UInt32.le_iff_toNat_le] at high
    have small : c.toNat < 128 := Nat.lt_of_le_of_lt high (by decide)
    simpa using every ⟨c.toNat, small⟩
  · have kept : c.toLower = c := dif_neg upper
    rw [kept]

theorem squeeze_map_toLower (text : List Char) :
    (Text.squeeze text).map Char.toLower = Text.squeeze (text.map Char.toLower) := by
  simp [Text.squeeze, List.filter_map, Function.comp_def, isBlank_toLower]

theorem IsDigit.not_isBlank {c : Char} (digit : IsDigit c) : Text.isBlank c = false := by
  obtain ⟨n, small, letter, -⟩ := digit.value
  rw [← isBlank_toLower, letter]
  exact (digitChar_inert n small).1

theorem countP_isDigit {text : List Char} (digits : ∀ c ∈ Text.squeeze text, IsDigit c) :
    text.countP (fun c => IsDigit c) = (Text.squeeze text).length := by
  rw [Text.squeeze, ← List.countP_eq_length_filter]
  apply List.countP_congr
  intro c member
  by_cases blank : Text.isBlank c = true
  · have other : ¬IsDigit c := fun digit => by simp [digit.not_isBlank] at blank
    simp [blank, other]
  · have digit : IsDigit c := digits c (by simp [Text.squeeze, member, blank])
    simp [digit, digit.not_isBlank]

end Hex

namespace Fixture

def Opens (front : List Char) : Prop := ∀ c ∈ front.getLast?, c = '\n'

def Closes (back : List Char) : Prop := ∀ c ∈ back.head?, c = '\n'

instance (front : List Char) : Decidable (Opens front) := Option.decidableForallMem _

instance (back : List Char) : Decidable (Closes back) := Option.decidableForallMem _

theorem closes_nil : Closes [] := by simp [Closes]

theorem closes_feed (back : List Char) : Closes ('\n' :: back) := by simp [Closes]

inductive Retouch : List Char → List Char → Prop
  | blanks {line line' : List Char} (payload : IsPayload line)
      (same : Text.squeeze line' = Text.squeeze line) : Retouch line line'
  | letters {line line' : List Char} (payload : IsPayload line)
      (same : line'.map Char.toLower = line.map Char.toLower) : Retouch line line'
  | indent {lead lead' : List Char} (blank : ∀ c ∈ lead, Text.isBlank c = true)
      (blank' : ∀ c ∈ lead', Text.isBlank c = true) (d : Direction) (note : List Char) :
      Retouch (lead ++ marker d ++ note) (lead' ++ marker d ++ note)
  | note {lead : List Char} (blank : ∀ c ∈ lead, Text.isBlank c = true) (d : Direction)
      (note note' : List Char) : Retouch (lead ++ marker d ++ note) (lead ++ marker d ++ note')

inductive Edit : List Char → List Char → Prop
  -- After a last line without an end, this takes `addFeed` first.
  | insert {front line : List Char} (opens : Opens front) (feedless : '\n' ∉ line)
      (remark : IsRemark line) (back : List Char) :
      Edit (front ++ back) (front ++ (line ++ '\n' :: back))
  | delete {front line : List Char} (opens : Opens front) (feedless : '\n' ∉ line)
      (remark : IsRemark line) (back : List Char) :
      Edit (front ++ (line ++ '\n' :: back)) (front ++ back)
  | addReturn (front back : List Char) :
      Edit (front ++ '\n' :: back) (front ++ '\r' :: '\n' :: back)
  | dropReturn (front back : List Char) :
      Edit (front ++ '\r' :: '\n' :: back) (front ++ '\n' :: back)
  | addFeed (text : List Char) : Edit text (text ++ ['\n'])
  | dropFeed (text : List Char) : Edit (text ++ ['\n']) text
  | retouch {front back line line' : List Char} (opens : Opens front) (closes : Closes back)
      (feedless : '\n' ∉ line) (feedless' : '\n' ∉ line') (change : Retouch line line') :
      Edit (front ++ (line ++ back)) (front ++ (line' ++ back))
  | split {front back line more : List Char} (opens : Opens front) (closes : Closes back)
      (feedless : '\n' ∉ line ++ more) (payload : IsPayload (line ++ more))
      (even : line.countP (fun c => Hex.IsDigit c) % 2 = 0) :
      Edit (front ++ (line ++ more ++ back)) (front ++ (line ++ '\n' :: (more ++ back)))
  | join {front back line more : List Char} (opens : Opens front) (closes : Closes back)
      (feedless : '\n' ∉ line ++ more) (payload : IsPayload line) (payload' : IsPayload more) :
      Edit (front ++ (line ++ '\n' :: (more ++ back))) (front ++ (line ++ more ++ back))

section Lines

variable {line : List Char}

theorem isPayload_of_digits (some : Text.squeeze line ≠ [])
    (digits : ∀ c ∈ Text.squeeze line, Hex.IsDigit c) : IsPayload line := by
  have inside {c : Char} (member : c ∈ Text.trim line) (solid : Text.isBlank c = false) :
      Hex.IsDigit c := by
    apply digits c
    rw [← Text.squeeze_trim]
    simpa [Text.squeeze, solid] using member
  refine ⟨?_, ?_⟩
  · rintro (nothing | hash)
    · rw [← Text.squeeze_trim, nothing] at some
      exact some rfl
    · exact absurd (inside (c := '#') (hash.subset (by simp)) (by decide)) (by decide)
  · rintro (heads | heads)
    · exact absurd (inside (c := '>') (heads.subset (by simp [marker])) (by decide)) (by decide)
    · exact absurd (inside (c := '<') (heads.subset (by simp [marker])) (by decide)) (by decide)

theorem isRemark_of_blanks (nothing : Text.squeeze line = []) : IsRemark line := by
  have blank : ∀ c ∈ line, Text.isBlank c = true := by simpa [Text.squeeze] using nothing
  have none : line.dropWhile Text.isBlank = [] := List.dropWhile_eq_nil_iff.2 blank
  exact .inl (by simp [Text.trim, none])

theorem heads_lead {lead : List Char} (blank : ∀ c ∈ lead, Text.isBlank c = true) (d : Direction)
    (note : List Char) : Heads d (lead ++ marker d ++ note) := by
  have begins : (lead ++ marker d ++ note).dropWhile Text.isBlank = marker d ++ note := by
    rw [List.append_assoc, List.dropWhile_append_of_pos blank]
    apply Text.dropWhile_isBlank
    cases d <;> simp [marker] <;> decide
  have ends : (marker d).reverse.dropWhile Text.isBlank = (marker d).reverse := by
    cases d <;> decide
  rw [Heads, Text.trim, begins, List.reverse_append, List.dropWhile_append]
  split
  · -- The note is all blank, and goes with the trimming.
    simp [ends]
  · simp

end Lines

namespace Draft

def take (d : Draft) (line : List Char) : Option Draft := (d.add 0 (Line.ofText line)).toOption

def takeAll (d : Draft) (text : List Char) : Option Draft := (Text.lines text).foldlM take d

def extend (d : Draft) (data : Bytes) : Draft :=
  { d with current := d.current.map (fun s => { s with payload := s.payload ++ data }) }

theorem extend_nil (d : Draft) : d.extend [] = d := by
  rcases d with ⟨complete, _ | s⟩ <;> simp [extend]

theorem extend_extend (d : Draft) (data more : Bytes) :
    (d.extend data).extend more = d.extend (data ++ more) := by
  simp [extend, Function.comp_def]

@[simp] theorem isSome_current_extend (d : Draft) (data : Bytes) :
    (d.extend data).current.isSome = d.current.isSome := by
  simp [extend]

variable {d d' : Draft} {line line' : List Char}

theorem toOption_add (d : Draft) (number : Nat) (line : List Char) :
    (d.add number (Line.ofText line)).toOption = d.take line := by
  rw [take]
  cases Line.ofText line with
  | remark => rfl
  | header direction => rfl
  | payload text =>
    simp only [add]
    cases d.current with
    | none => rfl
    | some s => cases Hex.decode (Text.squeeze text) <;> rfl

theorem toOption_addAll (d : Draft) (number : Nat) (lines : List (List Char)) :
    (d.addAll number lines).toOption = lines.foldlM take d := by
  induction lines generalizing d number with
  | nil => rfl
  | cons line lines ih =>
    rw [List.foldlM_cons, ← toOption_add d number line, addAll]
    cases d.add number (Line.ofText line) with
    | error e => rfl
    | ok next => exact ih next (number + 1)

theorem take_congr (same : Text.trim line = Text.trim line') : d.take line = d.take line' := by
  rw [take, take, Line.ofText, Line.ofText, same]

theorem take_remark (remark : IsRemark line) : d.take line = some d := by
  rw [take, ofText_of_isRemark remark]
  rfl

theorem take_heads {direction : Direction} (heads : Heads direction line) :
    d.take line = some ⟨d.finish, some ⟨direction, []⟩⟩ := by
  rw [take, ofText_of_heads heads]
  rfl

theorem take_payload (payload : IsPayload line) :
    d.take line = some d' ↔
      d.current.isSome = true ∧
        ∃ data, Hex.Spells (Text.squeeze line) data ∧ d' = d.extend data := by
  simp only [take, ofText_of_isPayload payload, add, Text.squeeze_trim, ← Hex.decode_eq_ok_iff]
  cases current : d.current with
  | none => simp [Except.toOption]
  | some s =>
    cases decoded : Hex.decode (Text.squeeze line) with
    | error fault => simp [Except.toOption]
    | ok data => simp [Except.toOption, extend, current, eq_comm]

theorem take_spells (headed : d.current.isSome = true) {data : Bytes}
    (spells : Hex.Spells (Text.squeeze line) data) : d.take line = some (d.extend data) := by
  -- Without digits the line is no payload but blank, which adds as little.
  by_cases nothing : Text.squeeze line = []
  · rw [nothing] at spells
    have none : Hex.Spells [] [] := rfl
    obtain rfl := none.unique spells
    rw [take_remark (isRemark_of_blanks nothing), extend_nil]
  · have payload := isPayload_of_digits nothing spells.isHex.2
    exact (take_payload payload).2 ⟨headed, data, spells, rfl⟩

theorem takeAll_opens {front : List Char} (opens : Opens front) (d : Draft) (rest : List Char) :
    d.takeAll (front ++ rest) = (d.takeAll front).bind (·.takeAll rest) := by
  obtain rfl | ⟨init, c, rfl⟩ := List.eq_nil_or_concat front
  · rfl
  · obtain rfl : c = '\n' := opens c (by simp)
    simp only [takeAll, List.concat_eq_append, List.append_assoc, List.singleton_append]
    rw [Text.lines_append_feed, List.foldlM_append]
    rfl

theorem takeAll_behind {front part part' : List Char} (opens : Opens front)
    (same : ∀ d : Draft, d.takeAll part = d.takeAll part') (d : Draft) :
    d.takeAll (front ++ part) = d.takeAll (front ++ part') := by
  rw [takeAll_opens opens, takeAll_opens opens]
  simp only [same]

theorem takeAll_rows {front part part' rest : List Char} {rows rows' : Draft → Option Draft}
    (opens : Opens front) (parts : ∀ d : Draft, d.takeAll part = (rows d).bind (·.takeAll rest))
    (parts' : ∀ d : Draft, d.takeAll part' = (rows' d).bind (·.takeAll rest))
    (keeps : ∀ d d' : Draft, rows d = some d' → rows' d = some d')
    (read : d.takeAll (front ++ part) = some d') : d.takeAll (front ++ part') = some d' := by
  simp only [takeAll_opens opens, parts, parts', Option.bind_eq_some_iff] at read ⊢
  obtain ⟨start, before, next, here, behind⟩ := read
  exact ⟨start, before, next, keeps start next here, behind⟩

theorem takeAll_row (feedless : '\n' ∉ line) {back : List Char} (closes : Closes back) (d : Draft) :
    d.takeAll (line ++ back) = (d.take line).bind (·.takeAll back.tail) := by
  cases back with
  | nil =>
    by_cases nothing : line = []
    · subst nothing
      rfl
    · rw [takeAll, List.append_nil, Text.lines_feedless feedless nothing]
      rfl
  | cons c rest =>
    obtain rfl : c = '\n' := closes c rfl
    obtain ⟨kept, split, same⟩ := Text.lines_feed feedless rest
    have trims : Text.trim kept = Text.trim line := by
      obtain rfl | rfl := same
      · rfl
      · exact (Text.trim_append_blank (by decide) kept).symm
    rw [takeAll, split, List.foldlM_cons, take_congr trims]
    rfl

theorem takeAll_two {more : List Char} (feedless : '\n' ∉ line ++ more) {back : List Char}
    (closes : Closes back) (d : Draft) :
    d.takeAll (line ++ '\n' :: (more ++ back)) =
      ((d.take line).bind (·.take more)).bind (·.takeAll back.tail) := by
  simp only [List.mem_append, not_or] at feedless
  rw [takeAll_row feedless.1 (closes_feed _), Option.bind_assoc, List.tail_cons]
  simp only [takeAll_row feedless.2 closes]

end Draft

theorem parse_eq_ok_iff (text : List Char) (t : Transcript) :
    parse text = .ok t ↔ ∃ d, Draft.takeAll ⟨[], none⟩ text = some d ∧ t = ⟨d.finish⟩ := by
  rw [parse, Draft.takeAll, ← Draft.toOption_addAll _ 1]
  cases Draft.addAll ⟨[], none⟩ 1 (Text.lines text) with
  | error e => simp [Except.map, Except.toOption]
  | ok d => simp [Except.map, Except.toOption, eq_comm]

theorem exists_opens (text : List Char) :
    ∃ front line, text = front ++ line ∧ Opens front ∧ '\n' ∉ line := by
  induction text using List.reverseRecOn with
  | nil => exact ⟨[], [], rfl, by simp [Opens], by simp⟩
  | append_singleton text c ih =>
    obtain ⟨front, line, rfl, opens, feedless⟩ := ih
    by_cases feed : c = '\n'
    · exact ⟨front ++ line ++ [c], [], by simp, by simp [Opens, feed], by simp⟩
    · exact ⟨front, line ++ [c], by simp, opens, by simp [feedless, Ne.symm feed]⟩

section Edits

variable {d d' : Draft} {line line' more : List Char}

theorem Retouch.take (change : Retouch line line') (read : d.take line = some d') :
    d.take line' = some d' := by
  cases change with
  | blanks payload same =>
    obtain ⟨headed, data, spells, rfl⟩ := (Draft.take_payload payload).1 read
    exact Draft.take_spells headed (same ▸ spells)
  | letters payload same =>
    obtain ⟨headed, data, spells, rfl⟩ := (Draft.take_payload payload).1 read
    apply Draft.take_spells headed
    rwa [Hex.Spells, Hex.squeeze_map_toLower, same, ← Hex.squeeze_map_toLower]
  | indent blank blank' direction note =>
    rwa [Draft.take_heads (heads_lead blank' direction note),
      ← Draft.take_heads (heads_lead blank direction note)]
  | note blank direction note note' =>
    rwa [Draft.take_heads (heads_lead blank direction note'),
      ← Draft.take_heads (heads_lead blank direction note)]

theorem take_split (payload : IsPayload (line ++ more))
    (even : line.countP (fun c => Hex.IsDigit c) % 2 = 0)
    (read : d.take (line ++ more) = some d') :
    (d.take line).bind (·.take more) = some d' := by
  obtain ⟨headed, data, spells, rfl⟩ := (Draft.take_payload payload).1 read
  rw [Text.squeeze_append] at spells
  have digits := spells.isHex.2
  rw [Hex.countP_isDigit (fun c member => digits c (List.mem_append_left _ member))] at even
  obtain ⟨front, back, spells₁, spells₂, rfl⟩ := spells.cut even
  rw [Draft.take_spells headed spells₁, Option.bind_some,
    Draft.take_spells (by simpa using headed) spells₂, Draft.extend_extend]

theorem take_join (payload : IsPayload line) (payload' : IsPayload more)
    (read : (d.take line).bind (·.take more) = some d') : d.take (line ++ more) = some d' := by
  obtain ⟨next, first, second⟩ := Option.bind_eq_some_iff.1 read
  obtain ⟨headed, data, spells, rfl⟩ := (Draft.take_payload payload).1 first
  obtain ⟨-, data', spells', rfl⟩ := (Draft.take_payload payload').1 second
  rw [Draft.extend_extend]
  apply Draft.take_spells headed
  rw [Text.squeeze_append]
  exact spells.append spells'

theorem takeAll_return (d : Draft) (front back : List Char) :
    d.takeAll (front ++ '\r' :: '\n' :: back) = d.takeAll (front ++ '\n' :: back) := by
  obtain ⟨front, line, rfl, opens, feedless⟩ := exists_opens front
  rw [List.append_assoc, List.append_assoc]
  apply Draft.takeAll_behind opens
  intro d
  -- The return is the last character of its line, and a blank.
  have longer : '\n' ∉ line ++ ['\r'] := by simp [feedless]
  have row := Draft.takeAll_row longer (closes_feed back) d
  rw [List.append_assoc, List.singleton_append] at row
  rw [row, Draft.takeAll_row feedless (closes_feed back),
    Draft.take_congr (Text.trim_append_blank (by decide) line)]

theorem takeAll_feed (d : Draft) (text : List Char) :
    d.takeAll (text ++ ['\n']) = d.takeAll text := by
  obtain ⟨front, line, rfl, opens, feedless⟩ := exists_opens text
  rw [List.append_assoc]
  apply Draft.takeAll_behind opens
  intro d
  have last := Draft.takeAll_row feedless closes_nil d
  rw [List.append_nil] at last
  rw [last, Draft.takeAll_row feedless (closes_feed [])]
  rfl

theorem takeAll_remark {front : List Char} (opens : Opens front) (feedless : '\n' ∉ line)
    (remark : IsRemark line) (d : Draft) (back : List Char) :
    d.takeAll (front ++ (line ++ '\n' :: back)) = d.takeAll (front ++ back) := by
  apply Draft.takeAll_behind opens
  intro d
  rw [Draft.takeAll_row feedless (closes_feed back), Draft.take_remark remark]
  rfl

theorem Edit.takeAll {text text' : List Char} (edit : Edit text text')
    (read : d.takeAll text = some d') : d.takeAll text' = some d' := by
  cases edit with
  | insert opens feedless remark back => rwa [takeAll_remark opens feedless remark]
  | delete opens feedless remark back => rwa [takeAll_remark opens feedless remark] at read
  | addReturn front back => rwa [takeAll_return]
  | dropReturn front back => rwa [takeAll_return] at read
  | addFeed => rwa [takeAll_feed]
  | dropFeed => rwa [takeAll_feed] at read
  | retouch opens closes feedless feedless' change =>
    apply Draft.takeAll_rows opens (Draft.takeAll_row feedless closes)
      (Draft.takeAll_row feedless' closes) _ read
    exact fun _ _ => change.take
  | split opens closes feedless payload even =>
    apply Draft.takeAll_rows opens (Draft.takeAll_row feedless closes)
      (Draft.takeAll_two feedless closes) _ read
    exact fun _ _ => take_split payload even
  | join opens closes feedless payload payload' =>
    apply Draft.takeAll_rows opens (Draft.takeAll_two feedless closes)
      (Draft.takeAll_row feedless closes) _ read
    exact fun _ _ => take_join payload payload'

end Edits

/-- A text that is read is read as the same transcript after any number of edits. -/
theorem edited_read_alike {text text' : List Char} {t : Transcript} (read : parse text = .ok t)
    (edits : Relation.ReflTransGen Edit text text') : parse text' = .ok t := by
  rw [parse_eq_ok_iff] at read ⊢
  obtain ⟨d, whole, rfl⟩ := read
  -- Each edit needs only that the text before it is read as the draft `d`.
  refine ⟨d, ?_, rfl⟩
  induction edits with
  | refl => exact whole
  | tail _ edit ih => exact edit.takeAll ih

theorem handwritten_read_alike :
    parse ">>>\n160a".toList = .ok ⟨[.expect [22, 10]]⟩ ∧
      parse ">>> hi\n#\n16\r\n0A".toList = .ok ⟨[.expect [22, 10]]⟩ := by
  have read : parse ">>>\n160a".toList = .ok ⟨[.expect [22, 10]]⟩ := by rfl
  have noted : Edit ">>>\n160a".toList ">>> hi\n160a".toList :=
    @Edit.retouch [] "\n160a".toList ">>>".toList ">>> hi".toList (by decide) (by decide)
      (by decide) (by decide) (@Retouch.note [] (by simp) .fromIut [] " hi".toList)
  have raised : Edit ">>> hi\n160a".toList ">>> hi\n160A".toList :=
    @Edit.retouch ">>> hi\n".toList [] "160a".toList "160A".toList (by decide) (by decide)
      (by decide) (by decide) (.letters (by decide) (by decide))
  have cut : Edit ">>> hi\n160A".toList ">>> hi\n16\n0A".toList :=
    @Edit.split ">>> hi\n".toList [] "16".toList "0A".toList (by decide) (by decide) (by decide)
      (by decide) (by decide)
  have returned : Edit ">>> hi\n16\n0A".toList ">>> hi\n16\r\n0A".toList :=
    .addReturn ">>> hi\n16".toList "0A".toList
  have remarked : Edit ">>> hi\n16\r\n0A".toList ">>> hi\n#\n16\r\n0A".toList :=
    @Edit.insert ">>> hi\n".toList ['#'] (by decide) (by decide) (by decide) "16\r\n0A".toList
  refine ⟨read, edited_read_alike read ?_⟩
  exact .head noted <| .head raised <| .head cut <| .head returned <| .single remarked

end Fixture

end WireScript
