import WireScript.Proofs.Fixture.RoundTrip

set_option autoImplicit false

namespace WireScript

theorem Text.lines_ne_nil {text : List Char} (something : text ≠ []) : lines text ≠ [] := by
  fun_cases lines text <;> simp_all

theorem Text.lines_append_feed (front rest : List Char) :
    lines (front ++ '\n' :: rest) = lines (front ++ ['\n']) ++ lines rest := by
  induction front with
  | nil => rfl
  | cons c front ih =>
    by_cases feed : c = '\n'
    · subst feed
      simp [lines, ih]
    · by_cases ret : c = '\r' ∧ ∀ d ∈ front.head?, d = '\n'
      · -- The return goes with the line feed after it, which is the one of `front` if it has one.
        obtain ⟨rfl, first⟩ := ret
        cases front with
        | nil => rfl
        | cons d front =>
          obtain rfl : d = '\n' := first d rfl
          simpa [lines] using ih
      · have other (more : List Char) :
            ∀ tail, c = '\r' → front ++ '\n' :: more = '\n' :: tail → False := by
          intro tail same begins
          refine ret ⟨same, fun d member => ?_⟩
          cases front with
          | nil => simp at member
          | cons d' front => simp_all
        rw [List.cons_append, List.cons_append, lines.eq_4 c _ feed (other rest),
          lines.eq_4 c _ feed (other []), ih]
        cases first : lines (front ++ ['\n']) with
        | nil => exact absurd first (lines_ne_nil (by simp))
        | cons line more => rfl

theorem Text.squeeze_dropWhile (text : List Char) :
    squeeze (text.dropWhile isBlank) = squeeze text := by
  induction text with
  | nil => rfl
  | cons c text ih =>
    by_cases blank : isBlank c = true
    · rw [List.dropWhile_cons_of_pos blank, ih]
      simp [squeeze, blank]
    · rw [List.dropWhile_cons_of_neg blank]

theorem Text.squeeze_trim (text : List Char) : squeeze (trim text) = squeeze text := by
  have backwards (text : List Char) : squeeze text.reverse = (squeeze text).reverse := by
    simp [squeeze]
  rw [trim, backwards, squeeze_dropWhile, backwards, squeeze_dropWhile, List.reverse_reverse]

namespace Fixture

def IsRemark (line : List Char) : Prop :=
  Text.trim line = [] ∨ ['#'] <+: Text.trim line

def Heads (d : Direction) (line : List Char) : Prop :=
  marker d <+: Text.trim line

def IsHeader (line : List Char) : Prop :=
  Heads .fromIut line ∨ Heads .toIut line

def IsPayload (line : List Char) : Prop :=
  ¬IsRemark line ∧ ¬IsHeader line

instance (line : List Char) : Decidable (IsRemark line) := inferInstanceAs (Decidable (_ ∨ _))

instance (d : Direction) (line : List Char) : Decidable (Heads d line) :=
  inferInstanceAs (Decidable (_ <+: _))

instance (line : List Char) : Decidable (IsHeader line) := inferInstanceAs (Decidable (_ ∨ _))

instance (line : List Char) : Decidable (IsPayload line) := inferInstanceAs (Decidable (_ ∧ _))

-- Payload stands only below a header, and is hex but for the blanks in it.
structure Legible (lines : List (List Char)) : Prop where
  headed : ∀ front line back, lines = front ++ line :: back → IsPayload line →
    ∃ l ∈ front, IsHeader l
  hex : ∀ line ∈ lines, IsPayload line → Hex.IsHex (Text.squeeze line)

def below (lines : List (List Char)) : List (List Char) :=
  (lines.takeWhile (fun l => ¬IsHeader l)).filter (fun l => IsPayload l)

-- There is a segment for every header, of the bytes that the payload lines below it spell.
structure Describes (lines : List (List Char)) (t : Transcript) : Prop where
  length : t.length = lines.countP (fun l => IsHeader l)
  segment : ∀ front line back d, lines = front ++ line :: back → Heads d line →
    ∃ pieces : List Bytes, (below back).map (fun l => (Text.squeeze l).map Char.toLower) =
        pieces.map Hex.encode ∧
      t.segments[front.countP (fun l => IsHeader l)]? = some ⟨d, pieces.flatten⟩

-- The line is payload, all lines before it are as they should be, and the cause is what is wrong
-- with it.
def Blames (lines : List (List Char)) (e : Fault) : Prop :=
  ∃ front line back, lines = front ++ line :: back ∧ e.line = front.length + 1 ∧
    Legible front ∧ IsPayload line ∧
    match e.cause with
    | .missingHeader => ∀ l ∈ front, ¬IsHeader l
    | .invalidHex fault =>
      (∃ l ∈ front, IsHeader l) ∧ fault.Marks (Bytes.ofText (Text.squeeze line))

section Lines

variable {line : List Char} {d : Direction}

theorem ofText_of_isRemark (remark : IsRemark line) : Line.ofText line = .remark := by
  obtain empty | ⟨rest, begins⟩ := remark
  · simp [Line.ofText, empty]
  · simp [Line.ofText, ← begins]

theorem ofText_of_heads (heads : Heads d line) : Line.ofText line = .header d := by
  obtain ⟨rest, begins⟩ := heads
  cases d <;> simp [Line.ofText, ← begins, marker]

theorem ofText_of_isPayload (payload : IsPayload line) :
    Line.ofText line = .payload (Text.trim line) := by
  simp only [IsPayload, IsRemark, IsHeader, Heads, marker, not_or] at payload
  rw [Line.ofText]
  split
  · simp_all
  · simp_all
  · simp_all
  · simp_all
  · rfl

theorem IsHeader.exists_heads (header : IsHeader line) : ∃ d, Heads d line := by
  obtain heads | heads := header
  · exact ⟨_, heads⟩
  · exact ⟨_, heads⟩

theorem ofText_cases (line : List Char) :
    (Line.ofText line = .remark ∧ ¬IsHeader line ∧ ¬IsPayload line) ∨
    (∃ d, Line.ofText line = .header d ∧ IsHeader line ∧ ¬IsPayload line) ∨
    (Line.ofText line = .payload (Text.trim line) ∧ ¬IsHeader line ∧ IsPayload line) := by
  by_cases remark : IsRemark line
  · have told := ofText_of_isRemark remark
    refine .inl ⟨told, ?_, fun payload => payload.1 remark⟩
    intro header
    obtain ⟨d, heads⟩ := header.exists_heads
    simp [ofText_of_heads heads] at told
  · by_cases header : IsHeader line
    · obtain ⟨d, heads⟩ := header.exists_heads
      exact .inr (.inl ⟨d, ofText_of_heads heads, header, fun payload => payload.2 header⟩)
    · exact .inr (.inr ⟨ofText_of_isPayload ⟨remark, header⟩, header, remark, header⟩)

end Lines

namespace Draft

variable {d d' : Draft} {number : Nat} {line : List Char} {lines : List (List Char)}

theorem addAll_append (d : Draft) (number : Nat) (lines more : List (List Char)) :
    d.addAll number (lines ++ more) =
      match d.addAll number lines with
      | .ok d => d.addAll (number + lines.length) more
      | .error e => .error e := by
  induction lines generalizing d number with
  | nil => simp [addAll]
  | cons line lines ih =>
    simp only [List.cons_append, addAll]
    cases d.add number (Line.ofText line) with
    | error e => rfl
    | ok d =>
      simp only [ih, List.length_cons]
      rw [Nat.add_assoc, Nat.add_comm 1]

theorem add_ok (read : d.add number (Line.ofText line) = .ok d') :
    (d'.current.isSome = true ↔ d.current.isSome = true ∨ IsHeader line) ∧
      (IsPayload line → d.current.isSome = true ∧ Hex.IsHex (Text.squeeze line)) := by
  obtain ⟨told, header, payload⟩ | ⟨direction, told, header, payload⟩ | ⟨told, header, payload⟩ :=
    ofText_cases line
  · obtain rfl : d = d' := by simpa [told, add] using read
    simp [header, payload]
  · obtain rfl : ⟨d.finish, some ⟨direction, []⟩⟩ = d' := by simpa [told, add] using read
    simp [header, payload]
  · simp only [told, add, Text.squeeze_trim] at read
    cases current : d.current with
    | none => simp [current] at read
    | some s =>
      cases decoded : Hex.decode (Text.squeeze line) with
      | error fault => simp [current, decoded] at read
      | ok data =>
        have after : d'.current = some ⟨s.direction, s.payload ++ data⟩ := by
          simp only [current, decoded, Except.ok.injEq] at read
          simp [← read]
        simp [after, Hex.isHex_of_decode decoded]

theorem add_error {e : Fault} (read : d.add number (Line.ofText line) = .error e) :
    IsPayload line ∧ e.line = number ∧
      ((d.current = none ∧ e.cause = .missingHeader) ∨
        ∃ fault, d.current.isSome = true ∧ e.cause = .invalidHex fault ∧
          Hex.decode (Text.squeeze line) = .error fault) := by
  obtain ⟨told, header, payload⟩ | ⟨direction, told, header, payload⟩ | ⟨told, header, payload⟩ :=
    ofText_cases line
  · simp [told, add] at read
  · simp [told, add] at read
  · refine ⟨payload, ?_⟩
    simp only [told, add, Text.squeeze_trim] at read
    cases current : d.current with
    | none =>
      obtain rfl : ⟨number, .missingHeader⟩ = e := by simpa [current] using read
      exact ⟨rfl, .inl ⟨rfl, rfl⟩⟩
    | some s =>
      cases decoded : Hex.decode (Text.squeeze line) with
      | ok data => simp [current, decoded] at read
      | error fault =>
        obtain rfl : ⟨number, .invalidHex fault⟩ = e := by simpa [current, decoded] using read
        exact ⟨rfl, .inr ⟨fault, rfl, rfl, rfl⟩⟩

theorem current_addAll (read : d.addAll number lines = .ok d') :
    d'.current.isSome = true ↔ d.current.isSome = true ∨ ∃ l ∈ lines, IsHeader l := by
  induction lines generalizing d number with
  | nil =>
    obtain rfl : d = d' := by simpa [addAll] using read
    simp
  | cons line lines ih =>
    simp only [addAll] at read
    cases added : d.add number (Line.ofText line) with
    | error e => simp [added] at read
    | ok next =>
      simp only [added] at read
      rw [ih read, (add_ok added).1]
      simp [or_assoc]

theorem addAll_split {front back : List (List Char)}
    (read : d.addAll number (front ++ line :: back) = .ok d') :
    ∃ before after, d.addAll number front = .ok before ∧
      before.add (number + front.length) (Line.ofText line) = .ok after := by
  rw [addAll_append] at read
  cases start : d.addAll number front with
  | error e => simp [start] at read
  | ok before =>
    simp only [start, addAll] at read
    cases added : before.add (number + front.length) (Line.ofText line) with
    | error e => simp [added] at read
    | ok after => exact ⟨before, after, rfl, added⟩

theorem addAll_error {e : Fault} (read : d.addAll number lines = .error e) :
    ∃ front line back before, lines = front ++ line :: back ∧ d.addAll number front = .ok before ∧
      before.add (number + front.length) (Line.ofText line) = .error e := by
  induction lines generalizing d number with
  | nil => simp [addAll] at read
  | cons line lines ih =>
    simp only [addAll] at read
    cases added : d.add number (Line.ofText line) with
    | error e' =>
      obtain rfl : e' = e := by simpa [added] using read
      exact ⟨[], line, lines, d, rfl, rfl, added⟩
    | ok next =>
      simp only [added] at read
      obtain ⟨front, bad, back, before, rfl, start, failed⟩ := ih read
      refine ⟨line :: front, bad, back, before, rfl, by simp [addAll, added, start], ?_⟩
      rw [List.length_cons, Nat.add_comm front.length, ← Nat.add_assoc]
      exact failed

theorem addAll_of_add_error {front back : List (List Char)} {e : Fault} {before : Draft}
    (start : d.addAll number front = .ok before)
    (failed : before.add (number + front.length) (Line.ofText line) = .error e) :
    d.addAll number (front ++ line :: back) = .error e := by
  simp [addAll_append, start, addAll, failed]

theorem legible_of_addAll (read : addAll ⟨[], none⟩ number lines = .ok d') : Legible lines := by
  constructor
  · intro front line back split payload
    rw [split] at read
    obtain ⟨before, after, start, added⟩ := addAll_split read
    have open' := ((add_ok added).2 payload).1
    simpa using (current_addAll start).1 open'
  · intro line member payload
    obtain ⟨front, back, split⟩ := List.append_of_mem member
    rw [split] at read
    obtain ⟨before, after, -, added⟩ := addAll_split read
    exact ((add_ok added).2 payload).2

theorem blames_of_addAll {e : Fault} (read : addAll ⟨[], none⟩ 1 lines = .error e) :
    Blames lines e := by
  obtain ⟨front, line, back, before, split, start, failed⟩ := addAll_error read
  obtain ⟨payload, number, ⟨closed, cause⟩ | ⟨fault, open', cause, bad⟩⟩ := add_error failed
  · refine ⟨front, line, back, split, by omega, legible_of_addAll start, payload, ?_⟩
    have none : ¬∃ l ∈ front, IsHeader l := by
      intro header
      have open' := (current_addAll start).2 (.inr header)
      simp [closed] at open'
    simpa [cause] using none
  · refine ⟨front, line, back, split, by omega, legible_of_addAll start, payload, ?_⟩
    have header := (current_addAll start).1 open'
    rw [cause]
    exact ⟨by simpa using header, Hex.marks_of_decode bad⟩

end Draft

theorem Blames.not_legible {lines : List (List Char)} {e : Fault} (blames : Blames lines e) :
    ¬Legible lines := by
  intro legible
  obtain ⟨front, line, back, rfl, -, -, payload, wrong⟩ := blames
  obtain ⟨l, member, header⟩ := legible.headed front line back rfl payload
  split at wrong
  · exact wrong l member header
  · exact wrong.2.not_hex (legible.hex line (by simp) payload)

def gather : List (List Char) → Bytes
  | [] => []
  | line :: rest =>
    match Line.ofText line with
    | .remark => gather rest
    | .header _ => []
    | .payload text => (Hex.decode (Text.squeeze text)).toOption.getD [] ++ gather rest

def tally : List (List Char) → List Segment
  | [] => []
  | line :: rest =>
    match Line.ofText line with
    | .header d => ⟨d, gather rest⟩ :: tally rest
    | _ => tally rest

theorem Draft.finish_addAll {d d' : Draft} {number : Nat} {lines : List (List Char)}
    (read : d.addAll number lines = .ok d') :
    d'.finish =
      d.complete ++ (d.current.map (fun s => ⟨s.direction, s.payload ++ gather lines⟩)).toList ++
        tally lines := by
  induction lines generalizing d number with
  | nil =>
    obtain rfl : d = d' := by simpa [addAll] using read
    simp [gather, tally, finish]
  | cons line lines ih =>
    simp only [addAll] at read
    cases added : d.add number (Line.ofText line) with
    | error e => simp [added] at read
    | ok next =>
      simp only [added] at read
      rw [ih read]
      cases told : Line.ofText line with
      | remark =>
        obtain rfl : d = next := by simpa [told, add] using added
        simp [gather, tally, told]
      | header direction =>
        obtain rfl : ⟨d.finish, some ⟨direction, []⟩⟩ = next := by simpa [told, add] using added
        simp [gather, tally, told, finish]
      | payload text =>
        simp only [told, add] at added
        cases current : d.current with
        | none => simp [current] at added
        | some s =>
          cases decoded : Hex.decode (Text.squeeze text) with
          | error fault => simp [current, decoded] at added
          | ok data =>
            simp only [current, decoded, Except.ok.injEq] at added
            simp [gather, tally, told, decoded, ← added, Except.toOption]

theorem length_tally (lines : List (List Char)) :
    (tally lines).length = lines.countP (fun l => IsHeader l) := by
  induction lines with
  | nil => rfl
  | cons line lines ih =>
    obtain ⟨told, header, -⟩ | ⟨d, told, header, -⟩ | ⟨told, header, -⟩ := ofText_cases line
    all_goals simp [tally, told, header, ih]

theorem tally_getElem? {front back : List (List Char)} {line : List Char} {d : Direction}
    (heads : Heads d line) :
    (tally (front ++ line :: back))[front.countP (fun l => IsHeader l)]? =
      some ⟨d, gather back⟩ := by
  induction front with
  | nil => simp [tally, ofText_of_heads heads]
  | cons first front ih =>
    obtain ⟨told, header, -⟩ | ⟨d, told, header, -⟩ | ⟨told, header, -⟩ := ofText_cases first
    all_goals simp [tally, told, header, ih]

theorem below_cons (line : List Char) (lines : List (List Char)) :
    below (line :: lines) =
      if IsHeader line then []
      else if IsPayload line then line :: below lines else below lines := by
  by_cases header : IsHeader line
  · simp [below, header]
  · by_cases payload : IsPayload line <;> simp [below, header, payload]

theorem gather_spells {lines : List (List Char)}
    (hex : ∀ line ∈ lines, IsPayload line → Hex.IsHex (Text.squeeze line)) :
    ∃ pieces : List Bytes, (below lines).map (fun l => (Text.squeeze l).map Char.toLower) =
      pieces.map Hex.encode ∧ gather lines = pieces.flatten := by
  induction lines with
  | nil => exact ⟨[], rfl, rfl⟩
  | cons line lines ih =>
    obtain ⟨pieces, spelled, gathered⟩ := ih (fun l member => hex l (List.mem_cons_of_mem _ member))
    obtain ⟨told, header, payload⟩ | ⟨d, told, header, -⟩ | ⟨told, header, payload⟩ :=
      ofText_cases line
    · refine ⟨pieces, ?_, by simp [gather, told, gathered]⟩
      simp [below_cons, header, payload, spelled]
    · exact ⟨[], by simp [below_cons, header], by simp [gather, told]⟩
    · obtain ⟨data, decoded, spells⟩ := Hex.decode_of_isHex (hex line List.mem_cons_self payload)
      refine ⟨data :: pieces, ?_, ?_⟩
      · have first : (Text.squeeze line).map Char.toLower = Hex.encode data := spells
        simp [below_cons, header, payload, first, spelled]
      · simp [gather, told, Text.squeeze_trim, decoded, gathered, Except.toOption]

theorem describes_of_parse {text : List Char} {t : Transcript} (read : parse text = .ok t) :
    Describes (Text.lines text) t := by
  rw [parse] at read
  cases added : Draft.addAll ⟨[], none⟩ 1 (Text.lines text) with
  | error e => simp [added, Except.map] at read
  | ok d =>
    have finished : t.segments = tally (Text.lines text) := by
      simp only [added, Except.map, Except.ok.injEq] at read
      rw [← read, Draft.finish_addAll added]
      rfl
    constructor
    · rw [Transcript.length, finished, length_tally]
    · intro front line back d split heads
      have hex : ∀ l ∈ back, IsPayload l → Hex.IsHex (Text.squeeze l) := fun l member =>
        (Draft.legible_of_addAll added).hex l (by simp [split, member])
      obtain ⟨pieces, spelled, gathered⟩ := gather_spells hex
      refine ⟨pieces, spelled, ?_⟩
      rw [finished, split, tally_getElem? heads, gathered]

theorem parse_eq_error_iff (text : List Char) (e : Fault) :
    parse text = .error e ↔ Draft.addAll ⟨[], none⟩ 1 (Text.lines text) = .error e := by
  rw [parse]
  cases Draft.addAll ⟨[], none⟩ 1 (Text.lines text) <;> simp [Except.map]

theorem parse_error_congr {text other : List Char} {e : Fault} (read : parse text = .error e)
    (same : (Text.lines other).take e.line = (Text.lines text).take e.line) :
    parse other = .error e := by
  rw [parse_eq_error_iff] at read ⊢
  obtain ⟨front, line, back, before, split, start, failed⟩ := Draft.addAll_error read
  obtain ⟨-, number, -⟩ := Draft.add_error failed
  -- The first lines of the other text are those up to the one that is blamed.
  have begins : (Text.lines other).take e.line = front ++ [line] := by
    have point : e.line = front.length + 1 := by omega
    rw [same, split, point, List.take_length_add_append]
    rfl
  have whole : Text.lines other = front ++ line :: (Text.lines other).drop e.line := by
    have parts := List.take_append_drop e.line (Text.lines other)
    rw [begins, List.append_assoc] at parts
    exact parts.symm
  rw [whole]
  exact Draft.addAll_of_add_error start failed

/-- A text is read if and only if it is legible, as the segments that its headers open; otherwise
the first line that is wrong is blamed, and nothing that follows it matters. -/
theorem legible_read_else_first_blamed (text : List Char) :
    ((∃ t, parse text = .ok t) ↔ Legible (Text.lines text)) ∧
    (∀ t, parse text = .ok t → Describes (Text.lines text) t) ∧
    ∀ e, parse text = .error e →
      Blames (Text.lines text) e ∧
      (∀ other, (Text.lines other).take e.line = (Text.lines text).take e.line →
        parse other = .error e) ∧
      ∀ front back rest, text = front ++ '\n' :: back →
        e.line ≤ (Text.lines (front ++ ['\n'])).length →
          parse (front ++ '\n' :: rest) = .error e := by
  refine ⟨⟨?_, ?_⟩, fun t => describes_of_parse, ?_⟩
  · rintro ⟨t, read⟩
    cases added : Draft.addAll ⟨[], none⟩ 1 (Text.lines text) with
    | error e => simp [parse, added, Except.map] at read
    | ok d => exact Draft.legible_of_addAll added
  · intro legible
    cases read : parse text with
    | ok t => exact ⟨t, rfl⟩
    | error e =>
      have blames := Draft.blames_of_addAll ((parse_eq_error_iff text e).1 read)
      exact absurd legible blames.not_legible
  · intro e read
    refine ⟨Draft.blames_of_addAll ((parse_eq_error_iff text e).1 read),
      fun other => parse_error_congr read, ?_⟩
    intro front back rest split enough
    apply parse_error_congr read
    rw [split, Text.lines_append_feed, Text.lines_append_feed front back,
      List.take_append_of_le_length enough, List.take_append_of_le_length enough]

def smudged : List Char := "# note\r\n>>> hello\n 0A 1f\n<<<\n\n0z\n!".toList

theorem smudged_blamed :
    parse smudged = .error ⟨6, .invalidHex (.notADigit 122 1)⟩ ∧
      Blames (Text.lines smudged) ⟨6, .invalidHex (.notADigit 122 1)⟩ ∧
      Legible (Text.lines (smudged.take 29)) ∧
      Describes (Text.lines (smudged.take 29)) ⟨[.expect [10, 31], .inject []]⟩ := by
  have read : parse smudged = .error ⟨6, .invalidHex (.notADigit 122 1)⟩ := by rfl
  have begun : parse (smudged.take 29) = .ok ⟨[.expect [10, 31], .inject []]⟩ := by rfl
  have whole := legible_read_else_first_blamed smudged
  have first := legible_read_else_first_blamed (smudged.take 29)
  exact ⟨read, (whole.2.2 _ read).1, first.1.1 ⟨_, begun⟩, first.2.1 _ begun⟩

end Fixture

end WireScript
