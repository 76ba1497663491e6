import WireScript.Fixture.Text
import WireScript.Proofs.Bytes.Hex

set_option autoImplicit false

namespace WireScript

namespace Text

theorem lines_cons {c : Char} (feed : c ≠ '\n') (ret : c ≠ '\r') (text : List Char) :
    lines (c :: text) =
      match lines text with
      | [] => [[c]]
      | line :: more => (c :: line) :: more := by
  have other : ∀ rest, c = '\r' → text = '\n' :: rest → False :=
    fun _ same _ => absurd same ret
  exact lines.eq_4 c text feed other

theorem lines_append {line : List Char} (feed : '\n' ∉ line) (ret : '\r' ∉ line)
    (rest : List Char) : lines (line ++ '\n' :: rest) = line :: lines rest := by
  induction line with
  | nil => rfl
  | cons c line ih =>
    simp only [List.mem_cons, not_or] at feed ret
    rw [List.cons_append, lines_cons (Ne.symm feed.1) (Ne.symm ret.1), ih feed.2 ret.2]

theorem dropWhile_isBlank {text : List Char} (first : ∀ c ∈ text.head?, isBlank c = false) :
    text.dropWhile isBlank = text := by
  cases text with
  | nil => rfl
  | cons c text => simp [first c rfl]

theorem trim_eq_self {text : List Char} (first : ∀ c ∈ text.head?, isBlank c = false)
    (last : ∀ c ∈ text.getLast?, isBlank c = false) : trim text = text := by
  rw [trim, dropWhile_isBlank first, dropWhile_isBlank (by simpa using last), List.reverse_reverse]

end Text

namespace Hex

theorem digitChar_inert (n : Nat) (small : n < 16) :
    Text.isBlank (Nat.digitChar n) = false ∧ Nat.digitChar n ≠ '#' ∧ Nat.digitChar n ≠ '>' ∧
      Nat.digitChar n ≠ '<' := by
  rcases n with _ | _ | _ | _ | _ | _ | _ | _ | _ | _ | _ | _ | _ | _ | _ | _ | n
  all_goals first | decide | omega

theorem isBlank_encode {c : Char} {data : Bytes} (member : c ∈ encode data) :
    Text.isBlank c = false := by
  obtain ⟨n, small, rfl⟩ := mem_encode member
  exact (digitChar_inert n small).1

theorem trim_encode (data : Bytes) : Text.trim (encode data) = encode data := by
  apply Text.trim_eq_self
  · intro c first
    exact isBlank_encode (List.mem_of_mem_head? first)
  · intro c last
    exact isBlank_encode (List.mem_of_mem_getLast? last)

theorem squeeze_encode (data : Bytes) : Text.squeeze (encode data) = encode data := by
  rw [Text.squeeze, List.filter_eq_self]
  intro c member
  simp [isBlank_encode member]

theorem lines_encode (data : Bytes) (rest : List Char) :
    Text.lines (encode data ++ '\n' :: rest) = encode data :: Text.lines rest := by
  apply Text.lines_append
  · intro feed
    have blank := isBlank_encode feed
    simp [Text.isBlank] at blank
  · intro ret
    have blank := isBlank_encode ret
    simp [Text.isBlank] at blank

end Hex

theorem Bytes.ne_nil_of_mem_chunks {size : Nat} {data chunk : Bytes}
    (member : chunk ∈ chunks size data) : chunk ≠ [] := by
  fun_induction chunks size data with
  | case1 => simp at member
  | case2 b rest ih =>
    obtain rfl | member := List.mem_cons.1 member
    · simp
    · exact ih member

namespace Fixture

theorem Line.ofText_encode {chunk : Bytes} (something : chunk ≠ []) :
    Line.ofText (Hex.encode chunk) = .payload (Hex.encode chunk) := by
  obtain ⟨b, rest, rfl⟩ := List.exists_cons_of_ne_nil something
  have small : b.toNat / 16 < 16 := by
    have bound := b.toNat_lt
    omega
  obtain ⟨-, hash, expect, inject⟩ := Hex.digitChar_inert (b.toNat / 16) small
  rw [Line.ofText, Hex.trim_encode]
  simp only [Hex.encode, List.flatMap_cons, Hex.ofByte, List.cons_append]
  split
  · simp_all
  · simp_all
  · simp_all
  · simp_all
  · rfl

def title (index : Nat) (s : Segment) : List Char :=
  marker s.direction ++ (s!" {index + 1} {s.direction.phrase} ({s.length} bytes)").toList

theorem header_eq (index : Nat) (s : Segment) : header index s = title index s ++ ['\n'] := rfl

theorem not_mem_toDigits {c : Char} (other : c.isDigit = false) (n : Nat) :
    c ∉ Nat.toDigits 10 n := by
  intro member
  simp [Nat.isDigit_of_mem_toDigits (by decide) (by decide) member] at other

theorem not_mem_title {c : Char} (other : c.isDigit = false)
    (fixed : ∀ d : Direction, c ∉ marker d ++ " ".toList ++ d.phrase.toList ++ " (".toList ++
      " bytes)".toList) (index : Nat) (s : Segment) : c ∉ title index s := by
  have apart := fixed s.direction
  simp only [List.mem_append, not_or] at apart
  obtain ⟨⟨⟨⟨mark, space⟩, phrase⟩, opening⟩, closing⟩ := apart
  simp only [title, String.toList_append, List.mem_append, not_or, Nat.toString_eq_repr,
    Nat.repr_eq_ofList_toDigits, String.toList_ofList]
  exact ⟨mark, ⟨⟨⟨⟨⟨space, not_mem_toDigits other _⟩, space⟩, phrase⟩, opening⟩,
    not_mem_toDigits other _⟩, closing⟩

theorem lines_header (index : Nat) (s : Segment) (rest : List Char) :
    Text.lines (header index s ++ rest) = title index s :: Text.lines rest := by
  rw [header_eq, List.append_assoc]
  apply Text.lines_append
  · exact not_mem_title (by decide) (by intro d; cases d <;> decide) index s
  · exact not_mem_title (by decide) (by intro d; cases d <;> decide) index s

theorem trim_title (index : Nat) (s : Segment) : Text.trim (title index s) = title index s := by
  apply Text.trim_eq_self
  · intro c first
    rcases s with ⟨_ | _, payload⟩ <;> simp [title, marker] at first <;> subst first <;> decide
  · intro c last
    have close : (toString " bytes)").toList.getLast? = some ')' := by decide
    rw [title, String.toList_append, ← List.append_assoc, List.getLast?_append, close] at last
    obtain rfl : ')' = c := by simpa using last
    decide

theorem Line.ofText_title (index : Nat) (s : Segment) :
    Line.ofText (title index s) = .header s.direction := by
  rw [Line.ofText, trim_title]
  rcases s with ⟨_ | _, payload⟩ <;> rfl

theorem lines_payload (data : Bytes) (rest : List Char) :
    Text.lines (payloadLines data ++ rest) =
      (Bytes.chunks bytesPerLine data).map Hex.encode ++ Text.lines rest := by
  rw [payloadLines]
  induction Bytes.chunks bytesPerLine data with
  | nil => rfl
  | cons chunk chunks ih =>
    simp only [List.flatMap_cons, List.append_assoc, List.map_cons, List.cons_append,
      List.nil_append] at ih ⊢
    rw [Hex.lines_encode, ih]

namespace Draft

theorem addAll_title (d : Draft) (number index : Nat) (s : Segment) (rest : List (List Char)) :
    d.addAll number (title index s :: rest) =
      addAll ⟨d.finish, some ⟨s.direction, []⟩⟩ (number + 1) rest := by
  simp [addAll, Line.ofText_title, add]

theorem addAll_payload (complete : List Segment) (s : Segment) (number : Nat) (chunks : List Bytes)
    (something : ∀ chunk ∈ chunks, chunk ≠ []) (rest : List (List Char)) :
    addAll ⟨complete, some s⟩ number (chunks.map Hex.encode ++ rest) =
      addAll ⟨complete, some ⟨s.direction, s.payload ++ chunks.flatten⟩⟩ (number + chunks.length)
        rest := by
  induction chunks generalizing s number with
  | nil => simp
  | cons chunk chunks ih =>
    have first := Line.ofText_encode (something chunk List.mem_cons_self)
    have others : ∀ chunk ∈ chunks, chunk ≠ [] :=
      fun chunk member => something chunk (List.mem_cons_of_mem _ member)
    simp only [List.map_cons, List.cons_append, addAll, first, add, Hex.squeeze_encode,
      Hex.decode_encode]
    rw [ih _ _ others]
    simp only [List.append_assoc, List.flatten_cons, List.length_cons, Nat.add_assoc,
      Nat.add_comm 1]

theorem addAll_renderFrom (d : Draft) (number index : Nat) (segments : List Segment) :
    ∃ d', d.addAll number (Text.lines (renderFrom index segments)) = .ok d' ∧
      d'.finish = d.finish ++ segments := by
  induction segments generalizing d number index with
  | nil => exact ⟨d, rfl, (List.append_nil _).symm⟩
  | cons s segments ih =>
    rw [renderFrom, List.append_assoc, lines_header, lines_payload, addAll_title,
      addAll_payload _ _ _ _ (fun _ => Bytes.ne_nil_of_mem_chunks), Bytes.flatten_chunks]
    obtain ⟨d', read, finish⟩ := ih ⟨d.finish, some s⟩ _ (index + 1)
    refine ⟨d', read, ?_⟩
    rw [finish]
    simp [Draft.finish]

end Draft

theorem parse_render (t : Transcript) : parse (render t) = .ok t := by
  obtain ⟨d, read, finish⟩ := Draft.addAll_renderFrom ⟨[], none⟩ 1 0 t.segments
  have same : d.finish = t.segments := finish
  rw [parse, render, read, Except.map, same]

end Fixture

end WireScript
