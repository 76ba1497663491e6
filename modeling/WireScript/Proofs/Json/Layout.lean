import WireScript.Json.Document
import WireScript.Json.Numeral

set_option autoImplicit false

namespace WireScript.Json

def Blank (text : List Char) : Prop := ∀ c ∈ text, Reader.isSpace c = true

theorem blank_nil : Blank [] := by simp [Blank]

structure Layout where
  gap : (level : Nat) → List Char
  space : List Char
  blank_gap : ∀ level, Blank (gap level)
  blank_space : Blank space

namespace Layout

def compact : Layout where
  gap _ := []
  space := []
  blank_gap _ := blank_nil
  blank_space := blank_nil

def spread : Layout where
  gap := Document.newline
  space := [' ']
  blank_gap level := by
    intro c mem
    simp only [Document.newline, List.mem_cons, List.mem_replicate] at mem
    obtain rfl | ⟨-, rfl⟩ := mem <;> rfl
  blank_space := by simp [Blank, Reader.isSpace]

@[simp] theorem gap_compact (level : Nat) : compact.gap level = [] := rfl

@[simp] theorem space_compact : compact.space = [] := rfl

@[simp] theorem gap_spread (level : Nat) : spread.gap level = Document.newline level := rfl

@[simp] theorem space_spread : spread.space = [' '] := rfl

def comma (first : Bool) : List Char := if first then [] else [',']

@[simp] theorem comma_true : comma true = [] := rfl

@[simp] theorem comma_false : comma false = [','] := rfl

def close (layout : Layout) (level : Nat) (empty : Bool) : List Char :=
  if empty then [] else layout.gap level

@[simp] theorem close_true (layout : Layout) (level : Nat) : layout.close level true = [] := rfl

@[simp] theorem close_false (layout : Layout) (level : Nat) :
    layout.close level false = layout.gap level := rfl

theorem blank_close (layout : Layout) (level : Nat) (empty : Bool) :
    Blank (layout.close level empty) := by
  cases empty
  · exact layout.blank_gap level
  · exact blank_nil

end Layout

namespace Document

mutual

def written (layout : Layout) (level : Nat) : Document → List Char
  | .null => ['n', 'u', 'l', 'l']
  | .bool true => ['t', 'r', 'u', 'e']
  | .bool false => ['f', 'a', 'l', 's', 'e']
  | .number value => Nat.toDigits 10 value
  | .text value => literal value
  | .list elements =>
    '[' :: writtenElements layout (level + 1) true elements ++
      layout.close level elements.isEmpty ++ [']']
  | .object members =>
    '\x7b' :: writtenMembers layout (level + 1) true members ++
      layout.close level members.isEmpty ++ ['\x7d']

def writtenElements (layout : Layout) (level : Nat) (first : Bool) : List Document → List Char
  | [] => []
  | d :: rest =>
    Layout.comma first ++ layout.gap level ++ d.written layout level ++
      writtenElements layout level false rest

def writtenMembers (layout : Layout) (level : Nat) (first : Bool) :
    List (String × Document) → List Char
  | [] => []
  | (name, d) :: rest =>
    Layout.comma first ++ layout.gap level ++ literal name ++ ':' :: layout.space ++
      d.written layout level ++ writtenMembers layout level false rest

end

mutual

theorem compact_eq (level : Nat) : ∀ d : Document, d.compact = d.written .compact level
  | .null | .bool true | .bool false | .number _ | .text _ => rfl
  | .list elements => by
    simp [compact, written, compactElements_eq (level + 1) elements, Layout.close]
  | .object members => by
    simp [compact, written, compactMembers_eq (level + 1) members, Layout.close]

theorem compactElements_eq (level : Nat) :
    ∀ elements, compactElements elements = writtenElements .compact level true elements
  | [] => rfl
  | [d] => by simp [compactElements, writtenElements, compact_eq level d]
  | d :: e :: rest => by
    -- The comma is the end of this element for the writer, and the start of the next one here.
    have more := compactElements_eq level (e :: rest)
    simp [compactElements, more, writtenElements, compact_eq level d]

theorem compactMembers_eq (level : Nat) :
    ∀ members, compactMembers members = writtenMembers .compact level true members
  | [] => rfl
  | [(name, d)] => by
    simp [compactMembers, writtenMembers, compact_eq level d]
  | (name, d) :: m :: rest => by
    have more := compactMembers_eq level (m :: rest)
    simp [compactMembers, more, writtenMembers, compact_eq level d]

end

mutual

theorem flatten_pieces (level : Nat) :
    ∀ d : Document, (d.pieces level).flatten = d.written .spread level
  | .null | .bool true | .bool false | .number _ | .text _ => by simp [pieces, written]
  | .list [] | .object [] => by simp [pieces, written, writtenElements, writtenMembers]
  | .list (d :: rest) => by
    simp [pieces, written, flatten_elementPieces (level + 1) (d :: rest)]
  | .object (m :: rest) => by
    simp [pieces, written, flatten_memberPieces (level + 1) (m :: rest)]

theorem flatten_elementPieces (level : Nat) :
    ∀ elements, (elementPieces level elements).flatten = writtenElements .spread level true elements
  | [] => rfl
  | [d] => by
    simp [elementPieces, writtenElements, flatten_pieces level d]
  | d :: e :: rest => by
    have more := flatten_elementPieces level (e :: rest)
    simp [elementPieces, more, writtenElements, flatten_pieces level d]

theorem flatten_memberPieces (level : Nat) :
    ∀ members, (memberPieces level members).flatten = writtenMembers .spread level true members
  | [] => rfl
  | [(name, d)] => by
    simp [memberPieces, writtenMembers, flatten_pieces level d]
  | (name, d) :: m :: rest => by
    have more := flatten_memberPieces level (m :: rest)
    simp [memberPieces, more, writtenMembers, flatten_pieces level d]

end

theorem spread_eq (d : Document) : d.spread = d.written .spread 0 := flatten_pieces 0 d

theorem written_eq_cons (layout : Layout) (level : Nat) (d : Document) :
    ∃ c tail, d.written layout level = c :: tail ∧ Reader.isSpace c = false ∧ c ≠ ']' ∧
      (d ≠ .null → c ≠ 'n') := by
  cases d with
  | null => exact ⟨_, _, rfl, rfl, by decide, fun other => absurd rfl other⟩
  | bool value => cases value <;> exact ⟨_, _, rfl, rfl, by decide, fun _ => by decide⟩
  | number value =>
    rcases digits : Nat.toDigits 10 value with _ | ⟨c, tail⟩
    · exact absurd digits Nat.toDigits_ne_nil
    · have digit : c.isDigit = true :=
        Nat.isDigit_of_mem_toDigits (by decide) (by decide) (digits ▸ List.mem_cons_self)
      have differs (d : Char) (other : d.isDigit = false) : c ≠ d := by
        rintro rfl
        exact absurd digit (by simp [other])
      refine ⟨c, tail, by rw [written, digits], ?_, differs ']' rfl, fun _ => differs 'n' rfl⟩
      simp [Reader.isSpace, differs ' ' rfl, differs '\n' rfl, differs '\t' rfl, differs '\r' rfl]
  | text value => exact ⟨_, _, rfl, rfl, by decide, fun _ => by decide⟩
  | list elements => exact ⟨_, _, rfl, rfl, by decide, fun _ => by decide⟩
  | object members => exact ⟨_, _, rfl, rfl, by decide, fun _ => by decide⟩

end Document

def Delimited (rest : List Char) : Prop :=
  ∀ c ∈ rest.head?, Text.isDigit c = false ∧ c ≠ '.' ∧ c ≠ 'e' ∧ c ≠ 'E'

theorem delimited_nil : Delimited [] := by simp [Delimited]

theorem Blank.delimited_append {blanks rest : List Char} (blank : Blank blanks)
    (delimited : Delimited rest) : Delimited (blanks ++ rest) := by
  rcases blanks with _ | ⟨b, blanks⟩
  · exact delimited
  · have space : Reader.isSpace b = true := blank b List.mem_cons_self
    intro c head
    obtain rfl : b = c := by simpa using head
    simp only [Reader.isSpace, Bool.or_eq_true, beq_iff_eq, or_assoc] at space
    obtain rfl | rfl | rfl | rfl := space <;> decide

theorem delimited_cons {c : Char} (rest : List Char)
    (fits : Text.isDigit c = false ∧ c ≠ '.' ∧ c ≠ 'e' ∧ c ≠ 'E') : Delimited (c :: rest) := by
  simpa [Delimited] using fits

theorem delimited_elements (layout : Layout) (level : Nat) (elements : List Document)
    {rest : List Char} (delimited : Delimited rest) :
    Delimited (Document.writtenElements layout level false elements ++ rest) := by
  cases elements with
  | nil => exact delimited
  | cons d more => exact delimited_cons _ (by decide)

theorem delimited_members (layout : Layout) (level : Nat) (members : List (String × Document))
    {rest : List Char} (delimited : Delimited rest) :
    Delimited (Document.writtenMembers layout level false members ++ rest) := by
  cases members with
  | nil => exact delimited
  | cons member more => exact delimited_cons _ (by decide)

end WireScript.Json
