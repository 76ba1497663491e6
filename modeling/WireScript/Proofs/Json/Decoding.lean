import WireScript.Proofs.Json.Reading

set_option autoImplicit false

namespace WireScript.Json

namespace Reader

def Decodes {α : Type} (r : Reader α) (d : Document) (value : α) : Prop :=
  ∀ ⦃layout : Layout⦄ ⦃level : Nat⦄ ⦃blanks rest : List Char⦄, Blank blanks → Delimited rest →
    Takes r (blanks ++ (d.written layout level ++ rest)) value rest

variable {α β : Type} {r : Reader α} {d : Document} {value : α}

theorem Decodes.takes (decodes : Decodes r d value) (layout : Layout) (level : Nat)
    {rest : List Char} (delimited : Delimited rest) :
    Takes r (d.written layout level ++ rest) value rest := decodes blank_nil delimited

theorem Decodes.run (decodes : Decodes r d value) (layout : Layout) (level : Nat)
    {blanks : List Char} (blank : Blank blanks) :
    Reader.run r (d.written layout level ++ blanks) = .ok value := by
  have delimited : Delimited (blanks ++ []) := blank.delimited_append delimited_nil
  have ends : (blanks ++ []).dropWhile isSpace = [] := List.dropWhile_append_of_pos blank
  rw [List.append_nil] at delimited ends
  have takes : r (d.written layout level ++ blanks) = .ok (value, blanks) :=
    decodes.takes layout level delimited
  rw [Reader.run, takes]
  simp [bind, Except.bind, ends]

theorem Decodes.run_compact (decodes : Decodes r d value) : Reader.run r d.compact = .ok value := by
  have whole := decodes.run .compact 0 blank_nil
  rwa [List.append_nil, ← d.compact_eq] at whole

theorem Decodes.bind_pure (decodes : Decodes r d value) (f : α → β) :
    Decodes (do let v ← r; pure (f v)) d (f value) :=
  fun _ _ _ _ blank delimited => (decodes blank delimited).bind (takes_pure _ _)

theorem literal_append (text : String) (rest : List Char) :
    literal text ++ rest = '"' :: (text.toList.flatMap escape ++ '"' :: rest) := by
  simp [literal]

theorem decodes_text {accept : String → Except Refusal α} {text : String}
    (accepts : accept text = .ok value) (wanted : String) :
    Decodes (Reader.text wanted accept) (.text text) value := by
  intro layout level blanks rest blank _
  rw [Document.written, literal_append]
  refine (takes_peek blank rfl).bind ((takes_drop _ _).bind ((takes_string text rest).bind ?_))
  rw [accepts]
  exact takes_pure value rest

theorem decodes_variant {known : List (String × α)} {name : String}
    (knows : known.lookup name = some value) : Decodes (variant known) (.text name) value := by
  intro layout level blanks rest blank _
  rw [Document.written, literal_append]
  refine (takes_peek blank rfl).bind ((takes_peek blank_nil rfl).bind
    ((takes_drop _ _).bind ((takes_string name rest).bind ?_)))
  simp only [knows]
  exact takes_pure value rest

theorem decodes_bool (flag : Bool) (wanted : String) : Decodes (bool wanted) (.bool flag) flag := by
  intro layout level blanks rest blank _
  cases flag
  · exact (takes_peek blank rfl).bind ((takes_spell ['f', 'a', 'l', 's', 'e'] rest).bind
      (takes_pure false rest))
  · exact (takes_peek blank rfl).bind ((takes_spell ['t', 'r', 'u', 'e'] rest).bind
      (takes_pure true rest))

theorem decodes_natural {n bound : Nat} (fits : n ≤ bound) (word : n ≤ wordMax) (wanted : String) :
    Decodes (natural bound wanted) (.number n) n := by
  intro layout level blanks rest blank delimited
  obtain ⟨c, tail, shape, solid, -⟩ := (Document.number n).written_eq_cons layout level
  have number := takes_magnitude word delimited
  rw [Document.written] at shape ⊢
  have digit : c.isDigit = true :=
    Nat.isDigit_of_mem_toDigits (by decide) (by decide) (shape ▸ List.mem_cons_self)
  rw [shape] at number ⊢
  refine (takes_peek blank solid).bind ?_
  split
  · simp_all
  · rename_i minus
    obtain rfl := Option.some.inj minus
    simp at digit
  · rename_i first _ same
    obtain rfl := Option.some.inj same
    have accepts : Text.isDigit c = true := by
      simp [Text.isDigit, digitValue?_of_isDigit digit]
    rw [if_pos accepts]
    refine number.bind ?_
    have inside : (0 : Int) ≤ n ∧ (n : Int) ≤ bound := by omega
    simp only [inside, and_self, if_true]
    exact takes_pure n rest

theorem decodes_null (r : Reader α) : Decodes (option r) .null none := by
  intro layout level blanks rest blank _
  exact (takes_peek blank rfl).bind ((takes_spell ['n', 'u', 'l', 'l'] rest).bind
    (takes_pure none rest))

theorem Decodes.option (decodes : Decodes r d value) (present : d ≠ .null) :
    Decodes (option r) d (some value) := by
  intro layout level blanks rest blank delimited
  obtain ⟨c, tail, shape, solid, -, other⟩ := d.written_eq_cons layout level
  have inner := decodes.takes layout level delimited
  rw [shape] at inner ⊢
  refine (takes_peek blank solid).bind ?_
  -- Only null starts with the letter that the reader looks for.
  split
  · rename_i null
    exact absurd (Option.some.inj null) (other present)
  · exact inner.map some

section

variable {element : Reader α} {document : α → Document} {values : List α}
  {layout : Layout} {level : Nat} {blanks rest : List Char}

theorem takes_hasElement (layout : Layout) (level : Nat) (first : Bool) (d : Document)
    (rest : List Char) :
    Takes (hasElement first)
      (Layout.comma first ++ (layout.gap level ++ (d.written layout level ++ rest))) true
      (d.written layout level ++ rest) := by
  obtain ⟨c, tail, shape, solid, goes, -⟩ := d.written_eq_cons layout level
  rw [shape]
  cases first with
  | true =>
    refine (takes_peek (layout.blank_gap level) solid).bind ?_
    split
    · rename_i none
      simp at none
    · rename_i ends
      exact absurd (Option.some.inj ends) goes
    · exact takes_pure true _
  | false =>
    refine (takes_peek blank_nil rfl).bind ((takes_drop _ _).bind
      ((takes_peek (layout.blank_gap level) solid).bind ?_))
    split
    · rename_i none
      simp at none
    · rename_i ends
      exact absurd (Option.some.inj ends) goes
    · exact takes_pure true _

theorem takes_hasElement_end (blank : Blank blanks) (first : Bool) :
    Takes (hasElement first) (blanks ++ ']' :: rest) false (']' :: rest) :=
  (takes_peek blank rfl).bind (takes_pure _ _)

theorem takes_elements (decodes : ∀ v ∈ values, Decodes element (document v) v)
    (blank : Blank blanks) (first : Bool) (limit : Nat) (enough : values.length < limit) :
    Takes (elements element limit first)
      (Document.writtenElements layout level first (values.map document) ++ (blanks ++ ']' :: rest))
      values (']' :: rest) := by
  induction values generalizing first limit with
  | nil =>
    obtain ⟨limit, rfl⟩ := Nat.exists_eq_add_of_lt enough
    exact (takes_hasElement_end blank first).bind (takes_pure _ _)
  | cons v values ih =>
    obtain ⟨limit, rfl⟩ := Nat.exists_eq_add_of_lt enough
    obtain ⟨here, others⟩ := List.forall_mem_cons.1 decodes
    let more := Document.writtenElements layout level false (values.map document) ++
      (blanks ++ ']' :: rest)
    have follows : Delimited more :=
      delimited_elements _ _ _ (blank.delimited_append (delimited_cons _ (by decide)))
    have fewer : values.length < (v :: values).length + limit := by
      rw [List.length_cons]
      omega
    have next := ih others false _ fewer
    rw [List.map_cons, Document.writtenElements]
    simp only [List.append_assoc]
    -- What follows the element cannot be taken for more of it.
    refine (takes_hasElement layout level first _ more).bind ?_
    exact (here.takes layout level follows).bind (next.bind (takes_pure _ _))

theorem length_le_writtenElements (layout : Layout) (level : Nat) (first : Bool)
    (elements : List Document) :
    elements.length ≤ (Document.writtenElements layout level first elements).length := by
  induction elements generalizing first with
  | nil => exact Nat.zero_le _
  | cons d elements ih =>
    obtain ⟨c, tail, shape, -⟩ := d.written_eq_cons layout level
    have := ih false
    simp only [Document.writtenElements, shape, List.length_append, List.length_cons]
    omega

theorem decodes_list (decodes : ∀ v ∈ values, Decodes element (document v) v) (wanted : String) :
    Decodes (list element wanted) (.list (values.map document)) values := by
  intro layout level blanks rest blank _
  have enough := length_le_writtenElements layout (level + 1) true (values.map document)
  rw [List.length_map] at enough
  simp only [Document.written, List.cons_append, List.append_assoc, List.nil_append]
  refine (takes_peek blank rfl).bind ((takes_drop _ _).bind ((takes_get _).bind ?_))
  refine (takes_elements decodes (layout.blank_close level _) true _ ?_).bind ?_
  · rw [List.length_append]
    omega
  · exact (takes_peek blank_nil rfl).bind (takes_drop _ _) |>.bind (takes_pure _ _)

end

theorem takes_nextKey (layout : Layout) (level : Nat) (first : Bool) (name : String)
    (rest : List Char) :
    Takes (nextKey first) (Layout.comma first ++ (layout.gap level ++ (literal name ++ rest)))
      (some name) rest := by
  rw [literal_append]
  cases first with
  | true =>
    exact (takes_peek (layout.blank_gap level) rfl).bind
      ((takes_drop _ _).bind ((takes_string name rest).map some))
  | false =>
    exact (takes_peek blank_nil rfl).bind ((takes_drop _ _).bind
      ((takes_peek (layout.blank_gap level) rfl).bind
        ((takes_drop _ _).bind ((takes_string name rest).map some))))

theorem takes_nextKey_end {blanks : List Char} (blank : Blank blanks) (first : Bool)
    (rest : List Char) :
    Takes (nextKey first) (blanks ++ '\x7d' :: rest) none ('\x7d' :: rest) :=
  (takes_peek blank rfl).bind (takes_pure _ _)

theorem takes_colon (rest : List Char) : Takes colon (':' :: rest) () rest :=
  (takes_peek blank_nil rfl).bind (takes_drop _ _)

end Reader

namespace Record

open Reader (Decodes Takes)

variable {δ α : Type} {r : Record δ α} {draft final : δ} {members : List (String × Document)}

inductive Fills (r : Record δ α) : δ → List (String × Document) → δ → Prop
  | nil (draft : δ) : Fills r draft [] draft
  | cons {draft final : δ} {name : String} {d : Document} {members : List (String × Document)}
    {field : Field δ} {put : δ → δ} :
    r.fields.find? (fun f => f.name == name) = some field → field.isSet draft = false →
      Decodes field.read d put → Fills r (put draft) members final →
      Fills r draft ((name, d) :: members) final

theorem Fills.takes (fills : Fills r draft members final) (layout : Layout) (level : Nat)
    {blanks : List Char} (blank : Blank blanks) (rest : List Char) (first : Bool) (limit : Nat)
    (enough : members.length < limit) :
    Takes (r.members limit first draft)
      (Document.writtenMembers layout level first members ++ (blanks ++ '\x7d' :: rest)) final
      ('\x7d' :: rest) := by
  induction fills generalizing first limit with
  | nil draft =>
    obtain ⟨limit, rfl⟩ := Nat.exists_eq_add_of_lt enough
    exact (Reader.takes_nextKey_end blank first rest).bind (Reader.takes_pure _ _)
  | @cons draft final name d members field put named free decodes _ ih =>
    obtain ⟨limit, rfl⟩ := Nat.exists_eq_add_of_lt enough
    let more := Document.writtenMembers layout level false members ++ (blanks ++ '\x7d' :: rest)
    have follows : Delimited more :=
      delimited_members _ _ _ (blank.delimited_append (delimited_cons _ (by decide)))
    have fewer : members.length < ((name, d) :: members).length + limit := by
      rw [List.length_cons]
      omega
    have next := ih false _ fewer
    rw [Document.writtenMembers]
    simp only [List.append_assoc, List.cons_append]
    refine (Reader.takes_nextKey layout level first name _).bind ?_
    simp only [named, free]
    exact (Reader.takes_colon _).bind ((decodes layout.blank_space follows).bind next)

theorem length_le_writtenMembers (layout : Layout) (level : Nat) (first : Bool)
    (members : List (String × Document)) :
    members.length ≤ (Document.writtenMembers layout level first members).length := by
  induction members generalizing first with
  | nil => exact Nat.zero_le _
  | cons member members ih =>
    have := ih false
    simp only [Document.writtenMembers, List.length_append, List.length_cons]
    omega

theorem Fills.decodes {value : α} (fills : Fills r r.blank members final)
    (builds : r.build final = .ok value) : Decodes r.read (.object members) value := by
  intro layout level blanks rest blank _
  have enough := length_le_writtenMembers layout (level + 1) true members
  simp only [Document.written, List.cons_append, List.append_assoc, List.nil_append]
  refine (Reader.takes_peek blank rfl).bind ((Reader.takes_drop _ _).bind
    ((Reader.takes_get _).bind ?_))
  refine (fills.takes layout (level + 1) (layout.blank_close level _) rest true _ ?_).bind ?_
  · rw [List.length_append]
    omega
  · have finished : Takes (r.finish final) ('\x7d' :: rest) value ('\x7d' :: rest) := by
      rw [finish, builds]
      exact Reader.takes_pure value _
    exact finished.bind ((Reader.takes_drop _ _).bind (Reader.takes_pure _ _))

end Record

end WireScript.Json
