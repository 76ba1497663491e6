import WireScript.Proofs.Rendezvous.Pipe

set_option autoImplicit false

namespace WireScript.Rendezvous

open Wire (Act Sight Task Poll)

namespace Pipe

variable (task : Task) (p : Pipe)

theorem standing_eq_some_iff {data : Bytes} {o : Offer} :
    p.standing data = some o ↔ p.offer = some o ∧ o.data = data := by
  simp [standing, Option.filter_eq_some_iff]

theorem standing_eq_none_iff {data : Bytes} :
    p.standing data = none ↔ ∀ o, p.offer = some o → o.data ≠ data := by
  simp [standing, Option.filter_eq_none_iff]

theorem read_eq_of_available {room : Nat} (space : room ≠ 0) {taken unread : Bytes} {b : UInt8}
    (offered : p.offer = some ⟨taken, b :: unread⟩) :
    p.read task room =
      (.ok ((b :: unread).take room),
        if (b :: unread).drop room = [] then p.writer.toList else [],
        { p with
          offer := some ⟨taken ++ (b :: unread).take room, (b :: unread).drop room⟩
          writer := if (b :: unread).drop room = [] then none else p.writer }) := by
  simp only [read, space, if_false, offered]
  split <;> rfl

theorem write_standing_closed {o : Offer} (offered : p.offer = some o) (left : o.unread ≠ [])
    (there : p.readClosed = false) (closed : p.writeClosed = true) :
    p.write task o.data = (.failed writerClosed, [], p) := by
  rcases o with ⟨taken, _ | ⟨b, unread⟩⟩
  · exact absurd rfl left
  · simp [write, p.standing_own offered, there, closed]

theorem write_cases (data : Bytes) :
    (p.offer = some ⟨data, []⟩ ∧
      p.write task data = (.ok data.length, [], { p with offer := none })) ∨
    (p.offer ≠ some ⟨data, []⟩ ∧ (p.readClosed = true ∨ p.writeClosed = true) ∧
      ∃ e, p.write task data = (.failed e, [], { p with offer := p.standing data })) ∨
    (p.readClosed = false ∧ p.writeClosed = false ∧
      ((∃ o, p.offer = some o ∧ o.data = data ∧ o.unread ≠ [] ∧
          p.write task data = (.pending, [], { p with writer := some task })) ∨
        (p.standing data = none ∧ data = [] ∧
          p.write task data = (.ok 0, [], { p with offer := none })) ∨
        (p.standing data = none ∧ data ≠ [] ∧
          p.write task data = (.pending, p.reader.toList,
            { p with offer := some ⟨[], data⟩, reader := none, writer := some task })))) := by
  by_cases whole : p.offer = some ⟨data, []⟩
  · exact .inl ⟨whole, write_taken task p whole⟩
  refine .inr ?_
  cases standing : p.standing data with
  | none =>
    -- No offer of these bytes: another one is withdrawn, whatever becomes of the write.
    rcases Bool.eq_false_or_eq_true p.readClosed with gone | there
    · exact .inl ⟨whole, .inl gone, readerGone, by simp [write, standing, gone]⟩
    rcases Bool.eq_false_or_eq_true p.writeClosed with closed | opened
    · exact .inl ⟨whole, .inr closed, writerClosed, by simp [write, standing, there, closed]⟩
    refine .inr ⟨there, opened, .inr ?_⟩
    by_cases content : data = []
    · subst content
      exact .inl ⟨rfl, rfl, by simp [write, standing, there, opened]⟩
    · exact .inr ⟨rfl, content, by simp [write, standing, there, opened, content, wakeReader]⟩
  | some o =>
    obtain ⟨offered, rfl⟩ := p.standing_eq_some_iff.1 standing
    have left : o.unread ≠ [] := by
      intro nothing
      apply whole
      rw [offered]
      cases o
      simp_all [Offer.data]
    rcases Bool.eq_false_or_eq_true p.readClosed with gone | there
    · refine .inl ⟨whole, .inl gone, readerGone, ?_⟩
      rw [write_standing_gone task p offered left gone, ← offered]
    rcases Bool.eq_false_or_eq_true p.writeClosed with closed | opened
    · refine .inl ⟨whole, .inr closed, writerClosed, ?_⟩
      rw [write_standing_closed task p offered left there closed, ← offered]
    · exact .inr ⟨there, opened,
        .inl ⟨o, offered, rfl, left, write_standing task p offered left there opened⟩⟩

theorem afterReader_free {p : Pipe} (free : p.offer = none) (act : Act) :
    (p.afterReader task act).offer = none := by
  simpa [free] using offer_afterReader (p := p) task act

theorem afterReader_offered {p : Pipe} {o : Offer} (offered : p.offer = some o) (act : Act)
    (r : Pipe) :
    ∃ o', (p.afterReader task act).offer = some o' ∧ o'.data = o.data ∧
      o'.taken = o.taken ++ act.received (sight task act r p) := by
  -- A read moves bytes within the offer, and is told of those that it moves.
  have data := offer_afterReader (p := p) task act
  have ahead := ahead_afterReader task act r p
  rw [offered, Option.map_some] at data
  obtain ⟨o', offered', same⟩ := Option.map_eq_some_iff.1 data
  exact ⟨o', offered', same, by simpa [Pipe.ahead, offered, offered'] using ahead⟩

end Pipe

@[simp] theorem Side.other_other (s : Side) : s.other.other = s := by cases s <;> rfl

theorem Side.ne_other (s : Side) : s ≠ s.other := by cases s <;> decide

theorem Side.eq_other_of_ne {s t : Side} (differ : s ≠ t) : t = s.other := by
  cases s <;> cases t <;> simp_all [other]

namespace Link

section Step

variable {l : Link} {m : Move}

theorem perform_gone (gone : l.isDropped m.side = true) :
    l.perform m = (.gone, [], l) := by
  simp [perform, gone]

theorem sight_perform (there : l.isDropped m.side = false) :
    (l.perform m).1 = sight m.task m.act (l.outbound m.side) (l.inbound m.side) := by
  simp [perform, there, Rendezvous.perform_sight]

theorem outbound_perform (there : l.isDropped m.side = false) (side : Side) :
    (l.perform m).2.2.outbound side =
      if m.side = side then (l.outbound side).afterWriter m.task m.act
      else (l.outbound side).afterReader m.task m.act := by
  have own := Rendezvous.outbound_perform m.task m.act m.side l
  have across := Rendezvous.inbound_perform m.task m.act m.side l
  have same : (l.perform m).2.2.outbound side =
      (m.act.perform m.task (⟨l⟩ : Terminal m.side)).2.link.outbound side := by
    simp only [perform, there, Bool.false_eq_true, if_false]
    cases side <;> rfl
  rw [same]
  by_cases mine : m.side = side
  · subst mine
    rw [if_pos rfl, own]
  · obtain rfl := Side.eq_other_of_ne mine
    rw [if_neg mine]
    exact across

end Step

variable (l : Link) (m : Move)

theorem isDropped_perform (side : Side) :
    (l.perform m).2.2.isDropped side =
      (l.isDropped side || (m.side = side ∧ m.act = .release)) := by
  rcases Bool.eq_false_or_eq_true (l.isDropped m.side) with gone | there
  · rw [perform_gone gone]
    by_cases own : m.side = side
    · subst own
      simp [gone]
    · simp [own]
  · simp only [isDropped, inbound, outbound_perform there]
    by_cases own : m.side = side
    · subst own
      simp [Side.ne_other]
    · obtain rfl := Side.eq_other_of_ne own
      simp [own]

def after (moves : List Move) : Link := (l.performAll moves).2

@[simp] theorem after_nil : l.after [] = l := rfl

@[simp] theorem after_cons (moves : List Move) :
    l.after (m :: moves) = (l.perform m).2.2.after moves := rfl

theorem after_append (moves more : List Move) :
    l.after (moves ++ more) = (l.after moves).after more := by
  induction moves generalizing l with
  | nil => rfl
  | cons m moves ih => exact ih (l.perform m).2.2

theorem after_take_succ {moves : List Move} {i : Nat} (within : i < moves.length) :
    l.after (moves.take (i + 1)) = ((l.after (moves.take i)).perform moves[i]).2.2 := by
  rw [List.take_succ_eq_append_getElem within, after_append]
  rfl

theorem isDropped_after {side : Side} {moves : List Move}
    (stays : ∀ m ∈ moves, m.side = side → m.act ≠ .release) :
    (l.after moves).isDropped side = l.isDropped side := by
  induction moves generalizing l with
  | nil => rfl
  | cons m moves ih =>
    have still : ¬ (m.side = side ∧ m.act = .release) := by
      rintro ⟨own, release⟩
      exact stays m List.mem_cons_self own release
    have rest : ∀ m ∈ moves, m.side = side → m.act ≠ .release :=
      fun m member => stays m (List.mem_cons_of_mem _ member)
    rw [after_cons, ih _ rest, isDropped_perform]
    simp [still]

end Link

end WireScript.Rendezvous
