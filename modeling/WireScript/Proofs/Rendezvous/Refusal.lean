import WireScript.Proofs.Rendezvous.Teardown

set_option autoImplicit false

namespace WireScript.Rendezvous

open Wire (Act Sight Task Poll Failure)

namespace Pipe

variable (task : Task) {p : Pipe}

def owed (p : Pipe) : List Bytes := p.offer.toList.map Offer.data

theorem owed_of_free (free : p.offer = none) : p.owed = [] := by
  simp [owed, free]

theorem owed_afterReader (act : Act) : (p.afterReader task act).owed = p.owed := by
  have same := offer_afterReader (p := p) task act
  simp only [owed, ← Option.toList_map, same]

theorem of_write_failed {data : Bytes} {e : Failure} {q : Pipe}
    (failed : sight task (.write data) p q = .failed e) :
    (p.readClosed = true ∨ p.writeClosed = true) ∧ p.offer ≠ some ⟨data, []⟩ ∧
      (p.afterWriter task (.write data)).offer = p.standing data := by
  obtain ⟨-, write⟩ | ⟨short, shut, e', write⟩ | ⟨-, -, ⟨-, -, -, -, write⟩ | ⟨-, -, write⟩ |
      ⟨-, -, write⟩⟩ := p.write_cases task data
  · simp [sight, write, Sight.ofPoll, Poll.ok] at failed
  · exact ⟨shut, short, by simp [afterWriter, write]⟩
  all_goals simp [sight, write, Sight.ofPoll, Poll.ok] at failed

theorem closed_afterWriter (closed : p.writeClosed = true) (act : Act) (q : Pipe) :
    (act.answered (sight task act p q) = p.owed ∧ p.available = [] ∧
      (p.afterWriter task act).offer = none) ∨
    (act.answered (sight task act p q) = [] ∧
      ((p.afterWriter task act).offer = none ∨ (p.afterWriter task act).offer = p.offer)) := by
  cases act with
  | write data =>
    obtain ⟨offered, write⟩ | ⟨-, -, e, write⟩ | ⟨-, opened, -⟩ := p.write_cases task data
    · refine .inl ⟨?_, by simp [available, offered], by simp [afterWriter, write]⟩
      simp [sight, write, Sight.ofPoll, Poll.ok, Act.answered, owed, offered, Offer.data]
    · refine .inr ⟨by simp [sight, write, Sight.ofPoll, Poll.failed, Act.answered], ?_⟩
      cases standing : p.standing data with
      | none => exact .inl (by simp [afterWriter, write, standing])
      | some o =>
        have offered := (p.standing_eq_some_iff.1 standing).1
        exact .inr (by simp [afterWriter, write, standing, offered])
    · simp [opened] at closed
  | _ => exact .inr ⟨rfl, .inr rfl⟩

end Pipe

namespace Link

section Run

variable {l : Link} {reader : Side}

theorem received_of_dropped (gone : l.isDropped reader = true) (moves : List Move) :
    l.received reader moves = [] := by
  have step (l : Link) (m : Move) (gone : l.isDropped reader = true) :
      (l.perform m).2.2.isDropped reader = true ∧
        (if m.side = reader then m.act.received (l.perform m).1 else []) ++ [] <+: [] := by
    refine ⟨by simp [isDropped_perform, gone], ?_⟩
    by_cases own : m.side = reader
    · simp [own, perform_gone (own ▸ gone)]
    · simp [own]
  simpa using (gather_after (fun l => l.isDropped reader = true) (fun _ => []) step gone moves).2

theorem settled_after_closing (closed : (l.inbound reader).writeClosed = true)
    (moves : List Move) :
    l.received reader moves <+: (l.inbound reader).available ∧
      (l.answered reader.other moves = [] ∨
        l.answered reader.other moves = (l.inbound reader).owed ∧
          l.received reader moves = (l.inbound reader).available) := by
  -- A closed pipe stays closed, so that no move puts a new offer in the place of this one.
  induction moves generalizing l with
  | nil => exact ⟨List.nil_prefix, .inl rfl⟩
  | cons m moves ih =>
    have later := ih (l.writeClosed_perform m reader closed)
    simp only [received, answered, gather]
    obtain ⟨-, same⟩ | ⟨own, -, shown, pipe⟩ | ⟨own, -, shown, pipe⟩ := l.perform_cases m reader
    · simpa [same] using later
    · rw [own, if_neg (Side.ne_other reader).symm, if_pos rfl, shown, List.nil_append]
      rw [pipe] at later
      have finished (free : ((l.inbound reader).afterWriter m.task m.act).offer = none) :
          (l.perform m).2.2.gather Act.received reader moves = [] ∧
            (l.perform m).2.2.gather Act.answered reader.other moves = [] := by
        rw [Pipe.available_of_free free, Pipe.owed_of_free free, List.prefix_nil] at later
        exact ⟨later.1, later.2.elim id And.left⟩
      obtain ⟨answers, nothing, free⟩ | ⟨silent, free | kept⟩ :=
        Pipe.closed_afterWriter m.task closed m.act (l.outbound reader)
      · simp [finished free, answers, nothing]
      · simp [finished free, silent]
      · simpa [silent, Pipe.available, Pipe.owed, kept] using later
    · have front := Pipe.available_afterReader m.task m.act (l.outbound reader) (l.inbound reader)
      rw [pipe, Pipe.owed_afterReader] at later
      rw [own, if_pos rfl, if_neg (Side.ne_other reader), shown, front, List.nil_append]
      exact ⟨(List.prefix_append_right_inj _).2 later.1,
        later.2.imp id (And.imp_right (congrArg _))⟩

structure Leaves (l : Link) (reader : Side) (data : Bytes) (next : Link) : Prop where
  shut : l.isDropped reader = true ∨ (next.inbound reader).writeClosed = true
  gone : next.isDropped reader = l.isDropped reader
  short : (l.inbound reader).offer ≠ some ⟨data, []⟩
  offer : (next.inbound reader).offer = (l.inbound reader).standing data

theorem leaves_of_failed {data : Bytes} {task : Task} {e : Failure}
    (failed : (l.perform ⟨reader.other, .write data, task⟩).1 = .failed e) :
    l.Leaves reader data (l.perform ⟨reader.other, .write data, task⟩).2.2 := by
  obtain ⟨-, same⟩ | ⟨-, -, shown, pipe⟩ | ⟨own, -⟩ :=
    l.perform_cases ⟨reader.other, .write data, task⟩ reader
  · simp [same] at failed
  · obtain ⟨shut, short, offer⟩ := Pipe.of_write_failed task (shown.symm.trans failed)
    exact {
      shut := shut.imp id (fun closed => by simp [pipe, closed])
      gone := by simp [isDropped_perform]
      short := short
      offer := pipe ▸ offer }
  · exact absurd own.symm (Side.ne_other reader)

variable {next : Link} {data : Bytes}

theorem Leaves.over_of_dropped (leaves : l.Leaves reader data next)
    (gone : l.isDropped reader = true) (later : List Move) :
    next.received reader later = [] ∧ next.answered reader.other later = [] := by
  have gone' : next.isDropped reader = true := leaves.gone.trans gone
  -- Due would be a write that was read as a whole, and such a write does not fail.
  have nothing : (next.inbound reader).due = [] := by
    apply List.eq_nil_iff_forall_not_mem.2
    intro other due
    rw [Pipe.mem_due, leaves.offer, Pipe.standing_eq_some_iff] at due
    obtain ⟨offered, same⟩ := due
    obtain rfl : other = data := by simpa [Offer.data] using same
    exact leaves.short offered
  have answers := (answered_after_release gone' later).2
  rw [nothing, List.prefix_nil, List.append_eq_nil_iff] at answers
  exact ⟨received_of_dropped gone' later, answers.1⟩

def remainder (l : Link) (reader : Side) (data : Bytes) : Bytes :=
  (((l.inbound reader).standing data).map Offer.unread).getD []

theorem Leaves.available (leaves : l.Leaves reader data next) :
    (next.inbound reader).available = l.remainder reader data := by
  rw [Pipe.available, leaves.offer, remainder]
  cases (l.inbound reader).standing data <;> rfl

theorem Leaves.remainder_ne_nil (leaves : l.Leaves reader data next)
    (standing : (l.inbound reader).standing data ≠ none) : l.remainder reader data ≠ [] := by
  obtain ⟨o, own⟩ := Option.ne_none_iff_exists'.1 standing
  obtain ⟨offered, rfl⟩ := (Pipe.standing_eq_some_iff _).1 own
  intro nothing
  apply leaves.short
  rw [offered]
  cases o
  simp_all [remainder, Offer.data]

theorem Leaves.settled (leaves : l.Leaves reader data next) (later : List Move) :
    next.received reader later <+: l.remainder reader data ∧
      (next.answered reader.other later = [] ∨
        next.answered reader.other later = (next.inbound reader).owed ∧
          next.received reader later = l.remainder reader data) := by
  by_cases gone : l.isDropped reader = true
  · obtain ⟨unread, unanswered⟩ := leaves.over_of_dropped gone later
    rw [unread]
    exact ⟨List.nil_prefix, .inl unanswered⟩
  · rw [← leaves.available]
    exact settled_after_closing (leaves.shut.resolve_left gone) later

theorem Leaves.over_iff (leaves : l.Leaves reader data next) :
    (∀ later, next.received reader later = [] ∧ next.answered reader.other later = []) ↔
      l.isDropped reader = true ∨ (l.inbound reader).standing data = none := by
  constructor
  · -- A reader that is there gets all that is left with its next read.
    intro finished
    by_cases gone : l.isDropped reader = true
    · exact .inl gone
    refine .inr (Decidable.byContradiction fun standing => ?_)
    have some := leaves.remainder_ne_nil standing
    have space : (l.remainder reader data).length ≠ 0 := by simpa using some
    have there : next.isDropped reader = false := by simpa [leaves.gone] using gone
    have reads := read_after_closing (leaves.shut.resolve_left gone) there space "reader"
    have none := (finished [⟨reader, .read (l.remainder reader data).length, "reader"⟩]).1
    simp [received, gather, reads, leaves.available, Act.received, some] at none
  · rintro (gone | free) later
    · exact leaves.over_of_dropped gone later
    · have owed := Pipe.owed_of_free (leaves.offer.trans free)
      have nothing : l.remainder reader data = [] := by simp [remainder, free]
      have settled := leaves.settled later
      rw [owed, nothing, List.prefix_nil] at settled
      exact ⟨settled.1, settled.2.elim id And.left⟩

theorem Leaves.answered_cases (leaves : l.Leaves reader data next) (later : List Move) :
    next.answered reader.other later = [] ∨
      next.answered reader.other later = [data] ∧
        next.received reader later = l.remainder reader data := by
  obtain silent | ⟨answers, read⟩ := (leaves.settled later).2
  · exact .inl silent
  · rw [Pipe.owed, leaves.offer] at answers
    cases standing : (l.inbound reader).standing data with
    | none => exact .inl (by simpa [standing] using answers)
    | some o =>
      have own := ((Pipe.standing_eq_some_iff _).1 standing).2
      exact .inr ⟨by simpa [standing, own] using answers, read⟩

end Run

/-- A write that has failed is over, for every continuation, if and only if its reader is gone or no
offer of it was standing. Otherwise its own end was closed: then the reader can read on in what is
left of it, and after all of that the write can be answered; nothing else is read or answered. -/
theorem failed_write_over_iff (before : List Move) (reader : Side) (data : Bytes) (task : Task)
    (e : Failure)
    (failed : ((fresh.after before).perform ⟨reader.other, .write data, task⟩).1 = .failed e) :
    let l := fresh.after before
    let next := (l.perform ⟨reader.other, .write data, task⟩).2.2
    ((∀ later, next.received reader later = [] ∧ next.answered reader.other later = []) ↔
      l.isDropped reader = true ∨ (l.inbound reader).standing data = none) ∧
    ∀ later, next.received reader later <+: l.remainder reader data ∧
      (next.answered reader.other later = [] ∨
        next.answered reader.other later = [data] ∧
          next.received reader later = l.remainder reader data) := by
  intro l next
  have leaves := leaves_of_failed failed
  exact ⟨leaves.over_iff, fun later => ⟨(leaves.settled later).1, leaves.answered_cases later⟩⟩

theorem displaced_write_over :
    let before : List Move := [⟨.a, .write [1, 2], "a"⟩, ⟨.b, .read 1, "b"⟩, ⟨.a, .close, "a"⟩]
    let next := ((fresh.after before).perform ⟨.a, .write [3], "a"⟩).2.2
    ((fresh.after before).perform ⟨.a, .write [3], "a"⟩).1 = .failed Pipe.writerClosed ∧
      ∀ later, next.received .b later = [] ∧ next.answered .a later = [] := by
  intro before next
  have failed : ((fresh.after before).perform ⟨.a, .write [3], "a"⟩).1 =
      .failed Pipe.writerClosed := by decide
  exact ⟨failed, (failed_write_over_iff before .b [3] "a" _ failed).1.2 (.inr (by decide))⟩

theorem failed_write_read_and_answered :
    let before : List Move := [⟨.a, .write [1, 2], "a"⟩, ⟨.a, .close, "a"⟩]
    let next := ((fresh.after before).perform ⟨.a, .write [1, 2], "a"⟩).2.2
    let later : List Move := [⟨.b, .read 2, "b"⟩, ⟨.a, .write [1, 2], "a"⟩]
    ((fresh.after before).perform ⟨.a, .write [1, 2], "a"⟩).1 = .failed Pipe.writerClosed ∧
      next.received .b later = [1, 2] ∧ next.answered .a later = [[1, 2]] := by
  decide

end Link

end WireScript.Rendezvous
