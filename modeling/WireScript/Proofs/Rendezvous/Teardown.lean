import WireScript.Proofs.Rendezvous.Commute
import WireScript.Proofs.Rendezvous.History

set_option autoImplicit false

namespace WireScript.Wire

def Act.isClosing : Act → Bool
  | .close | .release => true
  | .read _ | .write _ | .flush => false

def Act.answered : Act → Sight → List Bytes
  | .write data, .count _ => [data]
  | _, _ => []

@[simp] theorem Act.received_gone (act : Act) : act.received .gone = [] := by
  cases act <;> rfl

@[simp] theorem Act.answered_gone (act : Act) : act.answered .gone = [] := by
  cases act <;> rfl

end WireScript.Wire

namespace WireScript.Rendezvous

open Wire (Act Sight Task Poll)

namespace Pipe

variable (task : Task) {p : Pipe}

theorem available_afterWriter (closed : p.writeClosed = true) (act : Act) :
    (p.afterWriter task act).available <+: p.available := by
  cases act with
  | write data =>
    simp only [afterWriter]
    obtain ⟨-, write⟩ | ⟨-, -, e, write⟩ | ⟨-, opened, -⟩ := p.write_cases task data
    · simp [write, available]
    · cases standing : p.standing data with
      | none => simp [write, available, standing]
      | some o =>
        have offered := (p.standing_eq_some_iff.1 standing).1
        simp [write, available, standing, offered]
    · simp [opened] at closed
  | _ => exact List.prefix_rfl

theorem sight_read_closed {room : Nat} (space : room ≠ 0) (closed : p.writeClosed = true)
    (q : Pipe) : sight task (.read room) q p = .data (p.available.take room) := by
  obtain ⟨taken, b, unread, offered, poll, -⟩ | ⟨nothing, -, same⟩ | ⟨-, opened, -⟩ :=
    read_cases (p := p) task space
  · simp [sight, poll, available, offered, Sight.ofPoll, Poll.ok]
  · simp [sight, same, nothing, Sight.ofPoll, Poll.ok]
  · simp [opened] at closed

def due (p : Pipe) : List Bytes :=
  match p.offer with
  | some ⟨data, []⟩ => [data]
  | _ => []

theorem due_eq_singleton {data : Bytes} (offered : p.offer = some ⟨data, []⟩) : p.due = [data] := by
  simp [due, offered]

theorem mem_due {data : Bytes} : data ∈ p.due ↔ p.offer = some ⟨data, []⟩ := by
  rcases p with ⟨_ | ⟨taken, _ | ⟨b, unread⟩⟩, _, _, _, _⟩ <;> simp [due, eq_comm]

theorem length_due_le (p : Pipe) : p.due.length ≤ 1 := by
  unfold due
  split <;> simp

theorem outlook_of_gone (gone : p.readClosed = true) {data : Bytes} :
    p.outlook.1 = some ⟨data, []⟩ ↔ data ∈ p.due := by
  simp [mem_due, outlook, gone, Option.filter_eq_some_iff]

theorem sight_write_gone (gone : p.readClosed = true) (data : Bytes) (q : Pipe) :
    sight task (.write data) p q =
      if data ∈ p.due then .count data.length else .failed readerGone := by
  rw [sight, (write_gone task gone data).1]
  by_cases taken : data ∈ p.due <;>
    simp [outlook_of_gone gone, taken, Sight.ofPoll, Poll.ok, Poll.failed]

theorem due_afterWriter (gone : p.readClosed = true) (act : Act) (q : Pipe) :
    act.answered (sight task act p q) ++ (p.afterWriter task act).due <+: p.due := by
  cases act with
  | write data =>
    have left : (p.afterWriter task (.write data)).due = [] := by
      apply List.eq_nil_iff_forall_not_mem.2
      intro other due
      have free := (outlook_of_gone (by simpa using gone)).2 due
      simp [afterWriter, (write_gone task gone data).2] at free
    rw [left, sight_write_gone task gone]
    by_cases taken : data ∈ p.due
    · simp [due_eq_singleton (mem_due.1 taken), Act.answered]
    · simp [taken, Act.answered]
  | _ => exact List.prefix_rfl

end Pipe

namespace Link

section Step

variable (l : Link) (m : Move) (side : Side)

theorem perform_cases :
    (l.isDropped m.side = true ∧ l.perform m = (.gone, [], l)) ∨
    (m.side = side.other ∧ l.isDropped side.other = false ∧
      (l.perform m).1 = sight m.task m.act (l.inbound side) (l.outbound side) ∧
      (l.perform m).2.2.inbound side = (l.inbound side).afterWriter m.task m.act) ∨
    (m.side = side ∧ l.isDropped side = false ∧
      (l.perform m).1 = sight m.task m.act (l.outbound side) (l.inbound side) ∧
      (l.perform m).2.2.inbound side = (l.inbound side).afterReader m.task m.act) := by
  rcases Bool.eq_false_or_eq_true (l.isDropped m.side) with gone | there
  · exact .inl ⟨gone, perform_gone gone⟩
  have shown := sight_perform there
  have pipe := outbound_perform there side.other
  by_cases own : m.side = side
  · subst own
    rw [if_neg (Side.ne_other m.side)] at pipe
    exact .inr (.inr ⟨rfl, there, shown, pipe⟩)
  · obtain rfl := Side.eq_other_of_ne own
    rw [Side.other_other, if_pos rfl] at pipe
    simp only [inbound, Side.other_other]
    exact .inr (.inl ⟨trivial, there, shown, pipe⟩)

theorem writeClosed_perform (closed : (l.inbound side).writeClosed = true) :
    ((l.perform m).2.2.inbound side).writeClosed = true := by
  obtain ⟨-, same⟩ | ⟨-, -, -, pipe⟩ | ⟨-, -, -, pipe⟩ := l.perform_cases m side
  · rwa [same]
  · simp [pipe, closed]
  · simp [pipe, closed]

theorem closing_of_writeClosed (closed : ((l.perform m).2.2.inbound side).writeClosed = true) :
    (l.inbound side).writeClosed = true ∨ m.side = side.other ∧ m.act.isClosing = true := by
  obtain ⟨-, same⟩ | ⟨own, -, -, pipe⟩ | ⟨-, -, -, pipe⟩ := l.perform_cases m side
  · rw [same] at closed
    exact .inl closed
  · rw [pipe, Pipe.afterWriter_writeClosed] at closed
    cases act : m.act <;> simp_all [Act.isClosing]
  · rw [pipe, Pipe.afterReader_writeClosed] at closed
    exact .inl closed

end Step

def gather {α : Type} (what : Act → Sight → List α) (side : Side) : Link → List Move → List α
  | _, [] => []
  | l, m :: moves =>
    (if m.side = side then what m.act (l.perform m).1 else []) ++
      gather what side (l.perform m).2.2 moves

abbrev received (l : Link) (side : Side) (moves : List Move) : Bytes :=
  l.gather Act.received side moves

abbrev answered (l : Link) (side : Side) (moves : List Move) : List Bytes :=
  l.gather Act.answered side moves

section Run

variable {l : Link} {side : Side}

theorem gather_after {α : Type} {what : Act → Sight → List α} {teller : Side}
    (Holds : Link → Prop) (left : Link → List α)
    (step : ∀ l m, Holds l → Holds (l.perform m).2.2 ∧
      (if m.side = teller then what m.act (l.perform m).1 else []) ++ left (l.perform m).2.2 <+:
        left l)
    (holds : Holds l) (moves : List Move) :
    Holds (l.after moves) ∧ l.gather what teller moves ++ left (l.after moves) <+: left l := by
  induction moves generalizing l with
  | nil => exact ⟨holds, List.prefix_rfl⟩
  | cons m moves ih =>
    obtain ⟨holds', first⟩ := step l m holds
    obtain ⟨still, rest⟩ := ih holds'
    refine ⟨still, ?_⟩
    rw [gather, List.append_assoc]
    exact ((List.prefix_append_right_inj _).2 rest).trans first

theorem received_after_closing (closed : (l.inbound side).writeClosed = true)
    (moves : List Move) :
    ((l.after moves).inbound side).writeClosed = true ∧
      l.received side moves ++ ((l.after moves).inbound side).available <+:
        (l.inbound side).available := by
  refine gather_after (fun l => (l.inbound side).writeClosed = true)
    (fun l => (l.inbound side).available) ?_ closed moves
  intro l m closed
  refine ⟨l.writeClosed_perform m side closed, ?_⟩
  obtain ⟨-, same⟩ | ⟨own, -, -, pipe⟩ | ⟨own, -, shown, pipe⟩ := l.perform_cases m side
  · simp [same]
  · rw [own, if_neg (Side.ne_other side).symm, pipe]
    exact Pipe.available_afterWriter m.task closed m.act
  · refine ⟨[], ?_⟩
    rw [List.append_nil, if_pos own, shown, pipe, ← Pipe.available_afterReader]

theorem received_after_release (gone : l.isDropped side.other = true) (moves : List Move) :
    l.received side moves ++ ((l.after moves).inbound side).available =
      (l.inbound side).available := by
  induction moves generalizing l with
  | nil => rfl
  | cons m moves ih =>
    have rest := ih (l := (l.perform m).2.2) (by simp [isDropped_perform, gone])
    rw [received, gather, List.append_assoc, after_cons, rest]
    obtain ⟨-, same⟩ | ⟨-, there, -⟩ | ⟨own, -, shown, pipe⟩ := l.perform_cases m side
    · simp [same]
    · simp [gone] at there
    · rw [if_pos own, shown, pipe, ← Pipe.available_afterReader]

theorem answered_after_release (gone : l.isDropped side = true) (moves : List Move) :
    (l.after moves).isDropped side = true ∧
      l.answered side.other moves ++ ((l.after moves).inbound side).due <+:
        (l.inbound side).due := by
  refine gather_after (fun l => l.isDropped side = true) (fun l => (l.inbound side).due) ?_ gone
    moves
  intro l m gone
  refine ⟨by simp [isDropped_perform, gone], ?_⟩
  obtain ⟨-, same⟩ | ⟨own, -, shown, pipe⟩ | ⟨-, there, -⟩ := l.perform_cases m side
  · simp [same]
  · rw [if_pos own, shown, pipe]
    exact Pipe.due_afterWriter m.task gone m.act _
  · simp [gone] at there

theorem closed_by {moves : List Move} (closed : ((l.after moves).inbound side).writeClosed = true) :
    (l.inbound side).writeClosed = true ∨
      ∃ m ∈ moves, m.side = side.other ∧ m.act.isClosing = true := by
  induction moves generalizing l with
  | nil => exact .inl closed
  | cons m moves ih =>
    obtain before | ⟨m', member, closes⟩ := ih closed
    · obtain before | closes := l.closing_of_writeClosed m side before
      · exact .inl before
      · exact .inr ⟨m, List.mem_cons_self, closes⟩
    · exact .inr ⟨m', List.mem_cons_of_mem m member, closes⟩

theorem read_after_closing (closed : (l.inbound side).writeClosed = true)
    (there : l.isDropped side = false) {room : Nat} (space : room ≠ 0) (task : Task) :
    (l.perform ⟨side, .read room, task⟩).1 = .data ((l.inbound side).available.take room) := by
  rw [sight_perform there]
  exact Pipe.sight_read_closed task space closed _

theorem closed_of_end {room : Nat} (space : room ≠ 0) {task : Task}
    (ended : (l.perform ⟨side, .read room, task⟩).1 = .data []) :
    (l.inbound side).writeClosed = true ∧ (l.inbound side).available = [] := by
  obtain ⟨-, same⟩ | ⟨own, -⟩ | ⟨-, -, shown, -⟩ := l.perform_cases ⟨side, .read room, task⟩ side
  · simp [same] at ended
  · exact absurd own (Side.ne_other side)
  · rw [shown] at ended
    obtain ⟨found, some, shown⟩ | ⟨nothing, closed, -⟩ | ⟨-, -, shown⟩ :=
      sight_read_cases task space (l.outbound side) (l.inbound side)
    · simp [shown, some] at ended
    · exact ⟨closed, nothing⟩
    · simp [shown] at ended

theorem end_is_final (closed : (l.inbound side).writeClosed = true)
    (nothing : (l.inbound side).available = []) (later : List Move) {room : Nat} (space : room ≠ 0)
    (task : Task) (there : (l.after later).isDropped side = false) :
    ((l.after later).perform ⟨side, .read room, task⟩).1 = .data [] := by
  obtain ⟨still, left⟩ := received_after_closing closed later
  rw [nothing, List.prefix_nil, List.append_eq_nil_iff] at left
  rw [read_after_closing still there space, left.2, List.take_nil]

theorem remainder_is_read (closed : (l.inbound side).writeClosed = true) (later : List Move)
    {room : Nat} (space : room ≠ 0) (task : Task)
    (there : (l.after later).isDropped side = false) :
    ∃ found, ((l.after later).perform ⟨side, .read room, task⟩).1 = .data found ∧
      l.received side later ++ found <+: (l.inbound side).available ∧
      (l.isDropped side.other = true →
        found = ((l.inbound side).available.drop (l.received side later).length).take room) := by
  obtain ⟨still, left⟩ := received_after_closing closed later
  refine ⟨_, read_after_closing still there space task, ?_, ?_⟩
  · exact ((List.prefix_append_right_inj _).2 (List.take_prefix _ _)).trans left
  · intro gone
    rw [← received_after_release gone later, List.drop_left]

theorem write_after_release (gone : l.isDropped side = true)
    (there : l.isDropped side.other = false) (data : Bytes) (task : Task) :
    (l.perform ⟨side.other, .write data, task⟩).1 =
      if data ∈ (l.inbound side).due then .count data.length else .failed Pipe.readerGone := by
  rw [sight_perform there]
  exact Pipe.sight_write_gone task gone data _

theorem pipe_is_broken (gone : l.isDropped side = true) (later : List Move) (data : Bytes)
    (task : Task) (there : (l.after later).isDropped side.other = false) :
    ((l.after later).perform ⟨side.other, .write data, task⟩).1 = .failed Pipe.readerGone ∨
    ((l.after later).perform ⟨side.other, .write data, task⟩).1 = .count data.length ∧
      (l.inbound side).offer = some ⟨data, []⟩ ∧ l.answered side.other later = [] := by
  obtain ⟨still, left⟩ := answered_after_release gone later
  rw [write_after_release still there]
  by_cases due : data ∈ ((l.after later).inbound side).due
  · -- At most one write was due at first, and it still is.
    have few := Nat.le_trans left.length_le (Pipe.length_due_le _)
    have one := List.length_pos_of_mem due
    rw [List.length_append] at few
    refine .inr ⟨if_pos due, ?_, List.eq_nil_of_length_eq_zero (by omega)⟩
    exact Pipe.mem_due.1 (left.subset (List.mem_append_right _ due))
  · exact .inl (if_neg due)

theorem length_answered_le (gone : l.isDropped side = true) (later : List Move) :
    (l.answered side.other later).length ≤ 1 := by
  have few := (answered_after_release gone later).2.length_le
  have one := Pipe.length_due_le (l.inbound side)
  rw [List.length_append] at few
  omega

end Run

/-- The teardown of a channel is sound and final, for the reader of a pipe and for its writer. The
end of the stream is seen only once the other end is closed or gone and has left nothing to read,
and from then on nothing else is. Once the other end is closed or gone, the reader never waits and
goes on with what was left for it; all of that is there if the other end is gone. Once the reader
itself is gone, the writes of the other end fail, but for one that was taken as a whole before. -/
theorem teardown_sound_and_final (before later : List Move) (side : Side) :
    let l := fresh.after before
    (∀ room task, room ≠ 0 → (l.perform ⟨side, .read room, task⟩).1 = .data [] →
      let ended := (l.perform ⟨side, .read room, task⟩).2.2
      (∃ m ∈ before, m.side = side.other ∧ m.act.isClosing = true) ∧
      (l.inbound side).available = [] ∧
      ∀ again probe, again ≠ 0 → (ended.after later).isDropped side = false →
        ((ended.after later).perform ⟨side, .read again, probe⟩).1 = .data []) ∧
    (∀ m, m.side = side.other → m.act.isClosing = true → l.isDropped side.other = false →
      let closed := (l.perform m).2.2
      let left := (l.inbound side).available
      ∀ room probe, room ≠ 0 → (closed.after later).isDropped side = false →
        ∃ found, ((closed.after later).perform ⟨side, .read room, probe⟩).1 = .data found ∧
          closed.received side later ++ found <+: left ∧
          (m.act = .release →
            found = (left.drop (closed.received side later).length).take room)) ∧
    (∀ task, l.isDropped side = false →
      let dropped := (l.perform ⟨side, .release, task⟩).2.2
      (dropped.answered side.other later).length ≤ 1 ∧
      ∀ data probe, (dropped.after later).isDropped side.other = false →
        let shown := ((dropped.after later).perform ⟨side.other, .write data, probe⟩).1
        (∃ e, shown = .failed e ∧ e.kind = .brokenPipe) ∨
        (shown = .count data.length ∧ (l.inbound side).offer = some ⟨data, []⟩ ∧
          dropped.answered side.other later = [])) := by
  intro l
  refine ⟨?_, ?_, ?_⟩
  · intro room task space shows ended
    obtain ⟨closed, nothing⟩ := closed_of_end space shows
    refine ⟨?_, nothing, ?_⟩
    · obtain fresh | closing := closed_by closed
      · cases side <;> simp [inbound, outbound, Side.other, Link.fresh, Pipe.fresh] at fresh
      · exact closing
    · intro again probe more there
      exact end_is_final closed nothing (⟨side, .read room, task⟩ :: later) more probe there
  · intro m other closes here closed left room probe space there
    have pipe : closed.inbound side = (l.inbound side).afterWriter m.task m.act := by
      rw [inbound, outbound_perform (by rwa [other]), if_pos other]
      rfl
    have shut : (closed.inbound side).writeClosed = true := by
      cases act : m.act <;> simp_all [Act.isClosing]
    have same : (closed.inbound side).available = left := by
      rw [pipe]
      cases act : m.act <;> simp_all [Act.isClosing] <;> rfl
    obtain ⟨found, shown, front, all⟩ := remainder_is_read shut later space probe there
    rw [same] at front all
    refine ⟨found, shown, front, ?_⟩
    intro release
    exact all (by simp [closed, isDropped_perform, other, release])
  · intro task here dropped
    have gone : dropped.isDropped side = true := by simp [dropped, isDropped_perform]
    have same : (dropped.inbound side).offer = (l.inbound side).offer := by
      simp only [dropped]
      rw [inbound, outbound_perform here, if_neg (Side.ne_other side)]
      rfl
    refine ⟨length_answered_le gone later, ?_⟩
    intro data probe there
    obtain fails | ⟨shown, offered, first⟩ := pipe_is_broken gone later data probe there
    · exact .inl ⟨_, fails, rfl⟩
    · exact .inr ⟨shown, same ▸ offered, first⟩

def parting : List Move :=
  [⟨.a, .write [1, 2, 3], "a"⟩, ⟨.b, .read 1, "b"⟩, ⟨.b, .write [5], "b"⟩, ⟨.a, .read 1, "a"⟩]

theorem parting_torn_down :
    (∃ found, ((((fresh.after parting).perform ⟨.a, .release, "a"⟩).2.2.after
        [⟨.b, .read 1, "b"⟩]).perform ⟨.b, .read 7, "b"⟩).1 = .data found ∧ found = [3]) ∧
    (((fresh.after (parting ++ [⟨.a, .release, "a"⟩, ⟨.b, .read 2, "b"⟩])).perform
        ⟨.b, .read 7, "b"⟩).1 = .data [] ∧
      (((((fresh.after (parting ++ [⟨.a, .release, "a"⟩, ⟨.b, .read 2, "b"⟩])).perform
        ⟨.b, .read 7, "b"⟩).2.2).after [⟨.b, .write [5], "b"⟩]).perform
          ⟨.b, .read 1, "b"⟩).1 = .data []) ∧
    (∃ e, ((((fresh.after parting).perform ⟨.a, .release, "a"⟩).2.2.after
        [⟨.b, .write [5], "b"⟩]).perform ⟨.b, .write [5], "b"⟩).1 = .failed e ∧
      e.kind = .brokenPipe) := by
  refine ⟨?_, ⟨by decide, ?_⟩, ?_⟩
  · obtain ⟨-, reads, -⟩ := teardown_sound_and_final parting [⟨.b, .read 1, "b"⟩] .b
    obtain ⟨found, shown, -, all⟩ :=
      reads ⟨.a, .release, "a"⟩ rfl rfl (by decide) 7 "b" (by decide) (by decide)
    exact ⟨found, shown, (all rfl).trans (by decide)⟩
  · obtain ⟨ends, -⟩ := teardown_sound_and_final
      (parting ++ [⟨.a, .release, "a"⟩, ⟨.b, .read 2, "b"⟩]) [⟨.b, .write [5], "b"⟩] .b
    exact (ends 7 "b" (by decide) (by decide)).2.2 1 "b" (by decide) (by decide)
  · obtain ⟨-, -, breaks⟩ := teardown_sound_and_final parting [⟨.b, .write [5], "b"⟩] .a
    obtain fails | ⟨-, -, none⟩ := (breaks "a" (by decide)).2 [5] "b" (by decide)
    · exact fails
    · exact absurd none (by decide)

end Link

end WireScript.Rendezvous
