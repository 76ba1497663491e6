import WireScript.Proofs.Rendezvous.Commute
import WireScript.Proofs.Rendezvous.History

set_option autoImplicit false

namespace WireScript.Wire

def Act.isReading : Act → Bool
  | .read room => room ≠ 0
  | _ => false

def Act.isWriting : Act → Bool
  | .write _ | .close | .release => true
  | .read _ | .flush => false

end WireScript.Wire

namespace WireScript.Rendezvous

open Wire (Act Sight Task Poll)

namespace Pipe

variable (task : Task) (p : Pipe)

def wokenByWriter (act : Act) : List Task :=
  match act with
  | .write data => (p.write task data).2.1
  | .close | .release => p.closeWrite.1
  | _ => []

def wokenByReader (act : Act) : List Task :=
  match act with
  | .read room => (p.read task room).2.1
  | .release => p.closeRead.1
  | _ => []

variable {task p}

theorem afterWriter_other (mover : Task) {act : Act} (other : act.isWriting = false) :
    p.afterWriter mover act = p := by
  cases act with
  | read room | flush => rfl
  | _ => simp [Act.isWriting] at other

structure Listening (p : Pipe) (task : Task) : Prop where
  noted : p.reader = some task
  nothing : p.available = []
  opened : p.writeClosed = false

structure Engaged (p : Pipe) (data : Bytes) (task : Task) : Prop where
  noted : p.writer = some task
  offered : ∃ o, p.offer = some o ∧ o.data = data ∧ o.unread ≠ []
  there : p.readClosed = false
  opened : p.writeClosed = false

structure Freed (p : Pipe) (data : Bytes) : Prop where
  unnoted : p.writer = none
  ready : p.offer = some ⟨data, []⟩ ∨ p.readClosed = true

theorem Listening.waits (listening : p.Listening task) {room : Nat} (space : room ≠ 0)
    (probe : Task) (r : Pipe) : sight probe (.read room) r p = .pending := by
  simp [sight, read_waiting probe p space listening.nothing listening.opened, Sight.ofPoll]

theorem Engaged.waits {data : Bytes} (engaged : p.Engaged data task) (probe : Task) (r : Pipe) :
    sight probe (.write data) p r = .pending := by
  obtain ⟨o, offered, rfl, left⟩ := engaged.offered
  simp [sight, write_standing probe p offered left engaged.there engaged.opened, Sight.ofPoll]

theorem Freed.moves {data : Bytes} (freed : p.Freed data) (probe : Task) (r : Pipe) :
    sight probe (.write data) p r ≠ .pending := by
  obtain taken | gone := freed.ready
  · simp [sight, write_taken probe p taken, Sight.ofPoll, Poll.ok]
  · rw [sight, (write_gone probe gone data).1]
    split <;> simp [Sight.ofPoll, Poll.ok, Poll.failed]

theorem listening_of_pending {room : Nat} (space : room ≠ 0) {r : Pipe}
    (waits : sight task (.read room) r p = .pending) :
    (p.afterReader task (.read room)).Listening task := by
  obtain ⟨taken, b, unread, -, poll, -⟩ | ⟨-, -, same⟩ | ⟨nothing, opened, same⟩ :=
    read_cases (p := p) task space
  · simp [sight, poll, Sight.ofPoll, Poll.ok] at waits
  · simp [sight, same, Sight.ofPoll, Poll.ok] at waits
  · simp only [afterReader, same]
    exact ⟨rfl, nothing, opened⟩

theorem engaged_of_pending {data : Bytes} {r : Pipe}
    (waits : sight task (.write data) p r = .pending) :
    (p.afterWriter task (.write data)).Engaged data task := by
  obtain ⟨-, write⟩ | ⟨-, -, e, write⟩ | ⟨there, opened, ⟨o, offered, same, left, write⟩ |
      ⟨-, -, write⟩ | ⟨-, content, write⟩⟩ := p.write_cases task data
  · simp [sight, write, Sight.ofPoll, Poll.ok] at waits
  · simp [sight, write, Sight.ofPoll, Poll.failed] at waits
  · simp only [afterWriter, write]
    exact ⟨rfl, ⟨o, offered, same, left⟩, there, opened⟩
  · simp [sight, write, Sight.ofPoll, Poll.ok] at waits
  · simp only [afterWriter, write]
    exact ⟨rfl, ⟨⟨[], data⟩, rfl, rfl, content⟩, there, opened⟩

theorem Listening.afterWriter (listening : p.Listening task) (mover : Task) (act : Act) :
    (p.afterWriter mover act).Listening task ∨
      ((p.afterWriter mover act).reader = none ∧ task ∈ p.wokenByWriter mover act) := by
  cases act with
  | write data =>
    simp only [Pipe.afterWriter, wokenByWriter]
    obtain ⟨-, write⟩ | ⟨-, -, e, write⟩ | ⟨-, -, ⟨o, offered, -, left, -⟩ |
        ⟨-, -, write⟩ | ⟨-, -, write⟩⟩ := p.write_cases mover data
    · rw [write]
      exact .inl ⟨listening.noted, rfl, listening.opened⟩
    · -- What fails may withdraw an offer, but leaves none that has something to read.
      rw [write]
      refine .inl ⟨listening.noted, ?_, listening.opened⟩
      cases standing : p.standing data with
      | none => rfl
      | some o =>
        have offered := (p.standing_eq_some_iff.1 standing).1
        simpa [available, offered] using listening.nothing
    · exact absurd (by simpa [available, offered] using listening.nothing) left
    · rw [write]
      exact .inl ⟨listening.noted, rfl, listening.opened⟩
    · rw [write]
      exact .inr ⟨rfl, by simp [listening.noted]⟩
  | close | release =>
    refine .inr ⟨rfl, ?_⟩
    simp [wokenByWriter, closeWrite, wakeReader, listening.noted]
  | _ => exact .inl listening

theorem Listening.afterReader (listening : p.Listening task) (mover : Task) {act : Act}
    (other : act.isReading = false) : (p.afterReader mover act).Listening task := by
  cases act with
  | read room =>
    have nothing : room = 0 := by simpa [Act.isReading] using other
    simpa [Pipe.afterReader, read, nothing] using listening
  | release => exact ⟨listening.noted, listening.nothing, listening.opened⟩
  | _ => exact listening

theorem Engaged.afterReader {data : Bytes} (engaged : p.Engaged data task) (mover : Task)
    (act : Act) :
    (p.afterReader mover act).Engaged data task ∨
      ((p.afterReader mover act).Freed data ∧ task ∈ p.wokenByReader mover act) := by
  cases act with
  | read room =>
    by_cases space : room = 0
    · exact .inl (by simpa [Pipe.afterReader, read, space] using engaged)
    · obtain ⟨⟨taken, _ | ⟨b, unread⟩⟩, offered, rfl, left⟩ := engaged.offered
      · exact absurd rfl left
      · simp only [Pipe.afterReader, wokenByReader, read_eq_of_available mover p space offered]
        by_cases last : (b :: unread).drop room = []
        · have all : (b :: unread).take room = b :: unread := by
            simpa [last] using List.take_append_drop room (b :: unread)
          rw [last, all]
          exact .inr ⟨⟨rfl, .inl rfl⟩, by simp [engaged.noted]⟩
        · refine .inl ⟨?_, ⟨_, rfl, ?_, last⟩, engaged.there, engaged.opened⟩
          · simp [last, engaged.noted]
          · simp [Offer.data]
  | release =>
    refine .inr ⟨⟨rfl, .inr rfl⟩, ?_⟩
    simp [wokenByReader, closeRead, wakeWriter, engaged.noted]
  | _ => exact .inl engaged

theorem Freed.afterReader {data : Bytes} (freed : p.Freed data) (mover : Task) (act : Act) :
    (p.afterReader mover act).Freed data := by
  cases act with
  | read room =>
    by_cases space : room = 0
    · simpa [Pipe.afterReader, read, space] using freed
    · obtain ⟨taken, b, unread, offered, -⟩ | ⟨-, -, same⟩ | ⟨-, -, same⟩ :=
        read_cases (p := p) mover space
      · -- There is still something to read, so that it was the reader who left.
        have gone : p.readClosed = true := by simpa [offered] using freed.ready
        simp only [Pipe.afterReader, read_eq_of_available mover p space offered]
        exact ⟨by simp [freed.unnoted], .inr gone⟩
      · simpa only [Pipe.afterReader, same] using freed
      · simp only [Pipe.afterReader, same]
        exact ⟨freed.unnoted, freed.ready⟩
  | release => exact ⟨rfl, .inr rfl⟩
  | _ => exact freed

end Pipe

namespace Link

variable {l : Link} {m : Move}

theorem woken_perform (there : l.isDropped m.side = false) :
    (l.perform m).2.1 =
      l.woken ++ (l.outbound m.side).wokenByWriter m.task m.act ++
        (l.inbound m.side).wokenByReader m.task m.act := by
  obtain ⟨side, act, task⟩ := m
  simp only [perform, there]
  cases side <;> cases act <;> simp [Act.perform, Wire.Transport.read, Wire.Transport.write,
    Wire.Transport.flush, Wire.Transport.close, Wire.Transport.release, collect, read, write, close,
    drop, setOutbound, Pipe.wokenByWriter, Pipe.wokenByReader, inbound, outbound, Side.other]

/-- The read that waits at `side` under the name of `task` is woken by `m`: it is noted no more, and
the task is told. -/
def WakesReader (l : Link) (m : Move) (side : Side) (task : Task) : Prop :=
  (l.inbound side).reader = some task ∧ ((l.perform m).2.2.inbound side).reader = none ∧
    task ∈ (l.perform m).2.1

def WakesWriter (l : Link) (m : Move) (side : Side) (task : Task) : Prop :=
  (l.outbound side).writer = some task ∧ ((l.perform m).2.2.outbound side).writer = none ∧
    task ∈ (l.perform m).2.1

instance (l : Link) (m : Move) (side : Side) (task : Task) :
    Decidable (l.WakesReader m side task) :=
  inferInstanceAs (Decidable (_ ∧ _ ∧ _))

instance (l : Link) (m : Move) (side : Side) (task : Task) :
    Decidable (l.WakesWriter m side task) :=
  inferInstanceAs (Decidable (_ ∧ _ ∧ _))

variable {side : Side} {task : Task}

theorem listening_perform (listening : (l.inbound side).Listening task)
    (other : m.side = side → m.act.isReading = false) :
    ((l.perform m).2.2.inbound side).Listening task ∨ l.WakesReader m side task := by
  rcases Bool.eq_false_or_eq_true (l.isDropped m.side) with gone | there
  · rw [perform_gone gone]
    exact .inl listening
  · have pipe := outbound_perform there side.other
    by_cases own : m.side = side
    · subst own
      rw [if_neg (Side.ne_other m.side)] at pipe
      rw [inbound, pipe]
      exact .inl (listening.afterReader m.task (other rfl))
    · obtain rfl := Side.eq_other_of_ne own
      rw [inbound, Side.other_other] at listening
      rw [Side.other_other, if_pos rfl] at pipe
      simp only [WakesReader, inbound, Side.other_other, pipe, woken_perform there]
      obtain still | ⟨unnoted, woken⟩ := listening.afterWriter m.task m.act
      · exact .inl still
      · exact .inr ⟨listening.noted, unnoted, by simp [woken]⟩

theorem engaged_perform {data : Bytes} (engaged : (l.outbound side).Engaged data task)
    (other : m.side = side → m.act.isWriting = false) :
    ((l.perform m).2.2.outbound side).Engaged data task ∨
      (((l.perform m).2.2.outbound side).Freed data ∧ l.WakesWriter m side task) := by
  rcases Bool.eq_false_or_eq_true (l.isDropped m.side) with gone | there
  · rw [perform_gone gone]
    exact .inl engaged
  · have pipe := outbound_perform there side
    by_cases own : m.side = side
    · rw [if_pos own, Pipe.afterWriter_other m.task (other own)] at pipe
      rw [pipe]
      exact .inl engaged
    · rw [if_neg own] at pipe
      obtain rfl := Side.eq_other_of_ne own
      simp only [WakesWriter, pipe, woken_perform there]
      obtain still | ⟨freed, woken⟩ := engaged.afterReader m.task m.act
      · exact .inl still
      · exact .inr ⟨freed, engaged.noted, freed.unnoted, by simp [inbound, woken]⟩

theorem freed_perform {data : Bytes} (freed : (l.outbound side).Freed data)
    (other : m.side = side → m.act.isWriting = false) :
    ((l.perform m).2.2.outbound side).Freed data := by
  rcases Bool.eq_false_or_eq_true (l.isDropped m.side) with gone | there
  · rwa [perform_gone gone]
  · rw [outbound_perform there side]
    by_cases own : m.side = side
    · rwa [if_pos own, Pipe.afterWriter_other m.task (other own)]
    · rw [if_neg own]
      exact freed.afterReader m.task m.act

theorem listening_after {since : List Move} (listening : (l.inbound side).Listening task)
    (latest : ∀ m ∈ since, m.side = side → m.act.isReading = false)
    (asleep : ∀ i (within : i < since.length),
      ¬ (l.after (since.take i)).WakesReader since[i] side task) :
    ((l.after since).inbound side).Listening task := by
  induction since generalizing l with
  | nil => exact listening
  | cons m since ih =>
    obtain still | woken := listening_perform listening (latest m List.mem_cons_self)
    · refine ih still (fun m member => latest m (List.mem_cons_of_mem _ member)) ?_
      intro i within
      exact asleep (i + 1) (Nat.succ_lt_succ within)
    · exact absurd woken (asleep 0 (Nat.zero_lt_succ _))

theorem engaged_after {data : Bytes} {since : List Move}
    (engaged : (l.outbound side).Engaged data task)
    (other : ∀ m ∈ since, m.side = side → m.act.isWriting = false) (i : Nat)
    (within : i ≤ since.length) :
    (∀ j, j ≤ i → ((l.after (since.take j)).outbound side).Engaged data task) ∨
      ((l.after (since.take i)).outbound side).Freed data := by
  induction i with
  | zero =>
    refine .inl ?_
    intro j first
    obtain rfl := Nat.le_zero.1 first
    exact engaged
  | succ i ih =>
    have next : i < since.length := within
    have quiet := other since[i] (List.getElem_mem next)
    rw [after_take_succ l next]
    obtain earlier | freed := ih (Nat.le_of_lt next)
    · obtain still | ⟨freed, -⟩ := engaged_perform (earlier i (Nat.le_refl i)) quiet
      · refine .inl ?_
        intro j upTo
        obtain before | rfl := Nat.le_succ_iff.1 upTo
        · exact earlier j before
        · rwa [after_take_succ l next]
      · exact .inr freed
    · exact .inr (freed_perform freed quiet)

theorem there_of_pending (waits : (l.perform m).1 = .pending) : l.isDropped m.side = false := by
  rcases Bool.eq_false_or_eq_true (l.isDropped m.side) with gone | there
  · simp [perform_gone gone] at waits
  · exact there

theorem listening_of_pending {room : Nat} (space : room ≠ 0)
    (waits : (l.perform ⟨side, .read room, task⟩).1 = .pending) :
    ((l.perform ⟨side, .read room, task⟩).2.2.inbound side).Listening task := by
  have there := there_of_pending waits
  rw [sight_perform there] at waits
  rw [inbound, outbound_perform there, if_neg (Side.ne_other side)]
  exact Pipe.listening_of_pending space waits

theorem engaged_of_pending {data : Bytes}
    (waits : (l.perform ⟨side, .write data, task⟩).1 = .pending) :
    ((l.perform ⟨side, .write data, task⟩).2.2.outbound side).Engaged data task := by
  have there := there_of_pending waits
  rw [sight_perform there] at waits
  rw [outbound_perform there, if_pos rfl]
  exact Pipe.engaged_of_pending waits

theorem wakesWriter_iff {data : Bytes} {since : List Move}
    (engaged : (l.outbound side).Engaged data task) (there : l.isDropped side = false)
    (other : ∀ m ∈ since, m.side = side → m.act.isWriting = false) (probe : Task) {i : Nat}
    (within : i < since.length) :
    (l.after (since.take i)).WakesWriter since[i] side task ↔
      (∀ j, j ≤ i →
        ((l.after (since.take j)).perform ⟨side, .write data, probe⟩).1 = .pending) ∧
      ((l.after (since.take (i + 1))).perform ⟨side, .write data, probe⟩).1 ≠ .pending := by
  have seen (j : Nat) :
      ((l.after (since.take j)).perform ⟨side, .write data, probe⟩).1 =
        sight probe (.write data) ((l.after (since.take j)).outbound side)
          ((l.after (since.take j)).inbound side) := by
    apply sight_perform
    rw [isDropped_after]
    · exact there
    · intro m member own release
      simpa [release, Act.isWriting] using other m (List.mem_of_mem_take member) own
  have quiet := other since[i] (List.getElem_mem within)
  obtain waiting | freed := engaged_after engaged other i (Nat.le_of_lt within)
  · obtain still | ⟨freed, woken⟩ := engaged_perform (waiting i (Nat.le_refl i)) quiet
    · -- Nothing has changed for the write: it is still noted, and would still wait.
      constructor
      · rintro ⟨-, unnoted, -⟩
        simp [still.noted] at unnoted
      · rintro ⟨-, moves⟩
        rw [← after_take_succ l within] at still
        exact absurd ((seen (i + 1)).trans (still.waits probe _)) moves
    · rw [← after_take_succ l within] at freed
      refine iff_of_true woken ⟨?_, ?_⟩
      · intro j upTo
        exact (seen j).trans ((waiting j upTo).waits probe _)
      · rw [seen]
        exact freed.moves probe _
  · -- It was ready before, and has been woken since.
    constructor
    · rintro ⟨noted, -⟩
      simp [freed.unnoted] at noted
    · rintro ⟨waits, -⟩
      exact absurd ((seen i).symm.trans (waits i (Nat.le_refl i))) (freed.moves probe _)

/-- No wake-up is lost. A read that waits and is the latest of its end would still wait as long as
it is not woken. A write that waits, while its end writes and closes nothing more, is woken by
exactly the first operation after which it would not wait any more. -/
theorem no_wakeup_lost (before since : List Move) (side : Side) (task probe : Task) :
    (∀ room, room ≠ 0 →
      let begun := (fresh.after before).perform ⟨side, .read room, task⟩
      begun.1 = .pending →
      (∀ m ∈ since, m.side = side → m.act.isReading = false) →
      (∀ i (within : i < since.length),
        ¬ (begun.2.2.after (since.take i)).WakesReader since[i] side task) →
      (begun.2.2.after since).isDropped side = false →
      ∀ again, again ≠ 0 →
        ((begun.2.2.after since).perform ⟨side, .read again, probe⟩).1 = .pending) ∧
    (∀ data,
      let begun := (fresh.after before).perform ⟨side, .write data, task⟩
      begun.1 = .pending →
      (∀ m ∈ since, m.side = side → m.act.isWriting = false) →
      ∀ i (within : i < since.length),
        (begun.2.2.after (since.take i)).WakesWriter since[i] side task ↔
          (∀ j, j ≤ i →
            ((begun.2.2.after (since.take j)).perform ⟨side, .write data, probe⟩).1 = .pending) ∧
          ((begun.2.2.after (since.take (i + 1))).perform ⟨side, .write data, probe⟩).1 ≠
            .pending) := by
  constructor
  · intro room space begun waits latest asleep there again more
    have listening := listening_after (listening_of_pending space waits) latest asleep
    rw [sight_perform there]
    exact listening.waits more probe _
  · intro data begun waits other i within
    have there : begun.2.2.isDropped side = false := by
      simp [begun, isDropped_perform, there_of_pending waits]
    exact wakesWriter_iff (engaged_of_pending waits) there other probe within

def twoReads : List Move := [⟨.b, .read 1, "b"⟩, ⟨.a, .flush, "a"⟩, ⟨.b, .read 7, "b"⟩]

theorem wakeups_of_twoReads :
    (((fresh.after []).perform ⟨.a, .read 3, "a"⟩).1 = .pending ∧
      ((((fresh.after []).perform ⟨.a, .read 3, "a"⟩).2.2.after twoReads).perform
        ⟨.a, .read 5, "c"⟩).1 = .pending) ∧
    (((fresh.after []).perform ⟨.a, .write [1, 2], "a"⟩).1 = .pending ∧
      (((fresh.after []).perform ⟨.a, .write [1, 2], "a"⟩).2.2.after (twoReads.take 2)).WakesWriter
        ⟨.b, .read 7, "b"⟩ .a "a") := by
  obtain ⟨reading, writing⟩ := no_wakeup_lost [] twoReads .a "a" "c"
  refine ⟨⟨by decide, ?_⟩, by decide, ?_⟩
  · exact reading 3 (by decide) (by decide) (by decide) (by decide) (by decide) 5 (by decide)
  · exact (writing [1, 2] (by decide) (by decide) 2 (by decide)).2 (by decide)

end Link

end WireScript.Rendezvous
