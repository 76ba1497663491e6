import WireScript.Proofs.Turn
import WireScript.Rendezvous.History

set_option autoImplicit false

namespace WireScript.Rendezvous

open Wire (Act Sight Task Poll)

namespace Pipe

variable (task : Task) (p : Pipe)

theorem read_available {room : Nat} (space : room ≠ 0) {taken unread : Bytes} {b : UInt8}
    (offered : p.offer = some ⟨taken, b :: unread⟩) :
    (p.read task room).1 = .ok ((b :: unread).take room) ∧
      (p.read task room).2.2.offer =
        some ⟨taken ++ (b :: unread).take room, (b :: unread).drop room⟩ := by
  simp only [read, space, if_false, offered]
  split <;> simp [wakeWriter]

theorem read_closed {room : Nat} (space : room ≠ 0) (nothing : p.available = [])
    (closed : p.writeClosed = true) : p.read task room = (.ok [], [], p) := by
  rcases p with ⟨_ | ⟨taken, _ | ⟨b, unread⟩⟩, _, _, _, _⟩ <;> simp_all [read, available]

theorem read_waiting {room : Nat} (space : room ≠ 0) (nothing : p.available = [])
    (opened : p.writeClosed = false) :
    p.read task room = (.pending, [], { p with reader := some task }) := by
  rcases p with ⟨_ | ⟨taken, _ | ⟨b, unread⟩⟩, _, _, _, _⟩ <;> simp_all [read, available]

theorem standing_own {o : Offer} (offered : p.offer = some o) : p.standing o.data = some o := by
  simp [standing, offered, Option.filter_some]

theorem standing_free (data : Bytes) (free : p.offer = none) : p.standing data = none := by
  simp [standing, free]

theorem write_taken {data : Bytes} (offered : p.offer = some ⟨data, []⟩) :
    p.write task data = (.ok data.length, [], { p with offer := none }) := by
  have own : p.standing data = some ⟨data, []⟩ := by
    simpa [Offer.data] using p.standing_own offered
  simp only [write, own]

theorem write_standing {o : Offer} (offered : p.offer = some o) (left : o.unread ≠ [])
    (there : p.readClosed = false) (opened : p.writeClosed = false) :
    p.write task o.data = (.pending, [], { p with writer := some task }) := by
  rcases o with ⟨taken, _ | ⟨b, unread⟩⟩
  · exact absurd rfl left
  · simp [write, p.standing_own offered, there, opened, offered]

theorem write_standing_gone {o : Offer} (offered : p.offer = some o) (left : o.unread ≠ [])
    (gone : p.readClosed = true) : p.write task o.data = (.failed readerGone, [], p) := by
  rcases o with ⟨taken, _ | ⟨b, unread⟩⟩
  · exact absurd rfl left
  · simp [write, p.standing_own offered, gone]

theorem write_placed {data : Bytes} (content : data ≠ []) (free : p.offer = none)
    (there : p.readClosed = false) (opened : p.writeClosed = false) :
    p.write task data =
      (.pending, p.reader.toList,
        { p with offer := some ⟨[], data⟩, reader := none, writer := some task }) := by
  simp [write, p.standing_free data free, there, opened, content, wakeReader]

theorem write_free_gone (data : Bytes) (free : p.offer = none) (gone : p.readClosed = true) :
    p.write task data = (.failed readerGone, [], p) := by
  rcases p with ⟨_, _, _, _, _⟩
  simp_all [write, standing]

theorem write_free_closed (data : Bytes) (free : p.offer = none) (there : p.readClosed = false)
    (closed : p.writeClosed = true) : p.write task data = (.failed writerClosed, [], p) := by
  rcases p with ⟨_, _, _, _, _⟩
  simp_all [write, standing]

theorem write_nothing (free : p.offer = none) (there : p.readClosed = false)
    (opened : p.writeClosed = false) : p.write task [] = (.ok 0, [], p) := by
  rcases p with ⟨_, _, _, _, _⟩
  simp_all [write, standing]

def afterWriter (act : Act) : Pipe :=
  match act with
  | .write data => (p.write task data).2.2
  | .close | .release => p.closeWrite.2
  | _ => p

def afterReader (act : Act) : Pipe :=
  match act with
  | .read room => (p.read task room).2.2
  | .release => p.closeRead.2
  | _ => p

@[simp] theorem afterWriter_readClosed (act : Act) :
    (p.afterWriter task act).readClosed = p.readClosed := by
  cases act with
  | write data =>
    simp only [afterWriter, write]
    split <;> (repeat' split) <;> rfl
  | _ => rfl

@[simp] theorem afterWriter_writeClosed (act : Act) :
    (p.afterWriter task act).writeClosed =
      (p.writeClosed || act = .close || act = .release) := by
  cases act with
  | write data =>
    simp only [afterWriter, write]
    split <;> (repeat' split) <;> simp [wakeReader]
  | _ => simp [afterWriter, closeWrite, wakeReader]

@[simp] theorem afterReader_writeClosed (act : Act) :
    (p.afterReader task act).writeClosed = p.writeClosed := by
  cases act with
  | read room =>
    simp only [afterReader, read]
    repeat' split
    all_goals rfl
  | _ => rfl

@[simp] theorem afterReader_readClosed (act : Act) :
    (p.afterReader task act).readClosed = (p.readClosed || act = .release) := by
  cases act with
  | read room =>
    simp only [afterReader, read]
    repeat' split
    all_goals simp [wakeWriter]
  | _ => simp [afterReader, closeRead, wakeWriter]

def Kept (ask : Option Act) : Prop :=
  ∀ o, p.offer = some o → ask = some (.write o.data) ∧ o.data ≠ [] ∧ p.writeClosed = false

variable {p}

theorem Kept.of_free (free : p.offer = none) (ask : Option Act) : p.Kept ask := by
  intro o offered
  simp [free] at offered

theorem offer_afterReader (act : Act) :
    (p.afterReader task act).offer.map Offer.data = p.offer.map Offer.data := by
  -- A read moves bytes within the offer, from those unread to those taken.
  cases act with
  | read room =>
    by_cases space : room = 0
    · simp [afterReader, read, space]
    · rcases h : p.offer with _ | ⟨taken, _ | ⟨b, unread⟩⟩
      · simp only [afterReader, read, space, if_false, h]
        split <;> simp [h]
      · simp only [afterReader, read, space, if_false, h]
        split <;> simp [h]
      · simp [afterReader, (read_available task p space h).2, Offer.data]
  | _ => rfl

theorem Kept.afterReader {ask : Option Act} (kept : p.Kept ask) (act : Act) :
    (p.afterReader task act).Kept ask := by
  intro o offered
  have same := offer_afterReader (p := p) task act
  rw [offered, Option.map_some] at same
  obtain ⟨o', before, data⟩ := Option.map_eq_some_iff.1 same.symm
  obtain ⟨asked, content, opened⟩ := kept o' before
  rw [data] at asked content
  exact ⟨asked, content, by simpa using opened⟩

def ahead (p : Pipe) : Bytes :=
  match p.offer with
  | none => []
  | some o => o.taken

theorem ahead_of_free (free : p.offer = none) : p.ahead = [] := by
  simp [ahead, free]

theorem available_of_free (free : p.offer = none) : p.available = [] := by
  simp [available, free]

theorem Kept.data_eq {ask : Option Act} (kept : p.Kept ask) (something : p.offer ≠ none) :
    ask = some (.write (p.ahead ++ p.available)) := by
  obtain ⟨o, offered⟩ := Option.ne_none_iff_exists'.1 something
  simpa [ahead, available, offered, Offer.data] using (kept o offered).1

theorem Kept.free {ask : Option Act} (kept : p.Kept ask)
    (other : ∀ data, ask ≠ some (.write data)) : p.offer = none := by
  rcases h : p.offer with _ | o
  · rfl
  · exact absurd (kept o h).1 (other o.data)

theorem offer_of_available (something : p.available ≠ []) :
    ∃ taken b unread, p.offer = some ⟨taken, b :: unread⟩ := by
  rcases p with ⟨_ | ⟨taken, _ | ⟨b, unread⟩⟩, _, _, _, _⟩
  · exact absurd rfl something
  · exact absurd rfl something
  · exact ⟨taken, b, unread, rfl⟩

theorem read_cases {room : Nat} (space : room ≠ 0) :
    (∃ taken b unread, p.offer = some ⟨taken, b :: unread⟩ ∧
      (p.read task room).1 = .ok ((b :: unread).take room) ∧
      (p.read task room).2.2.offer =
        some ⟨taken ++ (b :: unread).take room, (b :: unread).drop room⟩) ∨
    (p.available = [] ∧ p.writeClosed = true ∧ p.read task room = (.ok [], [], p)) ∨
    (p.available = [] ∧ p.writeClosed = false ∧
      p.read task room = (.pending, [], { p with reader := some task })) := by
  by_cases nothing : p.available = []
  · rcases Bool.eq_false_or_eq_true p.writeClosed with closed | opened
    · exact .inr (.inl ⟨nothing, closed, read_closed task p space nothing closed⟩)
    · exact .inr (.inr ⟨nothing, opened, read_waiting task p space nothing opened⟩)
  · obtain ⟨taken, b, unread, offered⟩ := offer_of_available nothing
    exact .inl ⟨taken, b, unread, offered, read_available task p space offered⟩

theorem Kept.write_cases {data : Bytes} (kept : p.Kept (some (.write data)))
    (content : data ≠ []) :
    (p.offer = some ⟨data, []⟩ ∧
      p.write task data = (.ok data.length, [], { p with offer := none })) ∨
    (∃ taken b unread, p.offer = some ⟨taken, b :: unread⟩ ∧ taken ++ b :: unread = data ∧
      p.writeClosed = false ∧
      (p.readClosed = true ∧ p.write task data = (.failed readerGone, [], p) ∨
        p.readClosed = false ∧
          p.write task data = (.pending, [], { p with writer := some task }))) ∨
    (p.offer = none ∧
      (p.readClosed = true ∧ p.write task data = (.failed readerGone, [], p) ∨
        p.readClosed = false ∧ p.writeClosed = true ∧
          p.write task data = (.failed writerClosed, [], p) ∨
        p.readClosed = false ∧ p.writeClosed = false ∧
          p.write task data = (.pending, p.reader.toList,
            { p with offer := some ⟨[], data⟩, reader := none, writer := some task }))) := by
  -- The offer of another write would be replaced or left alone; `kept` leaves only one's own.
  rcases Option.eq_none_or_eq_some p.offer with free | ⟨⟨taken, unread⟩, offered⟩
  · refine .inr (.inr ⟨free, ?_⟩)
    rcases Bool.eq_false_or_eq_true p.readClosed with gone | there
    · exact .inl ⟨gone, write_free_gone task p data free gone⟩
    · rcases Bool.eq_false_or_eq_true p.writeClosed with closed | opened
      · exact .inr (.inl ⟨there, closed, write_free_closed task p data free there closed⟩)
      · exact .inr (.inr ⟨there, opened, write_placed task p content free there opened⟩)
  · obtain ⟨asked, _, opened⟩ := kept _ offered
    obtain rfl : data = taken ++ unread := by simpa [Offer.data] using asked
    cases unread with
    | nil =>
      rw [List.append_nil]
      exact .inl ⟨offered, write_taken task p offered⟩
    | cons b unread =>
      refine .inr (.inl ⟨taken, b, unread, offered, rfl, opened, ?_⟩)
      rcases Bool.eq_false_or_eq_true p.readClosed with gone | there
      · exact .inl ⟨gone, write_standing_gone task p offered (by simp) gone⟩
      · exact .inr ⟨there, write_standing task p offered (by simp) there opened⟩

end Pipe

def sight (task : Task) (act : Act) (outbound inbound : Pipe) : Sight :=
  match act with
  | .read room => Sight.ofPoll .data (inbound.read task room).1
  | .write data => Sight.ofPoll .count (outbound.write task data).1
  | .flush | .close => .done
  | .release => .released

@[simp] theorem Link.forth_collect (l : Link) : l.collect.2.forth = l.forth := rfl

@[simp] theorem Link.back_collect (l : Link) : l.collect.2.back = l.back := rfl

section Terminal

variable (task : Task) (act : Act) (side : Side) (l : Link)

theorem perform_sight :
    (act.perform task (⟨l⟩ : Terminal side)).1 =
      sight task act (l.outbound side) (l.inbound side) := by
  cases act <;> rfl

theorem outbound_perform :
    (act.perform task (⟨l⟩ : Terminal side)).2.link.outbound side =
      (l.outbound side).afterWriter task act := by
  cases side <;> cases act <;> rfl

theorem inbound_perform :
    (act.perform task (⟨l⟩ : Terminal side)).2.link.inbound side =
      (l.inbound side).afterReader task act := by
  cases side <;> cases act <;> rfl

end Terminal

theorem Pipe.Kept.sight_write_cases (task : Task) {data : Bytes} {p : Pipe}
    (kept : p.Kept (some (.write data))) (content : data ≠ []) (q : Pipe) :
    (p.offer = some ⟨data, []⟩ ∧ sight task (.write data) p q = .count data.length ∧
      (p.afterWriter task (.write data)).offer = none) ∨
    (∃ e, sight task (.write data) p q = .failed e ∧ p.afterWriter task (.write data) = p ∧
      (p.readClosed = true ∨ p.offer = none ∧ p.writeClosed = true) ∧
      p.ahead.length < data.length) ∨
    (sight task (.write data) p q = .pending ∧ data = p.ahead ++ p.available ∧
      p.available ≠ [] ∧ (p.afterWriter task (.write data)).offer = p.offer) ∨
    (sight task (.write data) p q = .pending ∧ p.offer = none ∧ p.writeClosed = false ∧
      (p.afterWriter task (.write data)).offer = some ⟨[], data⟩) := by
  have some_left := List.length_pos_iff.2 content
  obtain ⟨offered, write⟩ |
      ⟨taken, b, unread, offered, rfl, -, ⟨gone, write⟩ | ⟨-, write⟩⟩ |
      ⟨free, ⟨gone, write⟩ | ⟨-, closed, write⟩ | ⟨-, opened, write⟩⟩ :=
    kept.write_cases task content
  · refine .inl ⟨offered, ?_, by simp [afterWriter, write]⟩
    simp [sight, write, Poll.ok, Sight.ofPoll]
  · refine .inr (.inl ⟨readerGone, ?_, by simp [afterWriter, write], .inl gone, ?_⟩)
    · simp [sight, write, Poll.failed, Sight.ofPoll]
    · simp [ahead, offered]
  · refine .inr (.inr (.inl ⟨by simp [sight, write, Sight.ofPoll], ?_, ?_, ?_⟩))
    · simp [available, ahead, offered]
    · simp [available, offered]
    · simp [afterWriter, write]
  · refine .inr (.inl ⟨readerGone, ?_, by simp [afterWriter, write], .inl gone, ?_⟩)
    · simp [sight, write, Poll.failed, Sight.ofPoll]
    · simpa [ahead, free] using some_left
  · refine .inr (.inl ⟨writerClosed, ?_, by simp [afterWriter, write], .inr ⟨free, closed⟩, ?_⟩)
    · simp [sight, write, Poll.failed, Sight.ofPoll]
    · simpa [ahead, free] using some_left
  · refine .inr (.inr (.inr ⟨by simp [sight, write, Sight.ofPoll], free, opened, ?_⟩))
    simp [afterWriter, write]

theorem Pipe.Kept.waiting (task : Task) {act : Act} {p q : Pipe} (kept : p.Kept (some act))
    (proper : act.Proper) (waits : sight task act p q = .pending) :
    (p.afterWriter task act).Kept (some act) := by
  cases act with
  | write data =>
    have content : data ≠ [] := proper
    obtain ⟨-, shown, -⟩ | ⟨e, shown, -⟩ | ⟨-, -, -, same⟩ | ⟨-, -, opened, placed⟩ :=
      kept.sight_write_cases task content q
    · simp [shown] at waits
    · simp [shown] at waits
    · intro o offered
      rw [same] at offered
      simpa using kept o offered
    · intro o offered
      obtain rfl := Option.some.inj (placed.symm.trans offered)
      simpa [Offer.data, opened] using content
  | read room => exact kept
  | _ => simp [sight] at waits

theorem Pipe.Kept.moved (task : Task) {act : Act} {p q : Pipe} (kept : p.Kept (some act))
    (proper : act.Proper) (moves : sight task act p q ≠ .pending)
    (there : p.readClosed = false ∨ ∀ e, sight task act p q ≠ .failed e) :
    (p.afterWriter task act).offer = none := by
  cases act with
  | write data =>
    obtain ⟨-, -, free⟩ | ⟨e, shown, same, shut, -⟩ | ⟨shown, -⟩ | ⟨shown, -⟩ :=
      kept.sight_write_cases task proper q
    · exact free
    · rw [same]
      -- A write that fails leaves its offer behind only if the reader has left it.
      obtain gone | ⟨free, -⟩ := shut
      · obtain there | fine := there
        · simp [there] at gone
        · exact absurd shown (fine e)
      · exact free
    · exact absurd shown moves
    · exact absurd shown moves
  | _ => exact kept.free (by simp)

theorem Pipe.Kept.write_whole (task : Task) {data : Bytes} {p q : Pipe}
    (kept : p.Kept (some (.write data))) (content : data ≠ []) {n : Nat}
    (done : sight task (.write data) p q = .count n) :
    p.offer = some ⟨data, []⟩ ∧ n = data.length ∧ p.writeClosed = false := by
  obtain ⟨offered, shown, -⟩ | ⟨e, shown, -⟩ | ⟨shown, -⟩ | ⟨shown, -⟩ :=
    kept.sight_write_cases task content q
  · obtain rfl : data.length = n := by simpa [shown] using done
    exact ⟨offered, rfl, (kept _ offered).2.2⟩
  all_goals simp [shown] at done

theorem Pipe.Kept.write_failed (task : Task) {data : Bytes} {p q : Pipe}
    (kept : p.Kept (some (.write data))) (content : data ≠ []) {e : Wire.Failure}
    (failed : sight task (.write data) p q = .failed e) :
    (p.readClosed = true ∨ p.writeClosed = true) ∧ p.ahead.length < data.length := by
  obtain ⟨-, shown, -⟩ | ⟨e', -, -, shut, short⟩ | ⟨shown, -⟩ | ⟨shown, -⟩ :=
    kept.sight_write_cases task content q
  · simp [shown] at failed
  · exact ⟨shut.imp id And.right, short⟩
  · simp [shown] at failed
  · simp [shown] at failed

theorem Pipe.Kept.write_pending (task : Task) {data : Bytes} {p q : Pipe}
    (kept : p.Kept (some (.write data))) (content : data ≠ [])
    (waits : sight task (.write data) p q = .pending) :
    (p.available ≠ [] ∧ data = p.ahead ++ p.available) ∨
    (p.offer = none ∧ (p.afterWriter task (.write data)).offer ≠ none) := by
  obtain ⟨-, shown, -⟩ | ⟨e, shown, -⟩ | ⟨-, whole, left, -⟩ | ⟨-, free, -, placed⟩ :=
    kept.sight_write_cases task content q
  · simp [shown] at waits
  · simp [shown] at waits
  · exact .inl ⟨left, whole⟩
  · exact .inr ⟨free, by simp [placed]⟩

theorem sight_read_cases (task : Task) {room : Nat} (space : room ≠ 0) (p q : Pipe) :
    (∃ found, found ≠ [] ∧ sight task (.read room) p q = .data found) ∨
    (q.available = [] ∧ q.writeClosed = true ∧ sight task (.read room) p q = .data []) ∨
    (q.available = [] ∧ q.writeClosed = false ∧ sight task (.read room) p q = .pending) := by
  obtain ⟨taken, b, unread, -, poll, -⟩ | ⟨nothing, closed, same⟩ | ⟨nothing, opened, same⟩ :=
    Pipe.read_cases (p := q) task space
  · refine .inl ⟨(b :: unread).take room, by simp [space], ?_⟩
    simp [sight, poll, Poll.ok, Sight.ofPoll]
  · exact .inr (.inl ⟨nothing, closed, by simp [sight, same, Poll.ok, Sight.ofPoll]⟩)
  · exact .inr (.inr ⟨nothing, opened, by simp [sight, same, Sight.ofPoll]⟩)

theorem Pipe.ahead_afterReader (task : Task) (act : Act) (p q : Pipe) :
    (q.afterReader task act).ahead = q.ahead ++ act.received (sight task act p q) := by
  cases act with
  | read room =>
    by_cases space : room = 0
    · simp [afterReader, read, space, sight, Act.received, Poll.ok, Sight.ofPoll]
    · obtain ⟨taken, b, unread, offered, poll, offer⟩ | ⟨-, -, same⟩ | ⟨-, -, same⟩ :=
        read_cases (p := q) task space
      · simp [afterReader, ahead, offer, offered, sight, poll, Act.received, Poll.ok, Sight.ofPoll]
      · simp [afterReader, same, sight, Act.received, Poll.ok, Sight.ofPoll]
      · simp [afterReader, ahead, same, sight, Act.received, Sight.ofPoll]
  | _ => simp [afterReader, closeRead, wakeWriter, ahead, Act.received]

theorem Pipe.available_afterReader (task : Task) (act : Act) (p q : Pipe) :
    q.available = act.received (sight task act p q) ++ (q.afterReader task act).available := by
  cases act with
  | read room =>
    by_cases space : room = 0
    · simp [afterReader, read, space, sight, Act.received, Poll.ok, Sight.ofPoll]
    · obtain ⟨taken, b, unread, offered, poll, offer⟩ | ⟨-, -, same⟩ | ⟨-, -, same⟩ :=
        read_cases (p := q) task space
      · simp [afterReader, available, offer, offered, sight, poll, Act.received, Poll.ok,
          Sight.ofPoll]
      · simp [afterReader, same, sight, Act.received, Poll.ok, Sight.ofPoll]
      · simp [afterReader, available, same, sight, Act.received, Sight.ofPoll]
  | _ => simp [afterReader, closeRead, wakeWriter, available, Act.received]

theorem Pipe.write_nothing_cases (task : Task) {p : Pipe} (free : p.offer = none) (q : Pipe) :
    (p.afterWriter task (.write [])).offer = none ∧
      (sight task (.write []) p q = .count 0 ∨ ∃ e, sight task (.write []) p q = .failed e) := by
  rcases Bool.eq_false_or_eq_true p.readClosed with gone | there
  · have write := write_free_gone task p [] free gone
    refine ⟨by simp [afterWriter, write, free], .inr ⟨readerGone, ?_⟩⟩
    simp [sight, write, Poll.failed, Sight.ofPoll]
  · rcases Bool.eq_false_or_eq_true p.writeClosed with closed | opened
    · have write := write_free_closed task p [] free there closed
      refine ⟨by simp [afterWriter, write, free], .inr ⟨writerClosed, ?_⟩⟩
      simp [sight, write, Poll.failed, Sight.ofPoll]
    · have write := write_nothing task p free there opened
      refine ⟨by simp [afterWriter, write, free], .inl ?_⟩
      simp [sight, write, Poll.ok, Sight.ofPoll]

theorem Pipe.Kept.free_of_nothing {p : Pipe} (kept : p.Kept (some (.write []))) :
    p.offer = none := by
  rcases Option.eq_none_or_eq_some p.offer with free | ⟨o, offered⟩
  · exact free
  · obtain ⟨asked, content, -⟩ := kept o offered
    have same : [] = o.data := by simpa using asked
    exact absurd same.symm content

theorem Pipe.Kept.ahead_afterWriter (task : Task) {act : Act} {p : Pipe} (kept : p.Kept (some act))
    (q : Pipe) : p.ahead = act.sent (sight task act p q) ++ (p.afterWriter task act).ahead := by
  cases act with
  | write data =>
    by_cases content : data = []
    · subst content
      have free := kept.free_of_nothing
      have nothing : (Act.write []).sent (sight task (.write []) p q) = [] := by
        cases sight task (.write []) p q <;> simp [Act.sent]
      rw [nothing, ahead_of_free free, ahead_of_free (write_nothing_cases task free q).1]
      rfl
    · -- A write is told of the bytes that were taken all at once, when there are no more of them.
      obtain ⟨offered, shown, free⟩ | ⟨e, shown, same, -⟩ | ⟨shown, -, -, same⟩ |
          ⟨shown, free, -, placed⟩ := kept.sight_write_cases task content q
      · simp [ahead, offered, shown, free, Act.sent]
      · simp [shown, same, Act.sent]
      · simp [ahead, shown, same, Act.sent]
      · simp [ahead, shown, free, placed, Act.sent]
  | _ => simp [afterWriter, closeWrite, wakeReader, ahead, Act.sent]

theorem Pipe.length_read_le (task : Task) (room : Nat) (p : Pipe) {found : Bytes}
    (read : (p.read task room).1 = .ready (.ok found)) : found.length ≤ room := by
  by_cases space : room = 0
  · obtain rfl : [] = found := by simpa [Pipe.read, space, Poll.ok] using read
    exact Nat.zero_le room
  · obtain ⟨taken, b, unread, -, poll, -⟩ | ⟨-, -, poll⟩ | ⟨-, -, poll⟩ :=
      Pipe.read_cases (p := p) task space
    · obtain rfl : (b :: unread).take room = found := by simpa [poll, Poll.ok] using read
      exact List.length_take_le room _
    · obtain rfl : [] = found := by simpa [poll, Poll.ok] using read
      exact Nat.zero_le room
    · simp [poll] at read

theorem Pipe.write_le (task : Task) (data : Bytes) (p : Pipe) {n : Nat}
    (write : (p.write task data).1 = .ready (.ok n)) : n ≤ data.length := by
  unfold Pipe.write at write
  split at write
  · rename_i taken standing
    have own : taken = data := by
      simpa [Offer.data] using (Option.filter_eq_some_iff.1 standing).2
    obtain rfl : taken.length = n := by simpa [Poll.ok] using write
    exact Nat.le_of_eq (congrArg List.length own)
  · repeat' split at write
    all_goals simp [Poll.failed] at write
  · cases gone : p.readClosed <;> cases closed : p.writeClosed <;> by_cases nothing : data = [] <;>
      simp [Poll.failed, Poll.ok, gone, closed, nothing] at write
    omega

instance (side : Side) : Wire.LawfulTransport (Terminal side) where
  length_read_le task room _ _ _ read := Pipe.length_read_le task room _ (congrArg Prod.fst read)
  write_le task data _ _ _ write := Pipe.write_le task data _ (congrArg Prod.fst write)

theorem admits_sight (task : Task) (act : Act) (p q : Pipe) :
    act.Admits (sight task act p q) := by
  have admits := act.admits_perform task (⟨⟨p, q, []⟩⟩ : Terminal .a)
  rwa [perform_sight] at admits

end WireScript.Rendezvous
