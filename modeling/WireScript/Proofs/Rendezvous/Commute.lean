import WireScript.Proofs.Rendezvous.Pipe

set_option autoImplicit false

namespace WireScript.Rendezvous

open Wire (Act Sight Task)

namespace Pipe

-- What still matters of a pipe: not who waits at it, and of an offer whose reader is gone only
-- whether all of it was taken.
def outlook (p : Pipe) : Option Offer × Bool × Bool :=
  (if p.readClosed then p.offer.filter (fun o => o.unread = []) else p.offer,
    p.writeClosed, p.readClosed)

theorem outlook_closeWrite (p : Pipe) :
    p.closeWrite.2.outlook = (p.outlook.1, true, p.outlook.2.2) := rfl

theorem outlook_closeRead (p : Pipe) :
    p.closeRead.2.outlook = (p.offer.filter (fun o => o.unread = []), p.writeClosed, true) := rfl

theorem outlook_reader (p : Pipe) (task : Option Task) :
    { p with reader := task }.outlook = p.outlook := rfl

theorem outlook_writer (p : Pipe) (task : Option Task) :
    { p with writer := task }.outlook = p.outlook := rfl

section Congruence

variable (task : Task) {p q : Pipe}

theorem offer_eq_of_outlook (same : p.outlook = q.outlook) (there : p.readClosed = false) :
    p.offer = q.offer := by
  simp only [outlook, Prod.mk.injEq] at same
  obtain ⟨offers, -, ends⟩ := same
  simpa [there, ← ends] using offers

theorem read_congr (same : p.outlook = q.outlook) (there : p.readClosed = false) (room : Nat) :
    (p.read task room).1 = (q.read task room).1 ∧
      (p.read task room).2.2.outlook = (q.read task room).2.2.outlook := by
  have offers := offer_eq_of_outlook same there
  rcases p with ⟨offer, wc, rc, reader, writer⟩
  rcases q with ⟨offer', wc', rc', reader', writer'⟩
  simp only [outlook, Prod.mk.injEq] at same there offers
  obtain ⟨-, rfl, rfl⟩ := same
  subst offers there
  simp only [read]
  repeat' split
  all_goals simp [outlook, wakeWriter]

theorem write_gone (gone : p.readClosed = true) (data : Bytes) :
    (p.write task data).1 =
        (if p.outlook.1 = some ⟨data, []⟩ then .ok data.length else .failed readerGone) ∧
      (p.write task data).2.2.outlook = (none, p.writeClosed, true) := by
  -- Without a reader, all that counts is whether this very write was taken before.
  rcases p with ⟨_ | ⟨taken, unread⟩, wc, rc, reader, writer⟩
  · simp_all [write, standing, outlook]
  · by_cases own : taken ++ unread = data
    · cases unread <;> simp_all [write, standing, outlook, Offer.data, Option.filter_some]
    · cases unread <;> simp_all [write, standing, outlook, Offer.data, Option.filter_some]

theorem write_congr (same : p.outlook = q.outlook) (data : Bytes) :
    (p.write task data).1 = (q.write task data).1 ∧
      (p.write task data).2.2.outlook = (q.write task data).2.2.outlook := by
  have ends : p.writeClosed = q.writeClosed ∧ p.readClosed = q.readClosed := by
    simp_all [outlook]
  rcases Bool.eq_false_or_eq_true p.readClosed with gone | there
  · obtain ⟨poll, left⟩ := write_gone task gone data
    obtain ⟨poll', left'⟩ := write_gone task (ends.2 ▸ gone) data
    exact ⟨by rw [poll, poll', same], by rw [left, left', ends.1]⟩
  · have offers := offer_eq_of_outlook same there
    rcases p with ⟨offer, wc, rc, reader, writer⟩
    rcases q with ⟨offer', wc', rc', reader', writer'⟩
    simp only at ends offers there
    obtain ⟨rfl, rfl⟩ := ends
    subst offers there
    simp only [write, standing]
    repeat' split
    all_goals simp [outlook, wakeReader]

theorem afterWriter_congr (same : p.outlook = q.outlook) (act : Act) :
    (p.afterWriter task act).outlook = (q.afterWriter task act).outlook := by
  cases act with
  | write data => exact (write_congr task same data).2
  | close | release => simp only [afterWriter, outlook_closeWrite, same]
  | _ => exact same

theorem afterReader_congr (same : p.outlook = q.outlook) (there : p.readClosed = false)
    (act : Act) : (p.afterReader task act).outlook = (q.afterReader task act).outlook := by
  cases act with
  | read room => exact (read_congr task same there room).2
  | release =>
    have offers := offer_eq_of_outlook same there
    have closed : p.writeClosed = q.writeClosed := congrArg (·.2.1) same
    simp only [afterReader, outlook_closeRead, offers, closed]
  | _ => exact same

end Congruence

section Diamond

variable (tw tr : Task) {p : Pipe}

theorem write_read {data : Bytes} {room : Nat} (kept : p.Kept (some (.write data)))
    (content : data ≠ []) (space : room ≠ 0) (there : p.readClosed = false) :
    ((p.read tr room).1 = .pending ∧ (p.read tr room).2.2.outlook = p.outlook) ∨
    ((p.write tw data).1 = .pending ∧ (p.write tw data).2.2.outlook = p.outlook) ∨
    (((p.read tr room).2.2.write tw data).1 = (p.write tw data).1 ∧
      ((p.write tw data).2.2.read tr room).1 = (p.read tr room).1 ∧
      ((p.write tw data).2.2.read tr room).2.2.outlook =
        ((p.read tr room).2.2.write tw data).2.2.outlook) := by
  -- The write waits while there is anything to read, and the read while there is not, unless the
  -- pipe is closed; then both are answered at once and change nothing.
  obtain ⟨taken, b, unread, offered, -⟩ | ⟨-, closed, read⟩ | ⟨-, -, read⟩ :=
    read_cases (p := p) tr space
  · obtain ⟨asked, -, opened⟩ := kept _ offered
    obtain rfl : data = taken ++ b :: unread := by simpa [Offer.data] using asked
    have write := write_standing tw p offered (by simp) there opened
    simp only [Offer.data] at write
    exact .inr (.inl (by simp [write, outlook_writer]))
  · have free : p.offer = none := by
      rcases Option.eq_none_or_eq_some p.offer with free | ⟨o, offered⟩
      · exact free
      · simp [(kept o offered).2.2] at closed
    have write := write_free_closed tw p data free there closed
    exact .inr (.inr (by simp [read, write]))
  · exact .inl (by simp [read, outlook_reader])

theorem write_closeRead {data : Bytes} (kept : p.Kept (some (.write data))) (content : data ≠ [])
    (there : p.readClosed = false) (opened : p.writeClosed = false) :
    ((p.write tw data).1 = .pending ∧
      (p.write tw data).2.2.closeRead.2.outlook = p.closeRead.2.outlook) ∨
    ((p.closeRead.2.write tw data).1 = (p.write tw data).1 ∧
      (p.write tw data).2.2.closeRead.2.outlook = (p.closeRead.2.write tw data).2.2.outlook) := by
  -- A write that was taken is done, reader or not. Any other one waits, and once the reader is gone
  -- it does not matter whether it was ever made.
  obtain ⟨offered, write⟩ |
      ⟨taken, b, unread, offered, rfl, -, ⟨gone, -⟩ | ⟨-, write⟩⟩ |
      ⟨free, ⟨gone, -⟩ | ⟨-, closed, -⟩ | ⟨-, -, write⟩⟩ := kept.write_cases tw content
  · have after := write_taken tw p.closeRead.2 offered
    exact .inr ⟨by rw [write, after], by rw [write, after]; rfl⟩
  · simp [there] at gone
  · exact .inl ⟨by rw [write], by rw [write]; rfl⟩
  · simp [there] at gone
  · simp [opened] at closed
  · -- The offer is placed and left at once; in the outlook that is as if it had not been.
    refine .inl ⟨by rw [write], ?_⟩
    simp [write, outlook_closeRead, free, content, Option.filter_some]

theorem closeWrite_read {room : Nat} (free : p.offer = none) (space : room ≠ 0) :
    ((p.read tr room).1 = .pending ∧ (p.read tr room).2.2.outlook = p.outlook) ∨
    ((p.closeWrite.2.read tr room).1 = (p.read tr room).1 ∧
      (p.closeWrite.2.read tr room).2.2.outlook = (p.read tr room).2.2.closeWrite.2.outlook) := by
  obtain ⟨taken, b, unread, offered, -⟩ | ⟨nothing, closed, read⟩ | ⟨-, -, read⟩ :=
    read_cases (p := p) tr space
  · simp [free] at offered
  · have after := read_closed tr p.closeWrite.2 space nothing rfl
    exact .inr (by simp [read, after])
  · exact .inl (by simp [read, outlook_reader])

end Diamond

end Pipe

theorem sight_congr (task : Task) (act : Act) {p p' q q' : Pipe} (out : p.outlook = p'.outlook)
    (inn : q.outlook = q'.outlook) (there : q.readClosed = false) :
    sight task act p q = sight task act p' q' := by
  cases act with
  | read room => simp only [sight, (Pipe.read_congr task inn there room).1]
  | write data => simp only [sight, (Pipe.write_congr task out data).1]
  | _ => rfl

section Diamond

variable (tx ty : Task) {x y : Act} {f b : Pipe}

def Idle (task : Task) (act : Act) (outbound inbound : Pipe) : Prop :=
  sight task act outbound inbound = .pending ∧
    (outbound.afterWriter task act).outlook = outbound.outlook ∧
    (inbound.afterReader task act).outlook = inbound.outlook

-- The two operations are made on the two ends of a channel, whose pipes are `f` and `b` from where
-- `x` is made.
def Commute (x y : Act) (f b : Pipe) : Prop :=
  sight tx x (f.afterReader ty y) (b.afterWriter ty y) = sight tx x f b ∧
    sight ty y (b.afterReader tx x) (f.afterWriter tx x) = sight ty y b f ∧
    ((f.afterWriter tx x).afterReader ty y).outlook =
      ((f.afterReader ty y).afterWriter tx x).outlook ∧
    ((b.afterReader tx x).afterWriter ty y).outlook =
      ((b.afterWriter ty y).afterReader tx x).outlook

def Void (x y : Act) (f b : Pipe) : Prop :=
  sight tx x f b = .pending ∧
    sight ty y (b.afterReader tx x) (f.afterWriter tx x) = sight ty y b f ∧
    ((f.afterWriter tx x).afterReader ty y).outlook = (f.afterReader ty y).outlook ∧
    ((b.afterReader tx x).afterWriter ty y).outlook = (b.afterWriter ty y).outlook

theorem idle_read {room : Nat} (waits : (b.read tx room).1 = .pending)
    (same : (b.read tx room).2.2.outlook = b.outlook) : Idle tx (.read room) f b :=
  ⟨by simp [sight, waits, Sight.ofPoll], rfl, same⟩

theorem idle_write {data : Bytes} (waits : (f.write tx data).1 = .pending)
    (same : (f.write tx data).2.2.outlook = f.outlook) : Idle tx (.write data) f b :=
  ⟨by simp [sight, waits, Sight.ofPoll], same, rfl⟩

theorem diamond (keptx : f.Kept (some x)) (kepty : b.Kept (some y)) (properx : x.Proper)
    (propery : y.Proper) (open' : f.writeClosed = false) (therex : b.readClosed = false)
    (therey : f.readClosed = false) (stays : x ≠ .close ∧ x ≠ .release) :
    Idle tx x f b ∨ Idle ty y b f ∨ Commute tx ty x y f b ∨ Void tx ty x y f b := by
  -- Operations on different pipes commute. On one pipe a write meets a read, a read meets the end
  -- of the writing, or a write meets the end of the reading.
  cases x with
  | close => exact absurd rfl stays.1
  | release => exact absurd rfl stays.2
  | flush => exact .inr (.inr (.inl ⟨rfl, rfl, rfl, rfl⟩))
  | read room =>
    cases y with
    | read _ | flush => exact .inr (.inr (.inl ⟨rfl, rfl, rfl, rfl⟩))
    | write data =>
      obtain ⟨waits, same⟩ | ⟨waits, same⟩ | ⟨write, read, same⟩ :=
        Pipe.write_read ty tx kepty propery properx therex
      · exact .inl (idle_read tx waits same)
      · exact .inr (.inl (idle_write ty waits same))
      · refine .inr (.inr (.inl ⟨?_, ?_, rfl, same.symm⟩))
        · simp only [sight, Pipe.afterWriter, read]
        · simp only [sight, Pipe.afterReader, write]
    | close | release =>
      obtain ⟨waits, same⟩ | ⟨read, same⟩ :=
        Pipe.closeWrite_read tx (kepty.free (by simp)) properx
      · exact .inl (idle_read tx waits same)
      · refine .inr (.inr (.inl ⟨?_, rfl, rfl, same.symm⟩))
        simp only [sight, Pipe.afterWriter, read]
  | write data =>
    cases y with
    | write _ | flush | close => exact .inr (.inr (.inl ⟨rfl, rfl, rfl, rfl⟩))
    | read room =>
      obtain ⟨waits, same⟩ | ⟨waits, same⟩ | ⟨write, read, same⟩ :=
        Pipe.write_read tx ty keptx properx propery therey
      · exact .inr (.inl (idle_read ty waits same))
      · exact .inl (idle_write tx waits same)
      · refine .inr (.inr (.inl ⟨?_, ?_, same, rfl⟩))
        · simp only [sight, Pipe.afterReader, write]
        · simp only [sight, Pipe.afterWriter, read]
    | release =>
      obtain ⟨waits, same⟩ | ⟨write, same⟩ :=
        Pipe.write_closeRead tx keptx properx therey open'
      · exact .inr (.inr (.inr ⟨by simp [sight, waits, Sight.ofPoll], rfl, same, rfl⟩))
      · refine .inr (.inr (.inl ⟨?_, rfl, same, rfl⟩))
        simp only [sight, Pipe.afterReader, write]

end Diamond

end WireScript.Rendezvous
