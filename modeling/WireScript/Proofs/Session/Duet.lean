import WireScript.Proofs.Recording.Traffic
import WireScript.Proofs.Rendezvous.Pipe
import WireScript.Rendezvous.History

set_option autoImplicit false

namespace WireScript.Session

open Recording (Log Tap)
open Rendezvous (Link Move Pipe Side Terminal sight)
open Wire (Act Sight Task)

def awaited : Act → Sight → Option Bytes
  | .write data, .pending => some data
  | _, _ => none

def writeFails : Act → Sight → Bool
  | .write _, .failed _ => true
  | _, _ => false

structure Duet where
  link : Link
  log : Side → Log
  writing : Side → Option Bytes
  /-- Whether a write has failed or was given up. -/
  broken : Bool

namespace Duet

def start : Duet := ⟨.fresh, fun _ => .fresh, fun _ => none, false⟩

def play (d : Duet) (m : Move) : Duet :=
  if d.link.isDropped m.side then d
  else
    let (sight, tap) := m.act.perform m.task (⟨d.log m.side, ⟨d.link⟩⟩ : Tap (Terminal m.side))
    { link := tap.inner.link
      log := fun side => if side = m.side then tap.log else d.log side
      writing := fun side => if side = m.side then awaited m.act sight else d.writing side
      broken := d.broken || (d.writing m.side).any (fun data => m.act ≠ .write data) ||
        writeFails m.act sight }

def run (d : Duet) (moves : List Move) : Duet := moves.foldl play d

def Complete (d : Duet) : Prop := d.broken = false ∧ ∀ side, d.writing side = none

theorem play_dropped {d : Duet} {m : Move} (gone : d.link.isDropped m.side) : d.play m = d := by
  simp [play, gone]

variable {d : Duet} {m : Move}

def shows (d : Duet) (m : Move) : Sight :=
  sight m.task m.act (d.link.outbound m.side) (d.link.inbound m.side)

theorem play_there (there : ¬ d.link.isDropped m.side) :
    (d.play m).link.outbound m.side = (d.link.outbound m.side).afterWriter m.task m.act ∧
    (d.play m).link.inbound m.side = (d.link.inbound m.side).afterReader m.task m.act ∧
    (d.play m).log m.side = (d.log m.side).note m.act (d.shows m) ∧
    (d.play m).writing m.side = awaited m.act (d.shows m) ∧
    (d.play m).broken = (d.broken || (d.writing m.side).any (fun data => m.act ≠ .write data) ||
      writeFails m.act (d.shows m)) := by
  simp only [play, there, Bool.false_eq_true, if_false, Tap.perform_eq, if_true,
    Rendezvous.perform_sight, Rendezvous.outbound_perform, Rendezvous.inbound_perform, shows,
    and_self]

theorem play_other : (d.play m).log m.side.other = d.log m.side.other ∧
    (d.play m).writing m.side.other = d.writing m.side.other := by
  by_cases gone : d.link.isDropped m.side
  · rw [play_dropped gone]
    exact ⟨rfl, rfl⟩
  · have differ : m.side.other ≠ m.side := by cases m.side <;> decide
    simp [play, gone, differ]

theorem broken_of_play (whole : (d.play m).broken = false) : d.broken = false := by
  by_cases gone : d.link.isDropped m.side
  · rwa [play_dropped gone] at whole
  · rw [(play_there gone).2.2.2.2] at whole
    cases broken : d.broken with
    | false => rfl
    | true => simp [broken] at whole

theorem broken_of_run (moves : List Move) (whole : (d.run moves).broken = false) :
    d.broken = false := by
  induction moves generalizing d with
  | nil => exact whole
  | cons m moves ih => exact broken_of_play (ih whole)

def Kept (d : Duet) : Prop := ∀ side, (d.link.outbound side).Kept ((d.writing side).map .write)

theorem kept_afterWriter (task : Task) {act : Act} {p q : Pipe} (kept : p.Kept (some act))
    (fine : writeFails act (sight task act p q) = false) :
    (p.afterWriter task act).Kept ((awaited act (sight task act p q)).map .write) := by
  cases act with
  | write data =>
    by_cases content : data = []
    · subst content
      exact .of_free (Pipe.write_nothing_cases task kept.free_of_nothing q).1 _
    · by_cases waits : sight task (.write data) p q = .pending
      · simpa [awaited, waits] using kept.waiting task content waits
      · refine .of_free (kept.moved task content waits (.inr ?_)) _
        intro e failed
        simp [writeFails, failed] at fine
  | _ =>
    apply Pipe.Kept.of_free
    exact kept.free (by simp)

theorem kept_start : start.Kept := by
  intro side
  cases side <;> exact Pipe.Kept.of_free rfl _

theorem Kept.asking (kept : d.Kept) (there : ¬ d.link.isDropped m.side)
    (whole : (d.play m).broken = false) : (d.link.outbound m.side).Kept (some m.act) := by
  have before := kept m.side
  cases writing : d.writing m.side with
  | none =>
    rw [writing] at before
    exact .of_free (before.free (by simp)) _
  | some data =>
    rw [(play_there there).2.2.2.2, writing] at whole
    have same : m.act = .write data := by
      by_cases same : m.act = .write data
      · exact same
      · simp [same] at whole
    rwa [writing, Option.map_some, ← same] at before

theorem Kept.play (kept : d.Kept) (whole : (d.play m).broken = false) : (d.play m).Kept := by
  by_cases gone : d.link.isDropped m.side
  · rwa [play_dropped gone]
  · obtain ⟨outbound, inbound, -, writing, broken⟩ := play_there gone
    have asking := kept.asking gone whole
    intro side
    obtain rfl | rfl : side = m.side ∨ side = m.side.other := by
      cases side <;> cases m.side <;> simp [Side.other]
    · -- The mover's own write stands or is done; the other end only has its bytes moved.
      rw [outbound, writing]
      apply kept_afterWriter m.task asking
      cases fails : writeFails m.act (d.shows m) with
      | false => exact fails
      | true => simp [broken, fails] at whole
    · have after := (kept m.side.other).afterReader m.task m.act
      rw [show d.link.outbound m.side.other = d.link.inbound m.side from rfl, ← inbound] at after
      rw [play_other.2]
      exact after

def view (iut side : Side) : Perspective := if side = iut then .iut else .peer

theorem view_other (iut side : Side) :
    (view iut side.other).direction .sent = (view iut side).direction .received := by
  cases iut <;> cases side <;> rfl

-- What an end has logged, and what it would log if its write were done as far as it was taken.
def total (iut : Side) (d : Duet) (side : Side) : Traffic :=
  (d.log side).traffic (view iut side) ++
    ((view iut side).direction .sent).mark (d.link.outbound side).ahead

theorem Kept.total_play (kept : d.Kept) (whole : (d.play m).broken = false) (iut : Side) :
    ∃ added, ∀ side, (d.play m).total iut side = d.total iut side ++ added := by
  by_cases gone : d.link.isDropped m.side
  · refine ⟨[], ?_⟩
    intro side
    rw [play_dropped gone, List.append_nil]
  · obtain ⟨outbound, inbound, log, -, -⟩ := play_there gone
    have asking := kept.asking gone whole
    have behind : (d.link.outbound m.side).ahead =
        m.act.sent (d.shows m) ++ ((d.play m).link.outbound m.side).ahead := by
      rw [outbound]
      exact asking.ahead_afterWriter m.task (d.link.inbound m.side)
    have ahead : ((d.play m).link.outbound m.side.other).ahead =
        (d.link.outbound m.side.other).ahead ++ m.act.received (d.shows m) := by
      rw [show (d.play m).link.outbound m.side.other = _ from inbound]
      exact Pipe.ahead_afterReader m.task m.act (d.link.outbound m.side) (d.link.inbound m.side)
    -- Both totals grow by the bytes that were read: the reader logs them, and the writer is behind
    -- by them.
    refine ⟨((view iut m.side).direction .received).mark (m.act.received (d.shows m)), ?_⟩
    intro side
    obtain rfl | rfl : side = m.side ∨ side = m.side.other := by
      cases side <;> cases m.side <;> simp [Side.other]
    · -- An end that reads has nothing of its own on the channel.
      have apart : m.act.received (d.shows m) = [] ∨
          ((d.play m).link.outbound m.side).ahead = [] := by
        cases act : m.act with
        | read room =>
          right
          rw [act] at asking
          rw [outbound, act]
          exact Pipe.ahead_of_free (asking.free (by simp))
        | _ => exact .inl rfl
      rw [total, total, log, Log.traffic_note, behind]
      obtain nothing | nothing := apart
      · simp [Recording.carried, nothing]
      · simp [Recording.carried, nothing]
    · rw [total, total, play_other.1, view_other, ahead, Direction.mark_append, List.append_assoc]

theorem total_run (iut : Side) (moves : List Move) (kept : d.Kept)
    (same : ∀ side, d.total iut side = d.total iut side.other)
    (whole : (d.run moves).broken = false) :
    (d.run moves).Kept ∧
      ∀ side, (d.run moves).total iut side = (d.run moves).total iut side.other := by
  -- A write that is lost later makes `whole` false, so that none has been lost so far.
  induction moves generalizing d with
  | nil => exact ⟨kept, same⟩
  | cons m moves ih =>
    have whole' : (d.play m).broken = false := broken_of_run moves whole
    obtain ⟨added, grows⟩ := kept.total_play whole' iut
    refine ih (kept.play whole') ?_ whole
    intro side
    rw [grows, grows, same]

/-- When all writes that were begun are done, the two ends have recorded the same transcript. -/
theorem ends_record_same_transcript (iut : Side) (moves : List Move)
    (complete : (start.run moves).Complete) :
    Transcript.ofEvents .iut ((start.run moves).log iut).events =
      Transcript.ofEvents .peer ((start.run moves).log iut.other).events := by
  obtain ⟨whole, done⟩ := complete
  have first : ∀ side, start.total iut side = start.total iut side.other := by
    intro side
    cases iut <;> cases side <;> rfl
  obtain ⟨kept, same⟩ := total_run iut moves kept_start first whole
  have nowhere (side : Side) : ((start.run moves).link.outbound side).ahead = [] := by
    have free := kept side
    rw [done side] at free
    exact Pipe.ahead_of_free (free.free (by simp))
  apply Transcript.ofEvents_congr
  have equal := same iut
  simp only [total, nowhere, Direction.mark_nil, List.append_nil] at equal
  cases iut <;> exact equal

def conversation : List Move :=
  [⟨.a, .write [1, 2, 3], "a"⟩, ⟨.b, .read 2, "b"⟩, ⟨.b, .read 8, "b"⟩, ⟨.b, .write [9], "b"⟩,
    ⟨.b, .write [9], "b"⟩, ⟨.a, .write [1, 2, 3], "a"⟩, ⟨.a, .read 4, "a"⟩, ⟨.a, .write [], "a"⟩,
    ⟨.a, .write [4], "a"⟩, ⟨.b, .write [9], "b"⟩, ⟨.b, .read 1, "b"⟩, ⟨.a, .write [4], "a"⟩,
    ⟨.a, .write [5, 6], "a"⟩, ⟨.b, .read 3, "b"⟩, ⟨.b, .release, "b"⟩, ⟨.a, .write [5, 6], "a"⟩]

theorem conversation_recorded_alike :
    (start.run conversation).Complete ∧
      Transcript.ofEvents .iut ((start.run conversation).log .a).events =
        ⟨[.expect [1, 2, 3], .inject [9], .expect [4, 5, 6]]⟩ ∧
      Transcript.ofEvents .iut ((start.run conversation).log .a).events =
        Transcript.ofEvents .peer ((start.run conversation).log .b).events := by
  have complete : (start.run conversation).Complete := by
    refine ⟨rfl, ?_⟩
    intro side
    cases side <;> rfl
  exact ⟨complete, by decide, ends_record_same_transcript .a conversation complete⟩

end Duet

end WireScript.Session
