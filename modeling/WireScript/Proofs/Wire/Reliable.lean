import WireScript.Proofs.Turn
import WireScript.Wire.Scripted

set_option autoImplicit false

namespace WireScript.Wire

variable {σ : Type} [Transport σ]

/-- What the operation shows in the end, if it is tried again whenever it has to wait. -/
inductive Act.Yields (act : Act) (task : Task) : σ → Sight → σ → Prop
  | now {s s' : σ} {sight : Sight} :
    act.perform task s = (sight, s') → Yields act task s sight s'
  | later {s s₁ s' : σ} {sight : Sight} :
    act.perform task s = (.pending, s₁) → Yields act task s₁ sight s' → Yields act task s sight s'

-- `Carries s input` tells what the reads have yet to find.
structure Reliable (task : Task) (Carries : σ → Bytes → Prop) : Prop where
  read : ∀ {s : σ} {input : Bytes} (room : Nat), Carries s input → room ≠ 0 →
    ∃ found rest s', (Act.read room).Yields task s (.data found) s' ∧ found.length ≤ room ∧
      found ++ rest = input ∧ (found = [] → input = []) ∧ Carries s' rest
  write : ∀ {s : σ} {input : Bytes} (data : Bytes), Carries s input → data ≠ [] →
    ∃ n s', (Act.write data).Yields task s (.count n) s' ∧ 0 < n ∧ n ≤ data.length ∧
      Carries s' input
  flush : ∀ {s : σ} {input : Bytes}, Carries s input →
    ∃ s', Act.flush.Yields task s .done s' ∧ Carries s' input

namespace Scripted

structure Carries (s : Scripted) (input : Bytes) : Prop where
  reads : ∀ reply ∈ s.reads, reply = .wait ∨ ∃ data, data ≠ [] ∧ reply = .give data
  writes : ∀ reply ∈ s.writes, reply = .wait ∨ ∃ n, n ≠ 0 ∧ reply = .give n
  flushes : ∀ reply ∈ s.flushes, reply = .wait ∨ reply = .give ()
  unread : s.unread = input

variable {task : Task} {s : Scripted} {input : Bytes}

theorem Carries.read (carries : s.Carries input) {room : Nat} (asks : room ≠ 0) :
    ∃ found rest s', (Act.read room).Yields task s (.data found) s' ∧ found.length ≤ room ∧
      found ++ rest = input ∧ (found = [] → input = []) ∧ Carries s' rest := by
  obtain ⟨fine, takes, settles, rfl⟩ := carries
  induction script : s.reads generalizing s with
  | nil =>
    have ends : s.unread = [] := by simp [Scripted.unread, script]
    refine ⟨[], [], s, .now ?_, Nat.zero_le room, ends.symm, fun _ => ends, fine, takes, settles,
      ends⟩
    simp [Act.perform, Transport.read, Scripted.read, script, Poll.ok, Sight.ofPoll]
  | cons reply reads ih =>
    obtain ⟨first, others⟩ := List.forall_mem_cons.1 (script ▸ fine)
    let s₁ := { s with reads }
    obtain rfl | ⟨data, some, rfl⟩ := first
    · have same : s.unread = s₁.unread := by simp [Scripted.unread, script, s₁]
      obtain ⟨found, rest, s', yields, law⟩ := ih (s := s₁) others takes settles rfl
      refine ⟨found, rest, s', .later ?_ yields, same ▸ law⟩
      simp [Act.perform, Transport.read, Scripted.read, script, Sight.ofPoll, s₁]
    · have all : s.unread = data ++ s₁.unread := by simp [Scripted.unread, script, s₁]
      rw [all]
      -- Data that the read has no room for goes back to the front of the script.
      by_cases fits : data.length ≤ room
      · refine ⟨data, s₁.unread, s₁, .now ?_, fits, rfl, fun nothing => absurd nothing some, others,
          takes, settles, rfl⟩
        simp [Act.perform, Transport.read, Scripted.read, script, fits, Poll.ok, Sight.ofPoll, s₁]
      · have more : data.drop room ≠ [] := by simpa using fits
        refine ⟨data.take room, _, { s with reads := .give (data.drop room) :: reads }, .now ?_,
          List.length_take_le _ _, ?_, fun nothing => ?_,
          List.forall_mem_cons.2 ⟨.inr ⟨_, more, rfl⟩, others⟩, takes, settles, rfl⟩
        · simp [Act.perform, Transport.read, Scripted.read, script, fits, Poll.ok, Sight.ofPoll]
        · simp [Scripted.unread, ← List.append_assoc, s₁]
        · simp [asks, some] at nothing

theorem Carries.write (carries : s.Carries input) {data : Bytes} (asks : data ≠ []) :
    ∃ n s', (Act.write data).Yields task s (.count n) s' ∧ 0 < n ∧ n ≤ data.length ∧
      Carries s' input := by
  have positive : 0 < data.length := List.length_pos_iff.2 asks
  induction script : s.writes generalizing s with
  | nil =>
    let s' := { s with writeCalls := s.writeCalls + 1, written := s.written ++ data }
    refine ⟨data.length, s', .now ?_, positive, Nat.le_refl _, carries.reads, carries.writes,
      carries.flushes, carries.unread⟩
    simp [Act.perform, Transport.write, Scripted.write, script, take, Poll.ok, Sight.ofPoll, s']
  | cons reply writes ih =>
    obtain ⟨first, others⟩ := List.forall_mem_cons.1 (script ▸ carries.writes)
    let s₁ := { s with writeCalls := s.writeCalls + 1, writes }
    obtain rfl | ⟨n, some, rfl⟩ := first
    · have after : s₁.Carries input := ⟨carries.reads, others, carries.flushes, carries.unread⟩
      obtain ⟨n, s', yields, law⟩ := ih after rfl
      refine ⟨n, s', .later ?_ yields, law⟩
      simp [Act.perform, Transport.write, Scripted.write, script, Sight.ofPoll, s₁]
    · let s' := { s₁ with written := s₁.written ++ data.take n }
      have taken : (data.take n).length = min n data.length := List.length_take
      refine ⟨(data.take n).length, s', .now ?_, by omega, by omega, carries.reads, others,
        carries.flushes, carries.unread⟩
      simp [Act.perform, Transport.write, Scripted.write, script, take, Poll.ok, Sight.ofPoll, s',
        s₁]

theorem Carries.flush (carries : s.Carries input) :
    ∃ s', Act.flush.Yields task s .done s' ∧ Carries s' input := by
  induction script : s.flushes generalizing s with
  | nil =>
    refine ⟨{ s with flushCalls := s.flushCalls + 1 }, .now ?_, carries.reads, carries.writes,
      carries.flushes, carries.unread⟩
    simp [Act.perform, Transport.flush, Scripted.flush, settle, script, Poll.ok, Sight.ofPoll]
  | cons reply flushes ih =>
    obtain ⟨first, others⟩ := List.forall_mem_cons.1 (script ▸ carries.flushes)
    let s₁ := { s with flushCalls := s.flushCalls + 1, flushes }
    have after : s₁.Carries input := ⟨carries.reads, carries.writes, others, carries.unread⟩
    obtain rfl | rfl := first
    · obtain ⟨s', yields, law⟩ := ih after rfl
      refine ⟨s', .later ?_ yields, law⟩
      simp [Act.perform, Transport.flush, Scripted.flush, settle, script, Sight.ofPoll, s₁]
    · refine ⟨s₁, .now ?_, after⟩
      simp [Act.perform, Transport.flush, Scripted.flush, settle, script, Poll.ok, Sight.ofPoll, s₁]

theorem reliable (task : Task) : Reliable task Carries where
  read _ carries asks := carries.read asks
  write _ carries asks := carries.write asks
  flush carries := carries.flush

end Scripted

end WireScript.Wire
