import WireScript.Proofs.Rehearsal.Report

set_option autoImplicit false

namespace WireScript.Rehearsal.Run

open Rendezvous (Terminal)
open Replay (Player)

def after : Nat → Run → Option Run
  | 0, r => some r
  | n + 1, r =>
    match r.step with
    | .inl next => next.after n
    | .inr _ => none

variable {r next last : Run}

theorem after_succ_of_step (step : r.step = .inl next) (n : Nat) :
    r.after (n + 1) = next.after n := by
  simp [after, step]

theorem after_add {m : Nat} (reached : r.after m = some next) (n : Nat) :
    r.after (m + n) = next.after n := by
  induction m generalizing r with
  | zero =>
    obtain rfl : r = next := by simpa [after] using reached
    rw [Nat.zero_add]
  | succ m ih =>
    rw [Nat.succ_add, after]
    rw [after] at reached
    split at reached
    · exact ih reached
    · simp at reached

theorem after_eq_none_of_le {m n : Nat} (le : m ≤ n) (ended : r.after m = none) :
    r.after n = none := by
  induction m generalizing r n with
  | zero => simp [after] at ended
  | succ m ih =>
    obtain ⟨n, rfl⟩ : ∃ k, n = k + 1 := ⟨n - 1, by omega⟩
    rw [after] at ended ⊢
    split at ended
    · exact ih (Nat.le_of_succ_le_succ le) ended
    · rfl

def ComesTo (P : Run → Prop) (r : Run) : Prop := ∃ n last, r.after n = some last ∧ P last

namespace ComesTo

variable {P Q : Run → Prop}

theorem here (holds : P r) : r.ComesTo P := ⟨0, r, rfl, holds⟩

theorem of_after {m : Nat} (reached : r.after m = some next) (comes : next.ComesTo P) :
    r.ComesTo P := by
  obtain ⟨n, last, onward, holds⟩ := comes
  exact ⟨m + n, last, (after_add reached n).trans onward, holds⟩

theorem later (step : r.step = .inl next) (comes : next.ComesTo P) : r.ComesTo P :=
  of_after (after_succ_of_step step 0) comes

theorem trans (comes : r.ComesTo P) (onward : ∀ last, P last → last.ComesTo Q) : r.ComesTo Q := by
  obtain ⟨n, next, reached, holds⟩ := comes
  exact of_after reached (onward next holds)

theorem mono (comes : r.ComesTo P) (implies : ∀ last, P last → Q last) : r.ComesTo Q :=
  comes.trans fun last holds => here (implies last holds)

end ComesTo

def Ends (kind : Outcome → Prop) : Run → Prop :=
  ComesTo fun last => ∃ report, last.step = .inr report ∧ kind report.outcome

-- The implementation goes on with its plan for ever.
def Endless (r : Run) : Prop :=
  ∀ k, ∃ n last, k ≤ n ∧ r.after n = some last ∧ k ≤ last.iut.entries.length

-- From some step on, the implementation never gives its turn away.
def Hogged : Run → Prop :=
  ComesTo fun last => ∀ n, ∃ later, last.after n = some later ∧ later.turn = .iut

section Ends

variable {kind kind' : Outcome → Prop}

theorem Ends.now {report : Report} (step : r.step = .inr report) (holds : kind report.outcome) :
    r.Ends kind := .here ⟨report, step, holds⟩

theorem le_of_ended {n m : Nat} {report : Report} (reached : r.after n = some last)
    (ended : last.step = .inr report) (going : r.after m = some next) : m ≤ n := by
  apply Nat.le_of_not_lt
  intro beyond
  obtain ⟨k, rfl⟩ := Nat.exists_eq_add_of_lt beyond
  rw [Nat.add_assoc, after_add reached, after, ended] at going
  simp at going

theorem Ends.agree (ends : r.Ends kind) (ends' : r.Ends kind') :
    ∃ outcome, kind outcome ∧ kind' outcome := by
  obtain ⟨n, last, reached, report, ended, holds⟩ := ends
  obtain ⟨n', last', reached', report', ended', holds'⟩ := ends'
  obtain rfl : n = n' :=
    Nat.le_antisymm (le_of_ended reached' ended' reached) (le_of_ended reached ended reached')
  obtain rfl : last = last' := Option.some.inj (reached.symm.trans reached')
  obtain rfl : report = report' := Sum.inr.inj (ended.symm.trans ended')
  exact ⟨report.outcome, holds, holds'⟩

theorem Endless.not_ends (endless : r.Endless) : ¬ r.Ends kind := by
  rintro ⟨n, last, reached, report, ended, -⟩
  obtain ⟨m, next, beyond, going, -⟩ := endless (n + 1)
  exact absurd (le_of_ended reached ended going) (Nat.not_le_of_lt beyond)

end Ends

theorem Endless.going (endless : r.Endless) (n : Nat) : r.after n ≠ none := by
  intro ended
  obtain ⟨m, last, beyond, going, -⟩ := endless n
  rw [after_eq_none_of_le beyond ended] at going
  simp at going

theorem Endless.of_after {m : Nat} (reached : r.after m = some next) (endless : next.Endless) :
    r.Endless := by
  intro k
  obtain ⟨n, last, long, going, logged⟩ := endless k
  exact ⟨m + n, last, by omega, (after_add reached n).trans going, logged⟩

section Terms

theorem terms_join {deadline : Nat} (step : r.join deadline = .inl next) :
    next.terms = r.terms := by
  unfold join at step
  split at step
  · simp [stop] at step
  · simp [stop] at step
  · split at step
    · simp [stop] at step
    · obtain rfl := Sum.inl.inj step
      rfl

theorem terms_pause {player : Player} (step : r.pause player = .inl next) :
    next.terms = r.terms := by
  simp only [pause] at step
  split at step
  · split at step
    · simp [stop] at step
    · obtain rfl := Sum.inl.inj step
      rfl
  · obtain rfl := Sum.inl.inj step
    rfl

theorem terms_stepPlayer {player : Player} (step : r.stepPlayer player = .inl next) :
    next.terms = r.terms := by
  unfold stepPlayer at step
  generalize player.step playerTask (⟨r.link⟩ : Terminal .a) = result at step
  rcases result with ⟨running | waiting | (fault | _), terminal⟩
  · obtain rfl := Sum.inl.inj step
    rfl
  · exact terms_pause (r := r.withLink terminal.link) step
  · simp [stop] at step
  · simp only at step
    split at step
    · exact (terms_join step).trans rfl
    · simp [stop] at step

theorem terms_step (step : r.step = .inl next) : next.terms = r.terms := by
  unfold Run.step at step
  cases turn : r.turn with
  | nobody =>
    simp only [turn] at step
    obtain ⟨r', same, -, terms, -⟩ | ⟨report, same, -⟩ := dispatch_cases (r := r.tick) turn
    · obtain rfl := Sum.inl.inj (same.symm.trans step)
      exact terms
    · simp [same] at step
  | iut =>
    simp only [turn] at step
    obtain rfl := Sum.inl.inj step
    exact terms_stepIut r
  | player =>
    simp only [turn] at step
    split at step
    · exact terms_stepPlayer step
    · exact terms_join step

theorem terms_after {n : Nat} (reached : r.after n = some next) : next.terms = r.terms := by
  induction n generalizing r with
  | zero =>
    obtain rfl : r = next := by simpa [after] using reached
    rfl
  | succ n ih =>
    rw [after] at reached
    split at reached
    · rename_i step
      exact (ih reached).trans (terms_step step)
    · simp at reached

end Terms

end WireScript.Rehearsal.Run
