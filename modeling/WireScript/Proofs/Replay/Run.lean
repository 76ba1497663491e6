import WireScript.Proofs.Replay.Sound
import WireScript.Proofs.Wire.Polls
import WireScript.Proofs.Wire.Reliable

set_option autoImplicit false

namespace WireScript.Replay

open Wire (Act Polls Sight Task Transport Turn)

variable {σ : Type} [Transport σ]

def Player.polls (task : Task) : (limit : Nat) → Player → σ → Polls
  | 0, _, _ => []
  | limit + 1, p, s =>
    p.turn.poll task s ++
      match p.step task s with
      | (.over _, _) => []
      | (.running p, s) => polls task limit p s
      | (.waiting p, s) => polls task limit p s

abbrev Stage := Player ⊕ Verdict

namespace Stage

def run (task : Task) (limit : Nat) (s : σ) : Stage → Option Verdict × σ
  | .inl p => p.run task limit s
  | .inr verdict => (some verdict, s)

def polls (task : Task) (limit : Nat) (s : σ) : Stage → Polls
  | .inl p => p.polls task limit s
  | .inr _ => []

def step (task : Task) (s : σ) : Stage → Stage × σ
  | .inl p => ((p.step task s).1.part, (p.step task s).2)
  | .inr verdict => (.inr verdict, s)

def after (task : Task) : (steps : Nat) → σ → Stage → Stage × σ
  | 0, s, here => (here, s)
  | steps + 1, s, here => after task steps (here.step task s).2 (here.step task s).1

inductive Leads (task : Task) : Stage → σ → (sent : Bytes) → Stage → σ → Prop
  | refl (here : Stage) (s : σ) : Leads task here s [] here s
  | still {p : Player} {status : Status} {s s' : σ} {sent : Bytes} {there : Stage} :
    p.turn = .still status → Leads task status.part s sent there s' →
      Leads task (.inl p) s sent there s'
  | asking {p : Player} {act : Act} {next : Sight → Status} {sight : Sight} {s s₁ s' : σ}
    {sent : Bytes} {there : Stage} :
    p.turn = .asking act next → act.perform task s = (sight, s₁) →
      Leads task (next sight).part s₁ sent there s' →
      Leads task (.inl p) s (act.sent sight ++ sent) there s'

variable {task : Task} {s s₁ s' : σ} {here there : Stage} {sent : Bytes}

theorem Leads.trans (first : Leads task here s sent there s₁) {goal : Stage} {more : Bytes}
    (second : Leads task there s₁ more goal s') : Leads task here s (sent ++ more) goal s' := by
  induction first with
  | refl => exact second
  | still turn _ ih => exact .still turn (ih second)
  | asking turn performed _ ih =>
    rw [List.append_assoc]
    exact .asking turn performed (ih second)

theorem Leads.ask {p : Player} {act : Act} {next : Sight → Status} {sight : Sight}
    (turn : p.turn = .asking act next) (yields : act.Yields task s sight s₁)
    (goes : Leads task (next sight).part s₁ sent there s') :
    Leads task (.inl p) s (act.sent sight ++ sent) there s' := by
  induction yields with
  | now performed => exact .asking turn performed goes
  | later performed _ ih =>
    -- Nothing is sent by an operation that has to wait, and the player stays where it is.
    have waits : (next .pending).part = .inl p := by rw [Player.next_pending turn, Status.part]
    have again := ih goes
    rw [← waits] at again
    simpa using Leads.asking turn performed again

/-- The run ends, and no larger limit makes it end differently. -/
def Ends (task : Task) (here : Stage) (s : σ) (sent : Bytes) (verdict : Verdict) (s' : σ) : Prop :=
  ∃ steps, ∀ limit, steps ≤ limit →
    run task limit s here = (some verdict, s') ∧ (polls task limit s here).written = sent

theorem run_succ (limit : Nat) (p : Player) (s : σ) :
    run task (limit + 1) s (.inl p) =
      run task limit (p.turn.run task s).2 (p.turn.run task s).1.part := by
  simp only [run, Player.run, Player.step_eq_run_turn]
  rcases p.turn.run task s with ⟨_ | _ | _, _⟩ <;> rfl

theorem polls_succ (limit : Nat) (p : Player) (s : σ) :
    polls task (limit + 1) s (.inl p) =
      p.turn.poll task s ++ polls task limit (p.turn.run task s).2 (p.turn.run task s).1.part := by
  simp only [polls, Player.polls, Player.step_eq_run_turn]
  rcases p.turn.run task s with ⟨_ | _ | _, _⟩ <;> rfl

theorem Ends.step {p : Player} {verdict : Verdict}
    (ends : Ends task (p.turn.run task s).1.part (p.turn.run task s).2 sent verdict s') :
    Ends task (.inl p) s ((p.turn.poll task s).written ++ sent) verdict s' := by
  obtain ⟨steps, runs⟩ := ends
  refine ⟨steps + 1, fun limit enough => ?_⟩
  obtain ⟨limit, rfl⟩ := Nat.exists_eq_add_of_le' enough
  obtain ⟨verdict, sends⟩ := runs (limit + steps) (Nat.le_add_left _ _)
  rw [← Nat.add_assoc, run_succ, polls_succ, Polls.written_append, sends]
  exact ⟨verdict, rfl⟩

theorem Leads.ends {verdict : Verdict} (leads : Leads task here s sent (.inr verdict) s') :
    Ends task here s sent verdict s' := by
  generalize goal : (.inr verdict : Stage) = there at leads
  induction leads with
  | refl here s =>
    subst goal
    exact ⟨0, fun _ _ => ⟨rfl, rfl⟩⟩
  | @still p status s s' sent there turn _ ih =>
    have next : Ends task (p.turn.run task s).1.part (p.turn.run task s).2 sent verdict s' := by
      simpa [turn, Turn.run] using ih goal
    simpa [turn, Turn.poll] using next.step
  | @asking p act after sight s s₁ s' sent there turn performed _ ih =>
    have next : Ends task (p.turn.run task s).1.part (p.turn.run task s).2 sent verdict s' := by
      simpa [turn, Turn.run, performed] using ih goal
    simpa [turn, Turn.poll, performed] using next.step

section

variable (task s here)

theorem after_succ (steps : Nat) :
    after task (steps + 1) s here =
      (after task steps s here).1.step task (after task steps s here).2 := by
  induction steps generalizing s here with
  | zero => rfl
  | succ steps ih => exact ih _ _

theorem after_over (steps : Nat) (verdict : Verdict) :
    after task steps s (.inr verdict) = (.inr verdict, s) := by
  induction steps with
  | zero => rfl
  | succ steps ih => exact ih

theorem run_eq_after (limit : Nat) :
    run task limit s here =
      ((after task limit s here).1.getRight?, (after task limit s here).2) := by
  induction limit generalizing s here with
  | zero => cases here <;> rfl
  | succ limit ih =>
    cases here with
    | inl p =>
      rw [run_succ, ← Player.step_eq_run_turn]
      exact ih _ _
    | inr verdict =>
      rw [after_over]
      rfl

theorem polls_concat (steps : Nat) :
    polls task (steps + 1) s here =
      polls task steps s here ++
        match after task steps s here with
        | (.inl p, s) => p.turn.poll task s
        | (.inr _, _) => [] := by
  induction steps generalizing s here with
  | zero =>
    cases here with
    | inl p =>
      rw [polls_succ]
      cases h : (p.turn.run task s).1.part <;> simp [polls, after, Player.polls]
    | inr verdict => rfl
  | succ steps ih =>
    cases here with
    | inl p =>
      rw [polls_succ, ih, polls_succ, List.append_assoc, ← Player.step_eq_run_turn]
      rfl
    | inr verdict => simp [polls, after_over]

theorem made_polls (steps : Nat) :
    (polls task steps s here).Made task s (after task steps s here).2 := by
  induction steps generalizing s here with
  | zero => cases here <;> rfl
  | succ steps ih =>
    cases here with
    | inl p =>
      rw [polls_succ, after, step, Player.step_eq_run_turn]
      exact (p.turn.made_poll task s).append (ih _ _)
    | inr verdict =>
      rw [after_over]
      rfl

end

theorem run_eq_some_iff {limit : Nat} {verdict : Verdict} :
    run task limit s here = (some verdict, s') ↔ after task limit s here = (.inr verdict, s') := by
  rw [run_eq_after]
  rcases after task limit s here with ⟨p | other, s₁⟩ <;> simp

theorem after_of_over {steps : Nat} {verdict : Verdict}
    (ends : after task steps s here = (.inr verdict, s')) (more : Nat) :
    after task (steps + more) s here = (.inr verdict, s') ∧
      polls task (steps + more) s here = polls task steps s here := by
  induction more with
  | zero => exact ⟨ends, rfl⟩
  | succ more ih =>
    obtain ⟨still, same⟩ := ih
    rw [← Nat.add_assoc, after_succ, polls_concat, still, same]
    exact ⟨rfl, List.append_nil _⟩

end Stage

end WireScript.Replay
