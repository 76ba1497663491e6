import Mathlib.Data.Prod.Lex
import WireScript.Proofs.Turn

set_option autoImplicit false

namespace WireScript.Wire

variable {σ : Type} [Transport σ]

structure Prompt (task : Task) (left : σ → Nat) (s : σ) : Prop where
  answers : ∀ act : Act, (act.perform task s).1 ≠ .pending
  spends : ∀ act : Act,
    left (act.perform task s).2 + (act.received (act.perform task s).1).length ≤ left s

namespace Call

def cost (left : Nat) : Call → Nat
  | .writeAll data => data.length
  | _ => left

theorem resume_spends {call : Call} {act : Act} (asked : call.turn.asks = some act) {sight : Sight}
    (admits : act.Admits sight) (answered : sight ≠ .pending) {left left' : Nat}
    (spent : left' + (act.received sight).length ≤ left) :
    (∃ result, call.resume sight = .finished result) ∨
      ∃ next, call.resume sight = .running next ∧ next.cost left' < call.cost left := by
  cases sight with
  | pending => exact absurd rfl answered
  | failed e => exact .inl ⟨_, rfl⟩
  | done => exact .inl ⟨_, rfl⟩
  | gone => exact admits.elim
  | released =>
    obtain rfl : act = .release := admits
    cases call with
    | readUpTo missing got => cases missing <;> simp [turn, Turn.asks] at asked
    | writeAll left => cases left <;> simp [turn, Turn.asks] at asked
    | _ => simp [turn, Turn.asks] at asked
  | data found =>
    obtain ⟨room, rfl, -⟩ := admits
    simp only [Act.received] at spent
    -- Nothing found is the end of the stream, and of the call.
    by_cases nothing : found = []
    · cases call <;> simp [resume, nothing]
    · have some := List.length_pos_iff.2 nothing
      cases call <;> simp [resume, nothing, cost]
      all_goals omega
  | count n =>
    cases call with
    | writeAll data =>
      obtain ⟨b, rest, rfl⟩ : ∃ b rest, data = b :: rest := by
        cases data <;> simp [turn, Turn.asks] at asked ⊢
      by_cases zero : n = 0
      · exact .inl ⟨_, by simp [resume, zero]; rfl⟩
      · refine .inr ⟨_, by simp [resume, zero]; rfl, ?_⟩
        simp only [cost, List.length_drop, List.length_cons]
        omega
    | _ => exact .inl ⟨_, rfl⟩

theorem turn_spends [LawfulTransport σ] {task : Task} {left : σ → Nat} {s : σ}
    (prompt : Prompt task left s) (call : Call) :
    (∃ result, (call.turn.run task s).1 = .finished result) ∨
      ∃ next, (call.turn.run task s).1 = .running next ∧
        next.cost (left (call.turn.run task s).2) < call.cost (left s) := by
  cases turn : call.turn with
  | still progress =>
    -- Only calls with nothing left to do go without a poll.
    refine .inl ?_
    cases call with
    | readUpTo missing got =>
      cases missing <;> simp only [Call.turn, Turn.still.injEq, reduceCtorEq] at turn
      exact ⟨_, turn.symm⟩
    | writeAll data =>
      cases data <;> simp only [Call.turn, Turn.still.injEq, reduceCtorEq] at turn
      exact ⟨_, turn.symm⟩
    | _ => simp [Call.turn] at turn
  | asking act next =>
    obtain rfl := next_eq_resume turn
    exact resume_spends (by simp [turn, Turn.asks]) (act.admits_perform task s)
      (prompt.answers act) (prompt.spends act)

end Call

end WireScript.Wire

namespace WireScript.Party

open Wire (Call LawfulTransport Progress Prompt Task Transport Turn)

namespace Activity

def rank (left : Nat) : Activity → Nat ×ₗ Nat
  | .idle => toLex (3, 0)
  | .calling _ call => toLex (2, call.cost left)
  | .echoing _ call => toLex (1, call.cost left)
  | .paused | .asleep _ | .stuck => toLex (0, 0)

def Rests : Activity → Prop
  | .paused | .asleep _ | .stuck => True
  | .idle | .calling .. | .echoing .. => False

end Activity

namespace Actor

inductive Moved (a : Actor) (left left' : Nat) : Status × Actor → Prop
  | logged {status : Status} {before : Actor} (entry : Entry)
      (goes : status = .running ∨ status = .elapsed) (same : before.entries = a.entries) :
      Moved a left left' (status, before.log entry)
  | onward {next : Actor} (same : next.entries = a.entries)
      (nearer : next.activity.rank left' < a.activity.rank left) :
      Moved a left left' (.running, next)
  | resting {status : Status} {next : Actor} (waits : status = .waiting ∨ status = .yielding)
      (same : next.entries = a.entries) (rests : next.activity.Rests) :
      Moved a left left' (status, next)
  | ended (ending : Ending) (next : Actor) : Moved a left left' (.over ending, next)

section Cases

variable {a : Actor} {left left' : Nat}

theorem moved_sleepUntil (now credit wakeAt : Nat) :
    Moved a left left' (a.sleepUntil now credit wakeAt) := by
  unfold sleepUntil
  split
  · exact .resting (.inr rfl) rfl trivial
  · split
    · exact .logged .done (.inr rfl) rfl
    · exact .resting (.inl rfl) rfl trivial

theorem moved_proceed {step : Step} {call : Call} (calling : a.activity = .calling step call)
    (answer : Wire.Answer) : Moved a left left' (.running, a.proceed step answer) := by
  unfold proceed
  split
  · split
    · exact .logged _ (.inl rfl) rfl
    · refine .onward rfl ?_
      simp [calling, Activity.rank, Prod.Lex.toLex_lt_toLex]
  · exact .logged _ (.inl rfl) rfl

theorem moved_follow {onCall : Call → Activity} {onAnswer : Wire.Answer → Actor} {n : Nat}
    {call : Call} (busy : a.activity = onCall call)
    (rank : ∀ left call, (onCall call).rank left = toLex (n, call.cost left))
    (answered : ∀ answer, Moved a left left' (.running, onAnswer answer)) {progress : Progress}
    (spends : (∃ result, progress = .finished result) ∨
      ∃ next, progress = .running next ∧ next.cost left' < call.cost left) :
    Moved a left left' (a.follow onCall onAnswer progress) := by
  obtain ⟨_ | answer, rfl⟩ | ⟨next, rfl, less⟩ := spends
  · exact .logged _ (.inl rfl) rfl
  · exact answered answer
  · refine .onward rfl ?_
    simp [busy, rank, Prod.Lex.toLex_lt_toLex, less]

end Cases

variable {σ : Type} [Transport σ] {task : Task} {left : σ → Nat} {s : σ}

theorem moved_leave {a : Actor} {onward : Actor → Status × Actor} {m n : Nat}
    (moved : ∀ next : Actor, next.entries = a.entries → Moved a m n (onward next)) :
    Moved a m n ((a.leave onward).run task s).1 := by
  unfold leave
  split
  · exact moved _ rfl
  · exact moved a rfl

theorem moved_opens {a : Actor} (idle : a.activity = .idle) {now credit : Nat} (step : Step)
    {m n : Nat} : Moved a m n ((a.opens now credit step).run task s).1 := by
  unfold opens
  split
  · exact .logged .gone (.inl rfl) rfl
  · cases step with
    | tryWrite data =>
      simp only [opening, Turn.run]
      unfold settle
      split <;> exact .logged _ (.inl rfl) rfl
    | drop => exact moved_leave (fun _ same => .logged .dropped (.inl rfl) same)
    | panic text => exact moved_leave (fun next _ => .ended (.panicked text) next)
    | pause => exact .resting (.inr rfl) rfl trivial
    | sleep millis => exact moved_sleepUntil now credit (now + millis)
    | hang => exact .resting (.inl rfl) rfl trivial
    | fail text => exact .logged _ (.inl rfl) rfl
    | _ =>
      refine .onward rfl ?_
      simp [idle, Activity.rank, Prod.Lex.toLex_lt_toLex]

theorem moved_run_turn [LawfulTransport σ] (prompt : Prompt task left s) (a : Actor)
    (now credit : Nat) :
    Moved a (left s) (left ((a.turn now credit).run task s).2)
      ((a.turn now credit).run task s).1 := by
  unfold turn
  cases activity : a.activity with
  | idle =>
    cases a.next with
    | quit failure => exact moved_leave (fun next _ => .ended (.returned failure) next)
    | go step => exact moved_opens activity step
  | calling step call =>
    simp only [Turn.run_map]
    exact moved_follow activity (fun _ _ => rfl) (moved_proceed activity)
      (call.turn_spends prompt)
  | echoing got call =>
    simp only [Turn.run_map]
    exact moved_follow activity (fun _ _ => rfl)
      (fun _ => .logged (.data got) (.inl rfl) rfl) (call.turn_spends prompt)
  | paused => exact .logged .done (.inl rfl) rfl
  | asleep wakeAt => exact moved_sleepUntil now credit wakeAt
  | stuck => exact .resting (.inl rfl) rfl (by simp [activity, Activity.Rests])

end Actor

end WireScript.Party
