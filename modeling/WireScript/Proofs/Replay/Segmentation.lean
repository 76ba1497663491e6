import WireScript.Proofs.Replay.Reference
import WireScript.Proofs.Transcript.Stream

set_option autoImplicit false

namespace WireScript.Replay

open Transcript (streamOf)
open Wire (Growth Reliable Scripted Task Transport)

structure Upshot where
  passes : Bool
  output : Bytes
deriving DecidableEq, Repr

-- A replay of traffic is over at the first byte of the implementation that is not the next one.
def upshot (trailing : Trailing) : Traffic → (input : Bytes) → Upshot
  | [], input => ⟨trailing = .ignore || input = [], []⟩
  | (.toIut, b) :: later, input =>
    let rest := upshot trailing later input
    { rest with output := b :: rest.output }
  | (.fromIut, _) :: _, [] => ⟨false, []⟩
  | (.fromIut, b) :: later, a :: input =>
    if a = b then upshot trailing later input else ⟨false, []⟩

def Reckoning.upshot (r : Reckoning) : Upshot := ⟨r.verdict.isOk, r.output⟩

section Traffic

variable (trailing : Trailing) (payload : Bytes) (later : Traffic)

theorem upshot_toIut (input : Bytes) :
    upshot trailing (Direction.toIut.mark payload ++ later) input =
      ⟨(upshot trailing later input).passes, payload ++ (upshot trailing later input).output⟩ := by
  induction payload with
  | nil => rfl
  | cons b payload ih => simp [upshot, ih]

theorem upshot_fromIut_met (input : Bytes) :
    upshot trailing (Direction.fromIut.mark payload ++ later) (payload ++ input) =
      upshot trailing later input := by
  induction payload with
  | nil => rfl
  | cons b payload ih => simpa [upshot] using ih

theorem upshot_fromIut_unmet {input : Bytes} (unmet : ¬ payload <+: input) :
    upshot trailing (Direction.fromIut.mark payload ++ later) input = ⟨false, []⟩ := by
  induction payload generalizing input with
  | nil => exact absurd List.nil_prefix unmet
  | cons b payload ih =>
    cases input with
    | nil => rfl
    | cons a input =>
      by_cases same : a = b
      · subst same
        have rest : ¬ payload <+: input := by simpa using unmet
        simpa [upshot] using ih rest
      · simp [upshot, same]

end Traffic

section Segments

variable (config : Config) (index : Nat)

theorem parting_self (payload : Bytes) : Bytes.parting payload payload = none := by
  rw [← Bytes.firstMismatch_of_length_eq rfl]
  exact (Bytes.firstMismatch_eq_none_iff payload payload).2 rfl

theorem reckon_fromIut_met (payload : Bytes) (later : List Segment) (input : Bytes) :
    reckon config index (⟨.fromIut, payload⟩ :: later) (payload ++ input) =
      reckon config (index + 1) later input := by
  have enough : ¬ (payload ++ input).length < payload.length := by
    rw [List.length_append]
    omega
  simp only [reckon, enough, if_false, List.take_left, List.drop_left, parting_self]

theorem reckon_fromIut_unmet {payload input : Bytes} (unmet : ¬ payload <+: input)
    (later : List Segment) :
    (reckon config index (⟨.fromIut, payload⟩ :: later) input).upshot = ⟨false, []⟩ := by
  by_cases few : input.length < payload.length
  · simp [reckon, few, Reckoning.upshot, Except.isOk, Except.toBool]
  · -- Enough bytes have come, and they are not those of the segment.
    have even : payload.length = (input.take payload.length).length := by
      rw [List.length_take]
      omega
    have differ : Bytes.parting payload (input.take payload.length) ≠ none := by
      rw [← Bytes.firstMismatch_of_length_eq even, Ne, Bytes.firstMismatch_eq_none_iff]
      intro same
      exact unmet (List.prefix_iff_eq_take.2 same)
    obtain ⟨offset, parts⟩ := Option.ne_none_iff_exists'.1 differ
    simp [reckon, few, parts, Reckoning.upshot, Except.isOk, Except.toBool]

theorem upshot_reckon (segments : List Segment) (input : Bytes) :
    (reckon config index segments input).upshot =
      upshot config.trailing (streamOf segments) input := by
  induction segments generalizing index input with
  | nil =>
    cases trailing : config.trailing with
    | ignore => simp [reckon, trailing, upshot, Reckoning.upshot, Except.isOk, Except.toBool]
    | reject =>
      by_cases nothing : input = [] <;>
        simp [reckon, trailing, nothing, upshot, Reckoning.upshot, Except.isOk, Except.toBool]
  | cons segment later ih =>
    rcases segment with ⟨_ | _, payload⟩
    · simp only [Transcript.streamOf_cons, Segment.stream]
      by_cases met : payload <+: input
      · obtain ⟨rest, rfl⟩ := met
        rw [reckon_fromIut_met, upshot_fromIut_met]
        exact ih (index + 1) rest
      · rw [reckon_fromIut_unmet config index met, upshot_fromIut_unmet _ _ _ met]
    · simp only [Transcript.streamOf_cons, Segment.stream]
      rw [upshot_toIut, ← ih (index + 1)]
      rfl

end Segments

namespace Player

variable {σ τ : Type} [Transport σ] [Transport τ] {task task' : Task}
variable {Carries : σ → Bytes → Prop} {Carries' : τ → Bytes → Prop} {s : σ} {u : τ} {input : Bytes}

theorem ends_with_upshot (reliable : Reliable task Carries) (carries : Carries s input)
    (growth : Growth) (config : Config) (t : Transcript) :
    ∃ verdict steps,
      (verdict = .ok () ↔ (upshot config.trailing (streamOf t.segments) input).passes = true) ∧
      ∀ limit, steps ≤ limit → ((start growth config t).run task limit s).1 = some verdict ∧
        ((start growth config t).polls task limit s).written =
          (upshot config.trailing (streamOf t.segments) input).output := by
  obtain ⟨s', leads, -⟩ := Stage.leads_reckon growth config 0 reliable carries t.segments
  obtain ⟨steps, runs⟩ := leads.ends
  rw [← upshot_reckon config 0]
  refine ⟨(reckon config 0 t.segments input).verdict, steps, ?_, ?_⟩
  · simp only [Reckoning.upshot]
    rcases (reckon config 0 t.segments input).verdict with fault | _ <;>
      simp [Except.isOk, Except.toBool]
  · intro limit enough
    obtain ⟨ends, written⟩ := runs limit enough
    exact ⟨congrArg Prod.fst ends, written⟩

def finely : Transcript :=
  ⟨[.inject [7], .inject [8], .expect [1], .inject [], .expect [2], .expect [3], .inject [9]]⟩

def coarsely : Transcript := ⟨[.expect [], .inject [7, 8], .expect [1, 2, 3], .inject [9]]⟩

def halting : Scripted := .start [.wait, .give [1], .wait, .give [5]] [.wait, .give 1] [.wait]

def fluent : Scripted := .start [.give [1, 5]] [] []

end Player

end WireScript.Replay
