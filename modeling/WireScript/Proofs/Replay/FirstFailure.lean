import WireScript.Proofs.Replay.Account
import WireScript.Proofs.Replay.Run
import WireScript.Wire.Scripted

set_option autoImplicit false

namespace WireScript.Replay

open Wire (Act Call Growth LawfulTransport Polls Scripted Sight Task Transport Turn)

namespace Player

variable {p q : Player}

def Wary (p : Player) : Prop :=
  ∀ growth got, p.call = some (.readToEnd growth got) → p.config.trailing = .reject

theorem Sound.step_cases (sound : p.Sound) (wary : p.Wary) {status : Status}
    (can : p.turn.Can status) (on : status.part = .inl q) :
    q.Wary ∧ (q = p.advance ∨ ∃ call, q = { p with call := call }) := by
  cases turn : p.turn with
  | still result =>
    rw [turn] at can
    obtain rfl := can
    obtain ⟨s, rest, -, -, left⟩ | ⟨idle, at', through | left⟩ |
        ⟨got, s, rest, -, -, -, ⟨-, left⟩ | ⟨cause, through⟩⟩ | ⟨s, rest, -, -, -, left⟩ :=
      sound.still_cases turn
    · obtain rfl := Sum.inl.inj (left.symm.trans on)
      refine ⟨?_, .inr ⟨_, rfl⟩⟩
      rcases s with ⟨_ | _, payload⟩ <;> simp [Wary, opening]
    · simp [through] at on
    · obtain rfl := Sum.inl.inj (left.symm.trans on)
      refine ⟨fun _ _ _ => ?_, .inr ⟨_, rfl⟩⟩
      -- Without the demand for an end the player would be through.
      obtain rfl : p.resort = status := by simpa [Player.turn, idle] using turn
      cases trailing : p.config.trailing with
      | reject => rfl
      | ignore => simp [resort, at', trailing, Status.part] at left
    · obtain rfl := Sum.inl.inj (left.symm.trans on)
      exact ⟨by simp [Wary, advance], .inl rfl⟩
    · simp [through] at on
    · obtain rfl := Sum.inl.inj (left.symm.trans on)
      exact ⟨by simp [Wary], .inr ⟨_, rfl⟩⟩
  | asking act next =>
    rw [turn] at can
    obtain ⟨sight, admits, rfl⟩ := can
    by_cases waits : sight = .pending
    · rw [waits, next_pending turn] at on
      obtain rfl := Sum.inl.inj on
      exact ⟨wary, .inr ⟨p.call, rfl⟩⟩
    · obtain ⟨cause, through, -⟩ | ⟨through, -⟩ |
          ⟨missing, got, s, rest, found, -, -, -, -, -, -, -, left⟩ |
          ⟨remaining, s, rest, n, -, -, -, -, -, -, -, left⟩ |
          ⟨s, rest, -, -, -, -, -, left⟩ | ⟨growth, got, found, call, -, -, -, left⟩ :=
        sound.asking_cases turn admits waits
      · simp [through] at on
      · simp [through] at on
      · obtain rfl := Sum.inl.inj (left.symm.trans on)
        exact ⟨by simp [Wary], .inr ⟨_, rfl⟩⟩
      · obtain rfl := Sum.inl.inj (left.symm.trans on)
        exact ⟨by simp [Wary], .inr ⟨_, rfl⟩⟩
      · obtain rfl := Sum.inl.inj (left.symm.trans on)
        exact ⟨by simp [Wary, advance], .inl rfl⟩
      · obtain rfl := Sum.inl.inj (left.symm.trans on)
        exact ⟨fun _ _ _ => wary growth got call, .inr ⟨_, rfl⟩⟩

theorem Sound.fault_cases (sound : p.Sound) {act : Act} {next : Sight → Status}
    (turn : p.turn = .asking act next) {sight : Sight} (admits : act.Admits sight) :
    (∃ q, (next sight).part = .inl q ∧ act.fault? sight = none ∧ sight ≠ .data []) ∨
    (∃ e, (next sight).part = .inr (.error ⟨p.config.name, p.index, .stream e⟩) ∧
      act.fault? sight = some e ∧ (sight = .failed e ∨ sight = .count 0)) ∨
    (∃ verdict, (next sight).part = .inr verdict ∧ sight = .data [] ∧
      (verdict = .ok () → p.got = [])) := by
  by_cases failed : ∃ e, sight = .failed e
  · obtain ⟨e, rfl⟩ := failed
    exact .inr (.inl ⟨e, by rw [next_failed turn]; rfl, by cases act <;> rfl, .inl rfl⟩)
  by_cases waits : sight = .pending
  · subst waits
    exact .inl ⟨p, by rw [next_pending turn]; rfl, by cases act <;> rfl, by simp⟩
  obtain idle | ⟨missing, got, s, rest, call, at', -, total⟩ | ⟨left, s, rest, call, at', -, -⟩ |
      ⟨s, rest, call, at', -⟩ | ⟨growth, got, call, at'⟩ := sound.cases
  · simp [Player.turn, idle] at turn
  all_goals
    simp only [Player.turn, call] at turn
    obtain ⟨inner, asked, rfl⟩ := Turn.asking_of_map turn
    obtain rfl := Call.next_eq_resume asked
  · cases missing with
    | zero => simp [Call.turn] at asked
    | succ m =>
      obtain ⟨rfl, -⟩ := Turn.asking.inj asked
      obtain ⟨found, rfl⟩ : ∃ found, sight = .data found := by
        cases sight <;> simp_all [Act.Admits]
      by_cases empty : found = []
      · have less : got.length < s.payload.length := by omega
        refine .inr (.inr ⟨.error ⟨p.config.name, p.index,
          .shortRead s.payload.length got.length⟩, ?_, by rw [empty], by simp⟩)
        simp [Call.resume, empty, follow, proceed, at', judge, less, fail, Status.part]
      · refine .inl ⟨{ p with call := some (.readUpTo (m + 1 - found.length) (got ++ found)) }, ?_,
          rfl, by simpa using empty⟩
        simp [Call.resume, empty, follow, Status.part]
  · cases left with
    | nil => simp [Call.turn] at asked
    | cons b left =>
      obtain ⟨rfl, -⟩ := Turn.asking.inj asked
      obtain ⟨n, rfl⟩ : ∃ n, sight = .count n := by cases sight <;> simp_all [Act.Admits]
      cases n with
      | zero =>
        refine .inr (.inl ⟨.ofKind .writeZero, ?_, rfl, .inr rfl⟩)
        simp [Call.resume, follow, fail, Status.part]
      | succ n =>
        refine .inl ⟨{ p with call := some (.writeAll (left.drop n)) }, ?_, rfl, by simp⟩
        simp [Call.resume, follow, Status.part]
  · obtain ⟨rfl, -⟩ := Turn.asking.inj asked
    obtain rfl : sight = .done := by cases sight <;> simp_all [Act.Admits]
    refine .inl ⟨p.advance, ?_, rfl, by simp⟩
    simp [Call.resume, follow, proceed, at', Status.part]
  · obtain ⟨rfl, -⟩ := Turn.asking.inj asked
    obtain ⟨found, rfl⟩ : ∃ found, sight = .data found := by
      cases sight <;> simp_all [Act.Admits]
    by_cases empty : found = []
    · by_cases nothing : got = []
      · refine .inr (.inr ⟨.ok (), ?_, by rw [empty], by simp [Player.got, call, nothing]⟩)
        simp [Call.resume, empty, follow, proceed, at', nothing, Status.part]
      · refine .inr (.inr ⟨.error ⟨p.config.name, p.index, .trailing got⟩, ?_, by rw [empty],
          by simp⟩)
        simp [Call.resume, empty, follow, proceed, at', nothing, fail, Status.part]
    · refine .inl ⟨{ p with call := some (.readToEnd growth (got ++ found)) }, ?_, rfl,
        by simpa using empty⟩
      simp [Call.resume, empty, follow, Status.part]

structure Going (growth : Growth) (config : Config) (t : Transcript) (p : Player)
    (before during : Polls) : Prop where
  growth : p.growth = growth
  config : p.config = config
  sound : p.Sound
  wary : p.Wary
  abides : p.Abides t (before ++ during).written (before ++ during).received
  given : before.written = (t.upTo p.index).content .toIut
  taken : before.received = (t.upTo p.index).content .fromIut
  fine : ∀ poll ∈ before ++ during, poll.1.fault? poll.2 = none ∧ poll.2 ≠ .data []

theorem going_start (growth : Growth) (config : Config) (t : Transcript) :
    (start growth config t).Going growth config t [] [] where
  growth := rfl
  config := rfl
  sound := sound_start growth config t
  wary := by simp [Wary, start]
  abides := abides_start growth config t
  given := rfl
  taken := rfl
  fine := by simp

variable {growth : Growth} {config : Config} {t : Transcript} {before during : Polls}

theorem Going.written_during (going : p.Going growth config t before during) :
    during.written = p.fed := by
  have told := going.abides.told
  rw [Polls.written_append, going.given] at told
  exact List.append_cancel_left told

theorem Going.received_during (going : p.Going growth config t before during) :
    during.received = p.got := by
  have taken := going.abides.taken
  rw [Polls.received_append, going.taken] at taken
  exact List.append_cancel_left taken

variable {σ : Type} [Transport σ] [LawfulTransport σ] {task : Task} {s : σ}

theorem Going.after_turn (going : p.Going growth config t before during)
    (on : (p.turn.run task s).1.part = .inl q) :
    q.Abides t (before ++ during ++ p.turn.poll task s).written
        (before ++ during ++ p.turn.poll task s).received ∧
      ∀ poll ∈ p.turn.poll task s, poll.1.fault? poll.2 = none ∧ poll.2 ≠ .data [] := by
  rw [Polls.written_append _ (p.turn.poll task s), Polls.received_append _ (p.turn.poll task s)]
  cases turn : p.turn with
  | still status =>
    rw [turn] at on
    exact ⟨by simpa [Turn.poll] using going.abides.after_still going.sound turn on,
      by simp [Turn.poll]⟩
  | asking act next =>
    rw [turn] at on
    have admits := act.admits_perform task s
    refine ⟨by simpa [Turn.poll] using going.abides.after_asking going.sound turn admits on, ?_⟩
    obtain ⟨-, -, fine⟩ | ⟨e, through, -⟩ | ⟨verdict, through, -⟩ :=
      going.sound.fault_cases turn admits
    · simpa [Turn.poll] using fine
    · simp [through, Turn.run] at on
    · simp [through, Turn.run] at on

theorem Going.step (going : p.Going growth config t before during)
    (on : (p.turn.run task s).1.part = .inl q) :
    (q.index = p.index ∧ q.Going growth config t before (during ++ p.turn.poll task s)) ∨
      (q = ⟨growth, config, q.index, t.segments.drop q.index, none⟩ ∧
        q.Going growth config t (before ++ during ++ p.turn.poll task s) []) := by
  have can := p.turn.can_run task s
  obtain ⟨abides, fine⟩ := going.after_turn on
  obtain ⟨wary, moves⟩ := going.sound.step_cases going.wary can on
  have sound : q.Sound := going.sound.step can on
  have all : ∀ poll ∈ before ++ during ++ p.turn.poll task s,
      poll.1.fault? poll.2 = none ∧ poll.2 ≠ .data [] := by
    intro poll member
    obtain old | new := List.mem_append.1 member
    · exact going.fine poll old
    · exact fine poll new
  obtain rfl | ⟨call, rfl⟩ := moves
  · refine .inr ⟨?_, going.growth, going.config, sound, wary, by simpa using abides, ?_, ?_,
      by simpa using all⟩
    · have rest := abides.rest
      simp only [advance] at rest ⊢
      rw [rest, going.growth, going.config]
    · simpa [fed, advance] using abides.told
    · simpa [got, advance] using abides.taken
  · rw [List.append_assoc] at abides all
    exact .inl ⟨rfl, going.growth, going.config, sound, wary, abides, going.given, going.taken, all⟩

structure Halts (config : Config) (t : Transcript) (verdict : Verdict) (before during : Polls) :
    Prop where
  given : before.written = (t.upTo (verdict.completed t)).content .toIut
  taken : before.received = (t.upTo (verdict.completed t)).content .fromIut
  part : during.written <+: t.due (verdict.completed t) .toIut
  bound : verdict.completed t < t.length →
    during.received.length ≤ (t.due (verdict.completed t) .fromIut).length
  place : ∀ fault, verdict = .error fault → fault.index < t.length ∨
    fault.index = t.length ∧ config.trailing = .reject
  passed : verdict = .ok () → during.written = [] ∧ during.received = []
  last : ∀ poll ∈ (before ++ during).dropLast, poll.1.fault? poll.2 = none ∧ poll.2 ≠ .data []
  aborts : ∀ poll ∈ before ++ during, ∀ e, poll.1.fault? poll.2 = some e →
    ∃ i, verdict = .error ⟨config.name, i, .stream e⟩

theorem Sound.over_cases (sound : p.Sound) {verdict : Verdict}
    (through : (p.turn.run task s).1.part = .inr verdict) :
    (p.turn.poll task s).written = [] ∧ (p.turn.poll task s).received = [] ∧
      (verdict = .ok () → p.got = []) ∧
      ∀ poll ∈ p.turn.poll task s, ∀ e, poll.1.fault? poll.2 = some e →
        ∃ i, verdict = .error ⟨p.config.name, i, .stream e⟩ := by
  cases turn : p.turn with
  | still status =>
    rw [turn] at through
    refine ⟨rfl, rfl, ?_, by simp [Turn.poll]⟩
    rintro rfl
    obtain ⟨segment, rest, idle, -⟩ | ⟨idle, -⟩ |
        ⟨got, segment, rest, -, -, -, ⟨-, left⟩ | ⟨cause, ends⟩⟩ |
        ⟨segment, rest, call, -⟩ := sound.still_cases turn
    · simp [got, idle]
    · simp [got, idle]
    · simp [left, Turn.run] at through
    · simp [ends, Turn.run] at through
    · simp [got, call]
  | asking act next =>
    rw [turn] at through
    rcases performed : act.perform task s with ⟨sight, s'⟩
    have admits := act.admits_perform task s
    simp only [Turn.run, performed] at through admits
    simp only [Turn.poll, performed, Polls.written_cons, Polls.received_cons, Polls.written_nil,
      Polls.received_nil, List.append_nil, List.mem_singleton, forall_eq]
    obtain ⟨q, on, -⟩ | ⟨e, ends, faulty, shown⟩ | ⟨other, ends, rfl, empty⟩ :=
      sound.fault_cases turn admits
    · simp [on] at through
    · obtain rfl := Sum.inr.inj (ends.symm.trans through)
      refine ⟨?_, ?_, by simp, ?_⟩
      · obtain rfl | rfl := shown <;> cases act <;> simp [Act.sent]
      · obtain rfl | rfl := shown <;> cases act <;> simp [Act.received]
      · intro e' same
        obtain rfl : e = e' := by simpa [faulty] using same
        exact ⟨p.index, rfl⟩
    · obtain rfl := Sum.inr.inj (ends.symm.trans through)
      refine ⟨by cases act <;> rfl, by cases act <;> rfl, empty, ?_⟩
      intro e faulty
      cases act <;> simp [Act.fault?] at faulty

theorem Going.completed (going : p.Going growth config t before during) {verdict : Verdict}
    (through : (p.turn.run task s).1.part = .inr verdict) : verdict.completed t = p.index := by
  cases turn : p.turn with
  | still status =>
    rw [turn] at through
    exact going.abides.completed_still going.sound turn through
  | asking act next =>
    rw [turn] at through
    exact (going.abides.completed_asking going.sound turn (act.admits_perform task s) through).1

theorem Going.place (going : p.Going growth config t before during) {fault : Fault}
    (through : (p.turn.run task s).1.part = .inr (.error fault)) :
    fault.index < t.length ∨ fault.index = t.length ∧ config.trailing = .reject := by
  have index : fault.index = p.index := going.completed through
  rw [index]
  rcases Nat.lt_or_eq_of_le going.abides.bound with within | done
  · exact .inl within
  · -- With no segment left, only what comes after the script can be wrong.
    have none : p.rest = [] := by simpa [done, Transcript.length] using going.abides.rest
    refine .inr ⟨done, ?_⟩
    obtain idle | ⟨missing, got, segment, rest, -, at', -⟩ | ⟨left, segment, rest, -, at', -⟩ |
        ⟨segment, rest, -, at', -⟩ | ⟨growth, got, call, -⟩ := going.sound.cases
    · cases trailing : p.config.trailing <;>
        simp [turn, idle, Turn.run, resort, none, trailing, Status.part] at through
    · simp [none] at at'
    · simp [none] at at'
    · simp [none] at at'
    · rw [← going.config]
      exact going.wary growth got call

theorem Going.halts (going : p.Going growth config t before during) {verdict : Verdict}
    (through : (p.turn.run task s).1.part = .inr verdict) :
    Halts config t verdict before (during ++ p.turn.poll task s) := by
  have index := going.completed through
  obtain ⟨sent, received, empty, named⟩ := going.sound.over_cases through
  have fed : (during ++ p.turn.poll task s).written = p.fed := by
    rw [Polls.written_append, sent, List.append_nil, going.written_during]
  have got : (during ++ p.turn.poll task s).received = p.got := by
    rw [Polls.received_append, received, List.append_nil, going.received_during]
  constructor
  case given => rw [index, going.given]
  case taken => rw [index, going.taken]
  case part =>
    rw [index, fed]
    exact going.abides.fed_prefix going.sound
  case bound =>
    rw [index, got]
    exact going.abides.length_got_le going.sound
  case place =>
    rintro fault rfl
    exact going.place through
  case passed =>
    rintro rfl
    have done : t.length = p.index := index
    have none : p.rest = [] := by simpa [← done, Transcript.length] using going.abides.rest
    refine ⟨?_, got.trans (empty rfl)⟩
    rw [fed]
    simp [Player.fed, none]
  case last =>
    intro poll member
    apply going.fine
    -- A step makes one poll at most, so that all but the last one were made before it.
    rw [← List.append_assoc] at member
    cases turn : p.turn with
    | still status => exact List.dropLast_subset _ (by simpa [turn, Turn.poll] using member)
    | asking act next => simpa [turn, Turn.poll] using member
  case aborts =>
    intro poll member e faulty
    rw [← List.append_assoc] at member
    obtain old | new := List.mem_append.1 member
    · simp [(going.fine poll old).1] at faulty
    · rw [← going.config]
      exact named poll new e faulty

theorem going_after (growth : Growth) (config : Config) (t : Transcript) (task : Task) (s : σ)
    (steps : Nat) {p : Player} {s' : σ}
    (reached : Stage.after task steps s (.inl (start growth config t)) = (.inl p, s')) :
    ∃ k ≤ steps, ∃ during,
      (Stage.after task k s (.inl (start growth config t))).1 =
        .inl ⟨growth, config, p.index, t.segments.drop p.index, none⟩ ∧
      (start growth config t).polls task steps s =
        (start growth config t).polls task k s ++ during ∧
      p.Going growth config t ((start growth config t).polls task k s) during := by
  induction steps generalizing p s' with
  | zero =>
    obtain ⟨rfl, rfl⟩ : start growth config t = p ∧ s = s' := by simpa [Stage.after] using reached
    exact ⟨0, Nat.le_refl 0, [], rfl, rfl, going_start growth config t⟩
  | succ steps ih =>
    have made := Stage.polls_concat task s (.inl (start growth config t)) steps
    rw [Stage.after_succ] at reached
    rcases stage : Stage.after task steps s (.inl (start growth config t)) with ⟨q | verdict, s₁⟩
    · rw [stage] at reached made
      simp only [Stage.step, step_eq_run_turn, Prod.mk.injEq] at reached
      obtain ⟨k, early, during, begun, split, going⟩ := ih stage
      obtain ⟨same, going⟩ | ⟨idle, going⟩ := going.step reached.1
      · refine ⟨k, Nat.le_succ_of_le early, _, by rw [same]; exact begun, ?_, going⟩
        rw [← List.append_assoc, ← split]
        exact made
      · refine ⟨steps + 1, Nat.le_refl _, [], ?_, (List.append_nil _).symm, ?_⟩
        · rw [Stage.after_succ, stage, ← idle]
          simpa [Stage.step, step_eq_run_turn] using reached.1
        · have whole : (start growth config t).polls task (steps + 1) s =
              (start growth config t).polls task k s ++ during ++ q.turn.poll task s₁ := by
            rw [← split]
            exact made
          rw [whole]
          exact going
    · rw [stage] at reached
      simp [Stage.step] at reached

theorem halts_after (growth : Growth) (config : Config) (t : Transcript) (task : Task) (s : σ)
    (steps : Nat) {verdict : Verdict} {s' : σ}
    (ends : Stage.after task steps s (.inl (start growth config t)) = (.inr verdict, s')) :
    ∃ k ≤ steps, ∃ during,
      (Stage.after task k s (.inl (start growth config t))).1 =
        .inl ⟨growth, config, verdict.completed t, t.segments.drop (verdict.completed t), none⟩ ∧
      (start growth config t).polls task steps s =
        (start growth config t).polls task k s ++ during ∧
      Halts config t verdict ((start growth config t).polls task k s) during := by
  induction steps generalizing verdict s' with
  | zero => simp [Stage.after] at ends
  | succ steps ih =>
    have made := Stage.polls_concat task s (.inl (start growth config t)) steps
    rw [Stage.after_succ] at ends
    rcases stage : Stage.after task steps s (.inl (start growth config t)) with ⟨q | earlier, s₁⟩
    · rw [stage] at ends made
      simp only [Stage.step, step_eq_run_turn, Prod.mk.injEq] at ends
      obtain ⟨k, early, during, begun, split, going⟩ :=
        going_after growth config t task s steps stage
      refine ⟨k, Nat.le_succ_of_le early, _, ?_, ?_, going.halts ends.1⟩
      · rw [going.completed ends.1]
        exact begun
      · rw [← List.append_assoc, ← split]
        exact made
    · rw [stage] at ends made
      obtain ⟨rfl, rfl⟩ : earlier = verdict ∧ s₁ = s' := by simpa [Stage.step] using ends
      obtain ⟨k, early, during, begun, split, halts⟩ := ih stage
      refine ⟨k, Nat.le_succ_of_le early, during, begun, ?_, halts⟩
      exact (made.trans (List.append_nil _)).trans split

/-- A run that fails at a segment had read and written just what the transcript has up to it when
the player stood before it; from there on it has written a part of what the segment injects and read
no more than the segment expects, unless all segments were done and the stream had to end. A run
that passes has read and written what the transcript has. No operation follows one that fails or
finds the end of the stream, and none follows the verdict. -/
theorem first_failure_ends_run (growth : Growth) (config : Config) (t : Transcript) (task : Task)
    (limit : Nat) (s s' : σ) (verdict : Verdict)
    (ends : (start growth config t).run task limit s = (some verdict, s')) :
    let polls := (start growth config t).polls task limit s
    polls.Made task s s' ∧
    (∀ fault, verdict = .error fault → ∃ k ≤ limit, ∃ during,
      (Stage.after task k s (.inl (start growth config t))).1 =
        .inl ⟨growth, config, fault.index, t.segments.drop fault.index, none⟩ ∧
      polls = (start growth config t).polls task k s ++ during ∧
      ((start growth config t).polls task k s).received = (t.upTo fault.index).content .fromIut ∧
      ((start growth config t).polls task k s).written = (t.upTo fault.index).content .toIut ∧
      during.written <+: t.due fault.index .toIut ∧
      (fault.index < t.length ∧ during.received.length ≤ (t.due fault.index .fromIut).length ∨
        fault.index = t.length ∧ config.trailing = .reject)) ∧
    (verdict = .ok () → polls.written = t.content .toIut ∧ polls.received = t.content .fromIut ∧
      polls.received.length = t.totalLength .fromIut) ∧
    (∀ poll ∈ polls, ∀ e, poll.1.fault? poll.2 = some e →
      ∃ i, verdict = .error ⟨config.name, i, .stream e⟩) ∧
    (∀ poll ∈ polls.dropLast, poll.1.fault? poll.2 = none ∧ poll.2 ≠ .data []) ∧
    ∀ more, (start growth config t).run task (limit + more) s = (some verdict, s') ∧
      (start growth config t).polls task (limit + more) s = polls := by
  intro polls
  have stands : Stage.after task limit s (.inl (start growth config t)) = (.inr verdict, s') :=
    Stage.run_eq_some_iff.1 ends
  obtain ⟨k, early, during, begun, split, halts⟩ := halts_after growth config t task s limit stands
  have whole : polls = (start growth config t).polls task k s ++ during := split
  have made := Stage.made_polls task s (.inl (start growth config t)) limit
  rw [stands] at made
  refine ⟨made, ?_, ?_, ?_, ?_, ?_⟩
  · rintro fault rfl
    refine ⟨k, early, during, begun, whole, halts.taken, halts.given, halts.part, ?_⟩
    rcases halts.place fault rfl with within | done
    · exact .inl ⟨within, halts.bound within⟩
    · exact .inr done
  · rintro rfl
    obtain ⟨sent, received⟩ := halts.passed rfl
    have all : t.upTo (Verdict.completed t (.ok ())) = t := by
      simp [Verdict.completed, Transcript.upTo, Transcript.length]
    have written : polls.written = t.content .toIut := by
      rw [whole, Polls.written_append, sent, List.append_nil, halts.given, all]
    have read : polls.received = t.content .fromIut := by
      rw [whole, Polls.received_append, received, List.append_nil, halts.taken, all]
    exact ⟨written, read, congrArg List.length read⟩
  · rw [whole]
    exact halts.aborts
  · rw [whole]
    exact halts.last
  · intro more
    obtain ⟨still, same⟩ := Stage.after_of_over stands more
    exact ⟨Stage.run_eq_some_iff.2 still, same⟩

def errand : Transcript := ⟨[.expect [1, 2], .inject [7, 8, 9], .expect [3, 4], .inject [5]]⟩

def faulty : Scripted :=
  .start [.wait, .give [1], .give [2, 3], .wait, .fail (.ofKind .connectionReset), .give [4]]
    [.give 1, .wait, .give 2] [.wait]

theorem errand_ends_at_reset :
    let polls := (start .standard .standard errand).polls "player" 40 faulty
    (start .standard .standard errand).run "player" 40 faulty =
      (some (.error ⟨"script", 2, .stream (.ofKind .connectionReset)⟩),
        { faulty with
          reads := [.give [4]], writes := [], flushes := [], written := [7, 8, 9], writeCalls := 3,
          flushCalls := 2 }) ∧
    polls.received = [1, 2, 3] ∧
    (∃ k ≤ 40, ∃ during,
      (Stage.after "player" k faulty (.inl (start .standard .standard errand))).1 =
        .inl ⟨.standard, .standard, 2, [.expect [3, 4], .inject [5]], none⟩ ∧
      polls = (start .standard .standard errand).polls "player" k faulty ++ during ∧
      ((start .standard .standard errand).polls "player" k faulty).received = [1, 2] ∧
      ((start .standard .standard errand).polls "player" k faulty).written = [7, 8, 9] ∧
      during.written <+: [] ∧ during.received.length ≤ 2) ∧
    ∀ poll ∈ polls.dropLast, poll.1.fault? poll.2 = none ∧ poll.2 ≠ .data [] := by
  intro polls
  obtain ⟨-, fails, -, -, last, -⟩ :=
    first_failure_ends_run .standard .standard errand "player" 40 faulty _ _ rfl
  obtain ⟨k, early, during, begun, split, taken, given, part, bound⟩ := fails _ rfl
  refine ⟨rfl, rfl, ⟨k, early, during, begun, split, taken, given, part, ?_⟩, last⟩
  rcases bound with ⟨-, short⟩ | ⟨done, -⟩
  · exact short
  · exact absurd done (by decide)

end Player

end WireScript.Replay
