import WireScript.Proofs.Replay.Run

set_option autoImplicit false

namespace WireScript

def Bytes.parting (expected actual : Bytes) : Option Nat :=
  (expected.zip actual).findIdx? (fun pair => pair.1 ≠ pair.2)

theorem Bytes.firstMismatch_of_length_eq {expected actual : Bytes}
    (even : expected.length = actual.length) :
    firstMismatch expected actual = parting expected actual := by
  unfold parting
  fun_induction firstMismatch expected actual with
  | case1 => rfl
  | case2 a actual => simp at even
  | case3 e expected => simp at even
  | case4 e expected actual ih =>
    rw [ih (by simpa using even)]
    simp [List.findIdx?_cons]
  | case5 e expected a actual differ => simp [List.findIdx?_cons, differ]

namespace Replay

open Wire (Call Growth Reliable Scripted Task Transport)

structure Reckoning where
  verdict : Verdict
  output : Bytes
  rest : Bytes

-- How a replay ends that has come to the segment at `index`, given all bytes that the
-- implementation has yet to emit.
def reckon (config : Config) (index : Nat) : List Segment → (input : Bytes) → Reckoning
  | [], input =>
    match config.trailing with
    | .ignore => ⟨.ok (), [], input⟩
    | .reject =>
      if input = [] then ⟨.ok (), [], []⟩
      else ⟨.error ⟨config.name, index, .trailing input⟩, [], []⟩
  | ⟨.toIut, payload⟩ :: later, input =>
    let reckoning := reckon config (index + 1) later input
    { reckoning with output := payload ++ reckoning.output }
  | ⟨.fromIut, payload⟩ :: later, input =>
    let taken := input.take payload.length
    if input.length < payload.length then
      ⟨.error ⟨config.name, index, .shortRead payload.length input.length⟩, [], []⟩
    else
      match Bytes.parting payload taken with
      | some offset =>
        ⟨.error ⟨config.name, index, .mismatch offset payload taken⟩, [], input.drop payload.length⟩
      | none => reckon config (index + 1) later (input.drop payload.length)

theorem judge_take (payload input : Bytes) :
    judge payload (input.take payload.length) =
      if input.length < payload.length then .error (.shortRead payload.length input.length)
      else
        match Bytes.parting payload (input.take payload.length) with
        | some offset => .error (.mismatch offset payload (input.take payload.length))
        | none => .ok () := by
  by_cases few : input.length < payload.length
  · have all : input.take payload.length = input := List.take_of_length_le (Nat.le_of_lt few)
    simp [judge, all, few]
  · have enough : (input.take payload.length).length = payload.length := by
      rw [List.length_take]
      omega
    have where' := Bytes.firstMismatch_of_length_eq enough.symm
    cases parted : Bytes.parting payload (input.take payload.length) <;>
      simp [judge, enough, few, where', parted]

variable {σ : Type} [Transport σ] {task : Task} {Carries : σ → Bytes → Prop}
variable {s : σ} {input : Bytes} (growth : Growth) (config : Config) (index : Nat)

namespace Stage

def ofRead (growth : Growth) (config : Config) (index : Nat) (segment : Segment)
    (later : List Segment) (actual : Bytes) : Stage :=
  match judge segment.payload actual with
  | .ok _ => .inl ⟨growth, config, index + 1, later, none⟩
  | .error cause => .inr (.error ⟨config.name, index, cause⟩)

theorem part_proceed_read (segment : Segment) (later : List Segment) (missing : Nat)
    (got actual : Bytes) (call : Option Call) :
    (Player.proceed ⟨growth, config, index, segment :: later, call⟩ (.readUpTo missing got)
      (.data actual)).part = ofRead growth config index segment later actual := by
  simp only [Player.proceed, ofRead]
  cases judge segment.payload actual <;> rfl

theorem leads_readUpTo (reliable : Reliable task Carries) (carries : Carries s input)
    (segment : Segment) (later : List Segment) (missing : Nat) (got : Bytes) :
    ∃ s', Leads task
        (.inl ⟨growth, config, index, segment :: later, some (.readUpTo missing got)⟩) s []
        (ofRead growth config index segment later (got ++ input.take missing)) s' ∧
      Carries s' (input.drop missing) := by
  -- A read may find any part of what is missing, so the induction is on how much that is.
  induction missing using Nat.strongRecOn generalizing s input got with
  | ind missing ih =>
    rcases missing with _ | missing
    · refine ⟨s, .still rfl ?_, carries⟩
      rw [Player.follow, part_proceed_read]
      simpa using Leads.refl _ s
    · obtain ⟨found, rest, s₁, yields, short, rfl, ends, carries⟩ :=
        reliable.read (missing + 1) carries (Nat.succ_ne_zero missing)
      by_cases empty : found = []
      · -- The stream has ended, and the segment is judged by what has come.
        obtain rfl : rest = [] := by simpa [empty] using ends empty
        refine ⟨s₁, ?_, by simpa [empty] using carries⟩
        refine Leads.ask rfl yields ?_
        simp only [Function.comp, Call.resume, empty, if_true, Player.follow, part_proceed_read]
        simpa using Leads.refl _ s₁
      · have fewer : missing + 1 - found.length < missing + 1 := by
          have := List.length_pos_iff.2 empty
          omega
        obtain ⟨s', goes, carries⟩ := ih _ fewer carries (got ++ found)
        have taken : (found ++ rest).take (missing + 1) =
            found ++ rest.take (missing + 1 - found.length) := by
          rw [List.take_append, List.take_of_length_le short]
        have left : (found ++ rest).drop (missing + 1) =
            rest.drop (missing + 1 - found.length) := by
          rw [List.drop_append, List.drop_of_length_le short, List.nil_append]
        rw [taken, left, ← List.append_assoc]
        refine ⟨s', Leads.ask rfl yields ?_, carries⟩
        simpa [Call.resume, empty, Player.follow, Status.part] using goes

theorem leads_flush (reliable : Reliable task Carries) (carries : Carries s input)
    (segment : Segment) (later : List Segment) :
    ∃ s', Leads task (.inl ⟨growth, config, index, segment :: later, some .flush⟩) s []
        (.inl ⟨growth, config, index + 1, later, none⟩) s' ∧ Carries s' input := by
  obtain ⟨s', yields, carries⟩ := reliable.flush carries
  exact ⟨s', Leads.ask rfl yields (.refl _ s'), carries⟩

theorem leads_writeAll (reliable : Reliable task Carries) (carries : Carries s input)
    (segment : Segment) (later : List Segment) (left : Bytes) :
    ∃ s', Leads task (.inl ⟨growth, config, index, segment :: later, some (.writeAll left)⟩) s left
        (.inl ⟨growth, config, index + 1, later, none⟩) s' ∧ Carries s' input := by
  induction size : left.length using Nat.strongRecOn generalizing s left with
  | ind size ih =>
    subst size
    rcases left with _ | ⟨b, left⟩
    · obtain ⟨s', flushes, carries⟩ :=
        leads_flush growth config index reliable carries segment later
      exact ⟨s', .still rfl flushes, carries⟩
    · -- The stream takes some bytes, and the call goes on with the others.
      obtain ⟨n, s₁, yields, positive, short, carries⟩ :=
        reliable.write (b :: left) carries (List.cons_ne_nil b left)
      have fewer : ((b :: left).drop n).length < (b :: left).length := by
        rw [List.length_drop]
        omega
      obtain ⟨s', goes, carries⟩ := ih _ fewer carries _ rfl
      have writes : Leads task
          (.inl ⟨growth, config, index, segment :: later, some (.writeAll (b :: left))⟩) s
          ((b :: left).take n ++ (b :: left).drop n)
          (.inl ⟨growth, config, index + 1, later, none⟩) s' := by
        refine Leads.ask rfl yields ?_
        simpa [Call.resume, Nat.ne_of_gt positive, Player.follow, Status.part] using goes
      rw [List.take_append_drop] at writes
      exact ⟨s', writes, carries⟩

theorem leads_readToEnd (reliable : Reliable task Carries) (carries : Carries s input)
    (got : Bytes) :
    ∃ s', Leads task (.inl ⟨growth, config, index, [], some (.readToEnd growth got)⟩) s []
        (.inr (if got ++ input = [] then .ok ()
          else .error ⟨config.name, index, .trailing (got ++ input)⟩)) s' ∧
      Carries s' [] := by
  induction size : input.length using Nat.strongRecOn generalizing s input got with
  | ind size ih =>
    subst size
    obtain ⟨found, rest, s₁, yields, -, rfl, ends, carries⟩ :=
      reliable.read _ carries (growth.roomy got.length)
    by_cases empty : found = []
    · obtain rfl : rest = [] := by simpa [empty] using ends empty
      refine ⟨s₁, Leads.ask rfl yields ?_, carries⟩
      by_cases nothing : got = [] <;>
        simpa [Call.resume, empty, nothing, Player.follow, Player.proceed, Player.fail, Status.part]
          using Leads.refl _ s₁
    · have fewer : rest.length < (found ++ rest).length := by
        have := List.length_pos_iff.2 empty
        rw [List.length_append]
        omega
      obtain ⟨s', goes, carries⟩ := ih _ fewer carries (got ++ found) rfl
      rw [← List.append_assoc]
      refine ⟨s', Leads.ask rfl yields ?_, carries⟩
      simpa [Call.resume, empty, Player.follow, Status.part] using goes

theorem leads_reckon (reliable : Reliable task Carries) (carries : Carries s input)
    (segments : List Segment) :
    ∃ s', Leads task (.inl ⟨growth, config, index, segments, none⟩) s
        (reckon config index segments input).output
        (.inr (reckon config index segments input).verdict) s' ∧
      Carries s' (reckon config index segments input).rest := by
  induction segments generalizing index s input with
  | nil =>
    cases trailing : config.trailing with
    | ignore =>
      have passes : (Player.resort ⟨growth, config, index, [], none⟩).part = .inr (.ok ()) := by
        simp [Player.resort, trailing, Status.part]
      simp only [reckon, trailing]
      exact ⟨s, .still rfl (passes ▸ .refl _ s), carries⟩
    | reject =>
      obtain ⟨s', reads, carries⟩ := leads_readToEnd growth config index reliable carries []
      have opens : (Player.resort ⟨growth, config, index, [], none⟩).part =
          .inl ⟨growth, config, index, [], some (.readToEnd growth [])⟩ := by
        simp [Player.resort, trailing, Status.part]
      rw [List.nil_append, ← opens] at reads
      by_cases nothing : input = [] <;>
        simp only [reckon, trailing, nothing, if_true, if_false] at reads ⊢ <;>
        exact ⟨s', .still rfl reads, carries⟩
  | cons segment later ih =>
    rcases segment with ⟨_ | _, payload⟩
    · obtain ⟨s₁, reads, carries⟩ :=
        leads_readUpTo growth config index reliable carries ⟨.fromIut, payload⟩ later
          payload.length []
      rw [List.nil_append, ofRead, judge_take] at reads
      -- Too few bytes come before bytes that differ.
      by_cases few : input.length < payload.length
      · rw [List.drop_of_length_le (Nat.le_of_lt few)] at carries
        simp only [reckon, few, if_true] at reads ⊢
        exact ⟨s₁, .still rfl reads, carries⟩
      · cases differ : Bytes.parting payload (input.take payload.length) with
        | some offset =>
          simp only [reckon, few, if_false, differ] at reads ⊢
          exact ⟨s₁, .still rfl reads, carries⟩
        | none =>
          simp only [reckon, few, if_false, differ] at reads ⊢
          obtain ⟨s', goes, carries⟩ := ih (index + 1) carries
          exact ⟨s', .still rfl (reads.trans goes), carries⟩
    · obtain ⟨s₁, writes, carries⟩ :=
        leads_writeAll growth config index reliable carries ⟨.toIut, payload⟩ later payload
      obtain ⟨s', goes, carries⟩ := ih (index + 1) carries
      exact ⟨s', .still rfl (writes.trans goes), carries⟩

end Stage

namespace Player

def wary : Config := ⟨"script", .reject, none⟩

def dialogue : Transcript :=
  ⟨[.expect [1], .inject [7, 8, 9], .expect [], .expect [2, 3, 4], .inject []]⟩

def sluggish : Scripted :=
  .start [.wait, .give [1, 2, 3], .wait, .wait, .give [4, 5], .give [6]]
    [.give 1, .wait, .give 1, .give 4] [.wait]

def prompt : Scripted := .start [.give [1, 2, 3, 4, 5, 6]] [] []

end Player

end Replay

end WireScript
