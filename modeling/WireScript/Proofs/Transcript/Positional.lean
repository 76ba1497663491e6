import WireScript.Transcript.Positional

set_option autoImplicit false

namespace WireScript

def Direction.atPlace (index : Nat) : Direction :=
  if index % 2 = 0 then .fromIut else .toIut

@[simp] theorem Direction.atPlace_zero : atPlace 0 = .fromIut := rfl

theorem Direction.atPlace_succ (index : Nat) : atPlace (index + 1) = (atPlace index).flip := by
  by_cases even : index % 2 = 0
  · have odd : (index + 1) % 2 ≠ 0 := by omega
    simp [atPlace, even, odd, flip]
  · have even' : (index + 1) % 2 = 0 := by omega
    simp [atPlace, even, even', flip]

namespace Transcript

theorem alternate_eq_mapIdx (start : Nat) (script : List Bytes) :
    alternate (.atPlace start) script =
      script.mapIdx (fun i payload => ⟨.atPlace (start + i), payload⟩) := by
  induction script generalizing start with
  | nil => rfl
  | cons payload rest ih =>
    have later (i : Nat) : start + 1 + i = start + (i + 1) := by omega
    rw [alternate, ← Direction.atPlace_succ, ih, List.mapIdx_cons]
    simp only [later, Nat.add_zero]

theorem payloads_eq_ok_iff (index : Nat) (turn : Direction) (segments : List Segment)
    (script : List Bytes) :
    payloads index turn segments = .ok script ↔ segments = alternate turn script := by
  induction segments generalizing index turn script with
  | nil => cases script <;> simp [payloads, alternate]
  | cons s rest ih =>
    by_cases fits : s.direction = turn
    · cases script with
      | nil =>
        cases told : payloads (index + 1) turn.flip rest <;>
          simp [payloads, alternate, fits, told, Except.map]
      | cons payload script =>
        have first : s = ⟨turn, payload⟩ ↔ s.payload = payload := by
          rw [← fits]
          cases s
          simp
        rw [payloads, if_pos fits, alternate, List.cons.injEq, first, ← ih (index + 1)]
        cases told : payloads (index + 1) turn.flip rest <;> simp [Except.map]
    · -- Neither side holds: the first segment is not the one that any script begins with.
      rw [payloads, if_neg fits]
      cases script with
      | nil => simp [alternate]
      | cons payload script =>
        have other : s ≠ ⟨turn, payload⟩ := fun same => fits (congrArg Segment.direction same)
        simp [alternate, other]

def Strays (start : Nat) (segments : List Segment) (index : Nat) (d : Direction) : Prop :=
  ∃ s, segments[index]? = some s ∧ s.direction = d ∧ d ≠ .atPlace (start + index)

section Strays

variable {start : Nat} {s : Segment} {rest : List Segment} {d : Direction}

theorem strays_cons_zero :
    Strays start (s :: rest) 0 d ↔ s.direction = d ∧ d ≠ .atPlace start := by
  simp [Strays]

theorem strays_cons_succ {index : Nat} :
    Strays start (s :: rest) (index + 1) d ↔ Strays (start + 1) rest index d := by
  have same : start + 1 + index = start + (index + 1) := by omega
  simp [Strays, same]

end Strays

theorem payloads_eq_error_iff (start : Nat) (segments : List Segment) (e : NotAlternating) :
    payloads start (.atPlace start) segments = .error e ↔
      ∃ index, e.index = start + index ∧ Strays start segments index e.direction ∧
        ∀ i < index, ∀ d, ¬Strays start segments i d := by
  induction segments generalizing start with
  | nil => simp [payloads, Strays]
  | cons s rest ih =>
    by_cases fits : s.direction = .atPlace start
    · -- The first one is in its turn, so that the one to blame is among the others.
      have first (d : Direction) : ¬Strays start (s :: rest) 0 d := by
        rw [strays_cons_zero]
        rintro ⟨rfl, wrong⟩
        exact wrong fits
      have told : payloads start (.atPlace start) (s :: rest) = .error e ↔
          payloads (start + 1) (.atPlace (start + 1)) rest = .error e := by
        rw [payloads, if_pos fits, ← Direction.atPlace_succ]
        cases payloads (start + 1) (.atPlace (start + 1)) rest <;> simp [Except.map]
      rw [told, ih]
      constructor
      · rintro ⟨index, place, strays, least⟩
        refine ⟨index + 1, by omega, strays_cons_succ.2 strays, ?_⟩
        rintro (_ | i) below d
        · exact first d
        · rw [strays_cons_succ]
          exact least i (by omega) d
      · rintro ⟨_ | index, place, strays, least⟩
        · exact absurd strays (first _)
        · refine ⟨index, by omega, strays_cons_succ.1 strays, ?_⟩
          intro i below d
          rw [← strays_cons_succ]
          exact least (i + 1) (by omega) d
    · have here : Strays start (s :: rest) 0 s.direction := strays_cons_zero.2 ⟨rfl, fits⟩
      rw [payloads, if_neg fits, Except.error.injEq]
      constructor
      · rintro rfl
        exact ⟨0, rfl, here, by simp⟩
      · rintro ⟨_ | index, place, strays, least⟩
        · obtain ⟨direction, -⟩ := strays_cons_zero.1 strays
          cases e
          simp_all
        · exact absurd here (least 0 (by omega) _)

theorem not_strays_alternate (script : List Bytes) (index : Nat) (d : Direction) :
    ¬Strays 0 (alternate .fromIut script) index d := by
  rintro ⟨s, there, rfl, wrong⟩
  rw [← Direction.atPlace_zero, alternate_eq_mapIdx, List.getElem?_mapIdx] at there
  obtain ⟨payload, -, rfl⟩ := Option.map_eq_some_iff.1 there
  exact wrong rfl

/-- Positional scripts are the transcripts whose segments take turns by the parity of their places.
A transcript is told as a script if and only if it is the transcript of that script, and it has one
if and only if no segment strays; otherwise the first segment that strays is blamed. -/
theorem positional_iff_taking_turns :
    (∀ script, (ofPositional script).segments =
      script.mapIdx (fun i payload => ⟨.atPlace i, payload⟩)) ∧
    (∀ t script, toPositional t = .ok script ↔ t = ofPositional script) ∧
    (∀ t, (∃ script, toPositional t = .ok script) ↔ ∀ i d, ¬Strays 0 t.segments i d) ∧
    ∀ t e, toPositional t = .error e ↔
      Strays 0 t.segments e.index e.direction ∧ ∀ i < e.index, ∀ d, ¬Strays 0 t.segments i d := by
  have told (t : Transcript) (script : List Bytes) :
      toPositional t = .ok script ↔ t = ofPositional script := by
    cases t
    simp [toPositional, payloads_eq_ok_iff, ofPositional]
  have blamed (t : Transcript) (e : NotAlternating) : toPositional t = .error e ↔
      Strays 0 t.segments e.index e.direction ∧ ∀ i < e.index, ∀ d, ¬Strays 0 t.segments i d := by
    simpa [toPositional] using payloads_eq_error_iff 0 t.segments e
  refine ⟨?_, told, ?_, blamed⟩
  · intro script
    simpa [ofPositional] using alternate_eq_mapIdx 0 script
  · intro t
    constructor
    · rintro ⟨script, ok⟩
      rw [(told t script).1 ok]
      exact not_strays_alternate script
    · intro turns
      cases result : toPositional t with
      | ok script => exact ⟨script, rfl⟩
      | error e => exact absurd ((blamed t e).1 result).1 (turns _ _)

-- The third segment has the turn of the second one again.
example : toPositional ⟨[.expect [1], .inject [2], .inject [3], .inject [4]]⟩ =
    .error ⟨2, .toIut⟩ := rfl

end Transcript

end WireScript
