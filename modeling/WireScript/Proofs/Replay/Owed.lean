import WireScript.Proofs.Replay.Sound
import WireScript.Proofs.Transcript.Stream

set_option autoImplicit false

namespace WireScript.Replay.Player

open Transcript (streamOf)
open Wire (Act Call Sight Turn)

def Owes (p : Player) (traffic : Traffic) : Prop :=
  p.config.trailing = .ignore ∧
  match p.call, p.rest with
  | none, rest => traffic = streamOf rest
  | some (.readUpTo missing got), s :: rest =>
    s.direction = .fromIut ∧ ∃ more, s.payload = got ++ more ∧ more.length = missing ∧
      traffic = Direction.fromIut.mark more ++ streamOf rest
  | some (.writeAll left), s :: rest =>
    s.direction = .toIut ∧ traffic = Direction.toIut.mark left ++ streamOf rest
  | some .flush, s :: rest => s.direction = .toIut ∧ traffic = streamOf rest
  | _, _ => False

theorem owes_start (growth : Wire.Growth) {config : Config}
    (ignores : config.trailing = .ignore) (t : Transcript) :
    (start growth config t).Owes (streamOf t.segments) := ⟨ignores, rfl⟩

variable {p : Player} {traffic : Traffic}

theorem Owes.after_still (owes : p.Owes traffic) {status : Status} (turn : p.turn = .still status) :
    (∃ q, status.part = .inl q ∧ q ≠ p ∧ q.Owes traffic) ∨ status.part = .inr (.ok ()) := by
  rcases p with ⟨growth, config, index, rest, _ | call⟩
  · obtain ⟨ignores, rfl⟩ := owes
    obtain rfl := Turn.still.inj turn
    cases rest with
    | nil =>
      have ignores : config.trailing = .ignore := ignores
      exact .inr (by simp [resort, ignores, Status.part])
    | cons s rest =>
      refine .inl ⟨_, rfl, by simp, ignores, ?_⟩
      rcases s with ⟨_ | _, payload⟩
      · exact ⟨rfl, payload, rfl, rfl, rfl⟩
      · exact ⟨rfl, rfl⟩
  · obtain ⟨ignores, script⟩ := owes
    cases rest with
    | nil => cases call <;> exact script.elim
    | cons s rest =>
      cases call with
      | readUpTo missing got =>
        cases missing with
        | zero =>
          obtain ⟨-, more, payload, zero, rfl⟩ := script
          obtain rfl : more = [] := List.eq_nil_of_length_eq_zero zero
          obtain rfl := Turn.still.inj turn
          -- All bytes of the segment have come, and they are the right ones.
          have same : s.payload = got := by simpa using payload
          have passes : (proceed ⟨growth, config, index, s :: rest, some (.readUpTo 0 got)⟩
              (.readUpTo 0 got) (.data got)).part =
                .inl ⟨growth, config, index + 1, rest, none⟩ := by
            simp [proceed, same, judge_self, Status.part, advance]
          exact .inl ⟨_, passes, by simp, ignores, rfl⟩
        | succ m => simp [Player.turn, Call.turn, Turn.map] at turn
      | writeAll left =>
        cases left with
        | nil =>
          obtain rfl := Turn.still.inj turn
          exact .inl ⟨_, rfl, by simp, ignores, script⟩
        | cons b left => simp [Player.turn, Call.turn, Turn.map] at turn
      | flush => simp [Player.turn, Call.turn, Turn.map] at turn
      | _ => exact script.elim

theorem Owes.asking_cases (owes : p.Owes traffic) {act : Act} {next : Sight → Status}
    (turn : p.turn = .asking act next) :
    (∃ more rest, more ≠ [] ∧ act = .read more.length ∧
      traffic = Direction.fromIut.mark more ++ rest ∧
      ∀ found left, more = found ++ left → found ≠ [] →
        ∃ q, (next (.data found)).part = .inl q ∧ q ≠ p ∧
          q.Owes (Direction.fromIut.mark left ++ rest)) ∨
    (∃ left rest, left ≠ [] ∧ act = .write left ∧ traffic = Direction.toIut.mark left ++ rest ∧
      ∃ q, (next (.count left.length)).part = .inl q ∧ q ≠ p ∧ q.Owes rest) ∨
    (act = .flush ∧ ∃ q, (next .done).part = .inl q ∧ q ≠ p ∧ q.Owes traffic) := by
  rcases p with ⟨growth, config, index, rest, _ | call⟩
  · simp [Player.turn] at turn
  · obtain ⟨ignores, script⟩ := owes
    obtain ⟨inner, asked, rfl⟩ := Turn.asking_of_map turn
    obtain rfl := Call.next_eq_resume asked
    cases rest with
    | nil => cases call <;> exact script.elim
    | cons s rest =>
      cases call with
      | readUpTo missing got =>
        obtain ⟨direction, more, payload, rfl, rfl⟩ := script
        cases more with
        | nil => simp [Call.turn] at asked
        | cons b more =>
          obtain ⟨rfl, -⟩ := Turn.asking.inj asked
          refine .inl ⟨b :: more, streamOf rest, by simp, rfl, rfl, ?_⟩
          intro found left split content
          refine ⟨⟨growth, config, index, s :: rest, some (.readUpTo left.length (got ++ found))⟩,
            ?_, ?_, ?_⟩
          · simp [Call.resume, content, follow, Status.part, split]
          · simp [content]
          · exact ⟨ignores, direction, left, by simp [payload, split], rfl, rfl⟩
      | writeAll left =>
        obtain ⟨direction, rfl⟩ := script
        cases left with
        | nil => simp [Call.turn] at asked
        | cons b left =>
          obtain ⟨rfl, -⟩ := Turn.asking.inj asked
          -- A write that is done is done as a whole, so that only the flush is left to do.
          refine .inr (.inl ⟨b :: left, streamOf rest, by simp, rfl, rfl, ?_⟩)
          refine ⟨⟨growth, config, index, s :: rest, some (.writeAll [])⟩, ?_, by simp, ?_⟩
          · simp [Call.resume, follow, Status.part]
          · exact ⟨ignores, direction, rfl⟩
      | flush =>
        obtain ⟨rfl, -⟩ := Turn.asking.inj asked
        refine .inr (.inr ⟨rfl, ⟨growth, config, index + 1, rest, none⟩, rfl, by simp, ignores,
          script.2⟩)
      | _ => exact script.elim

end WireScript.Replay.Player
