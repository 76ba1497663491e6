import WireScript.Proofs.Recording.Traffic
import WireScript.Proofs.Relay.Fidelity
import WireScript.Relay.Answers

set_option autoImplicit false

namespace WireScript.Wire.Scripted

variable {s : Scripted} {act : Act}

def append (s later : Scripted) : Scripted :=
  { s with
    reads := s.reads ++ later.reads
    writes := s.writes ++ later.writes
    flushes := s.flushes ++ later.flushes }

theorem append_append (s first later : Scripted) :
    (s.append first).append later = s.append (first.append later) := by
  simp [append]

@[simp] theorem append_nothing (s : Scripted) : s.append (.start [] [] []) = s := by
  simp [append, start]

def Foresees (s : Scripted) : Act → Prop
  | .read _ => s.reads ≠ []
  | .write _ => s.writes ≠ []
  | .flush | .close => s.flushes ≠ []
  | .release => True

theorem perform_append (foresees : s.Foresees act) (task : Task) (later : Scripted) :
    act.perform task (s.append later) =
      ((act.perform task s).1, (act.perform task s).2.append later) := by
  cases act with
  | read room =>
    rcases s with ⟨_ | ⟨first, reads⟩, writes, flushes, written, writeCalls, flushCalls⟩
    · exact absurd rfl foresees
    · cases first with
      | give data =>
        by_cases fits : data.length ≤ room <;>
          simp [Act.perform, Transport.read, read, append, fits]
      | wait => rfl
      | fail e => rfl
  | write data =>
    rcases s with ⟨reads, _ | ⟨first, writes⟩, flushes, written, writeCalls, flushCalls⟩
    · exact absurd rfl foresees
    · cases first <;> rfl
  | flush | close =>
    rcases s with ⟨reads, writes, _ | ⟨first, flushes⟩, written, writeCalls, flushCalls⟩
    · exact absurd rfl foresees
    · cases first <;> rfl
  | release => rfl

end WireScript.Wire.Scripted

namespace WireScript.Relay

open Recording (Tap)
open Wire (Act Failure Scripted Task)

theorem append_hearOf (act : Act) (answer : Except Failure Bytes) (s : Scripted) :
    s.append (hearOf act answer (.start [] [] [])) = hearOf act answer s := by
  cases act <;> simp [hearOf, Scripted.append, Scripted.start]

theorem foresees_hearOf (act : Act) (answer : Except Failure Bytes) (s : Scripted) :
    (hearOf act answer s).Foresees act := by
  cases act <;> simp [hearOf, Scripted.Foresees]

namespace Exchange

variable {x : Exchange Scripted Scripted} {lane : Lane}

def extend (x : Exchange Scripted Scripted) (client server : Scripted) :
    Exchange Scripted Scripted :=
  x.map (·.append client) (·.append server)

theorem extend_extend (x : Exchange Scripted Scripted) (client server client' server' : Scripted) :
    (x.extend client server).extend client' server' =
      x.extend (client.append client') (server.append server') := by
  simp [extend, map, Tap.map, Scripted.append_append]

theorem extend_untold (client server : Scripted) :
    untold.extend client server =
      start (.start client.reads client.writes client.flushes)
        (.start server.reads server.writes server.flushes) := rfl

theorem hear_eq_extend (x : Exchange Scripted Scripted) (lane : Lane)
    (answer : Except Failure Bytes) :
    ∃ client server, x.hear lane answer = x.extend client server := by
  cases wanted : x.wants lane with
  | none => exact ⟨.start [] [] [], .start [] [] [], by simp [hear, wanted, extend, map, Tap.map]⟩
  | some act =>
    cases side : lane.onClient act with
    | true =>
      exact ⟨hearOf act answer (.start [] [] []), .start [] [] [],
        by simp [hear, wanted, side, extend, map, Tap.map, append_hearOf]⟩
    | false =>
      exact ⟨.start [] [] [], hearOf act answer (.start [] [] []),
        by simp [hear, wanted, side, extend, map, Tap.map, append_hearOf]⟩

theorem wants_hear (x : Exchange Scripted Scripted) (lane : Lane)
    (answer : Except Failure Bytes) : (x.hear lane answer).wants lane = x.wants lane := by
  obtain ⟨client, server, extended⟩ := x.hear_eq_extend lane answer
  rw [extended]
  cases lane <;> rfl

theorem step_hear_extend (x : Exchange Scripted Scripted) (task : Task) (lane : Lane)
    (answer : Except Failure Bytes) (client server : Scripted) :
    ((x.hear lane answer).extend client server).step task lane =
      (x.proceed task lane answer).extend client server := by
  refine step_map ?_ ?_ <;> intro act wanted side <;> refine Scripted.perform_append ?_ task _
  all_goals
    rw [wants_hear] at wanted
    simpa [hear, wanted, side] using foresees_hearOf act answer _

theorem proceeds_eq_steps (task : Task) (told : List (Lane × Except Failure Bytes))
    (x : Exchange Scripted Scripted) :
    ∃ client server,
      x.proceeds task told = (x.extend client server).steps task (told.map Prod.fst) := by
  induction told generalizing x with
  | nil => exact ⟨.start [] [] [], .start [] [] [], by simp [proceeds, steps, extend, map, Tap.map]⟩
  | cons next told ih =>
    obtain ⟨lane, answer⟩ := next
    obtain ⟨first, first', heard⟩ := x.hear_eq_extend lane answer
    obtain ⟨client, server, later⟩ := ih (x.proceed task lane answer)
    refine ⟨first.append client, first'.append server, ?_⟩
    rw [proceeds, later, ← step_hear_extend, heard, extend_extend]
    rfl

-- An exchange that is told what its operations come to is one whose streams had all of that in
-- them from the start.
theorem told_as_if_foreseen (task : Task) (told : List (Lane × Except Failure Bytes)) :
    ∃ client server : Scripted,
      untold.proceeds task told = (start client server).steps task (told.map Prod.fst) := by
  obtain ⟨client, server, same⟩ := proceeds_eq_steps task told untold
  exact ⟨_, _, same.trans (congrArg (steps task · _) (extend_untold client server))⟩

end Exchange

end WireScript.Relay
