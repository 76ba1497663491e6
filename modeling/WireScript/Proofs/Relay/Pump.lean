import WireScript.Proofs.Wire.Polls
import WireScript.Relay.Exchange

set_option autoImplicit false

namespace WireScript.Relay

open Wire (Act Failure Poll Polls Sight Task Transport)

def Status.failure? : Status → Option Failure
  | .failed e => some e
  | _ => none

namespace Pump

def left : Pump → Bytes
  | .writing left => left
  | _ => []

def Drained : Pump → Prop
  | .reading | .writing _ => False
  | _ => True

def asks : Pump → Option Act
  | .writing left => some (.write left)
  | .flushing => some .flush
  | .closing => some .close
  | _ => none

def resume : Pump → Sight → Status × Pump
  | p, .failed e => (.failed e, p)
  | .reading, .data found => (.running, if found = [] then .flushing else .writing found)
  | .writing left, .count n =>
    if n = 0 then (.failed (.ofKind .writeZero), .writing left)
    else (.running, if left.drop n = [] then .reading else .writing (left.drop n))
  | .flushing, .done => (.running, .closing)
  | .closing, .done => (.done, .done)
  | p, _ => (.waiting, p)

inductive Takes : Pump → Polls → Polls → Status × Pump → Prop
  | reads (sight : Sight) : Takes .reading [(.read room, sight)] [] (resume .reading sight)
  | asks {p : Pump} {act : Act} (asked : p.asks = some act) (sight : Sight) :
      Takes p [] [(act, sight)] (p.resume sight)
  | rests : Takes .done [] [] (.done, .done)

theorem asks_cases {p : Pump} {act : Act} (asked : p.asks = some act) :
    (∃ left, p = .writing left ∧ act = .write left) ∨ (p = .flushing ∧ act = .flush) ∨
      (p = .closing ∧ act = .close) := by
  cases p <;> simp_all [asks]

theorem wants_of_asks {p : Pump} {act : Act} (asked : p.asks = some act) : p.wants = some act := by
  obtain ⟨left, rfl, rfl⟩ | ⟨rfl, rfl⟩ | ⟨rfl, rfl⟩ := asks_cases asked <;> rfl

theorem onClient_of_asks {p : Pump} {act : Act} (asked : p.asks = some act) :
    Lane.toServer.onClient act = false ∧ Lane.toClient.onClient act = true := by
  obtain ⟨left, rfl, rfl⟩ | ⟨rfl, rfl⟩ | ⟨rfl, rfl⟩ := asks_cases asked <;> exact ⟨rfl, rfl⟩

theorem after_eq_resume {α : Type} (p : Pump) (onReady : α → Status × Pump) (reveal : α → Sight)
    (agree : ∀ value, onReady value = p.resume (reveal value)) (poll : Poll α) :
    p.after onReady poll = p.resume (Sight.ofPoll reveal poll) := by
  rcases poll with _ | (e | value)
  · cases p <;> rfl
  · cases p <;> rfl
  · exact agree value

section Step

variable {κ ς : Type} [Transport κ] [Transport ς]

theorem step_reading (task : Task) (source : κ) (target : ς) :
    Pump.reading.step task source target =
      (resume .reading ((Act.read room).perform task source).1,
        ((Act.read room).perform task source).2, target) :=
  Prod.ext (after_eq_resume _ _ _ (by intro; rfl) _) rfl

theorem step_of_asks {p : Pump} {act : Act} (asked : p.asks = some act) (task : Task) (source : κ)
    (target : ς) :
    p.step task source target =
      (p.resume (act.perform task target).1, source, (act.perform task target).2) := by
  obtain ⟨left, rfl, rfl⟩ | ⟨rfl, rfl⟩ | ⟨rfl, rfl⟩ := asks_cases asked
  all_goals exact Prod.ext (after_eq_resume _ _ _ (by intro; rfl) _) rfl

theorem reading_or_asks_or_done (p : Pump) :
    p = .reading ∨ (∃ act, p.asks = some act) ∨ p = .done := by
  cases p <;> simp [asks]

theorem step_takes (task : Task) (p : Pump) (source : κ) (target : ς) :
    ∃ onSource onTarget, Takes p onSource onTarget (p.step task source target).1 ∧
      onSource.Made task source (p.step task source target).2.1 ∧
      onTarget.Made task target (p.step task source target).2.2 := by
  obtain rfl | ⟨act, asked⟩ | rfl := p.reading_or_asks_or_done
  · rw [step_reading]
    exact ⟨_, _, .reads _, ⟨_, rfl, rfl⟩, rfl⟩
  · rw [step_of_asks asked]
    exact ⟨_, _, .asks asked _, rfl, ⟨_, rfl, rfl⟩⟩
  · exact ⟨_, _, .rests, rfl, rfl⟩

theorem step_map {κ' ς' : Type} [Transport κ'] [Transport ς'] {task : Task} {f : κ → κ'}
    {g : ς → ς'} {p : Pump} {source : κ} {target : ς}
    (onSource : p = .reading → (Act.read room).Passes task f source)
    (onTarget : ∀ act, p.asks = some act → act.Passes task g target) :
    p.step task (f source) (g target) =
      ((p.step task source target).1, f (p.step task source target).2.1,
        g (p.step task source target).2.2) := by
  obtain rfl | ⟨act, asked⟩ | rfl := p.reading_or_asks_or_done
  · have passes := onSource rfl
    rw [Act.Passes] at passes
    simp only [step_reading, passes]
  · have passes := onTarget act asked
    rw [Act.Passes] at passes
    simp only [step_of_asks asked, passes]
  · rfl

end Step

structure Conveys (p : Pump) (source target : Polls) : Prop where
  carried : source.received = target.written ++ p.left
  ended : p.Drained → source.Ended
  closed : p = .done → (.close, .done) ∈ target

theorem conveys_nothing : Conveys .reading [] [] := ⟨rfl, False.elim, by simp⟩

variable {p : Pump} {source target : Polls} {outcome : Status × Pump}

theorem Conveys.extend (conveys : Conveys p source target) (onSource onTarget : Polls)
    (received : onSource.received = []) (found : onSource.found = [])
    (written : onTarget.written = []) : Conveys p (source ++ onSource) (target ++ onTarget) := by
  refine ⟨?_, ?_, ?_⟩
  · rw [Polls.received_append, Polls.written_append, received, written, conveys.carried]
    simp
  · intro drained
    rw [Polls.Ended, Polls.found_append, found, List.append_nil]
    exact conveys.ended drained
  · intro done
    exact List.mem_append_left onTarget (conveys.closed done)

theorem Conveys.reads (conveys : Conveys .reading source target) (found : Bytes) :
    Conveys (resume .reading (.data found)).2 (source ++ [(.read room, .data found)]) target := by
  have all : source.received = target.written := by simpa [left] using conveys.carried
  by_cases nothing : found = []
  · subst nothing
    refine ⟨?_, ?_, by simp [resume]⟩
    · simp [Polls.received_append, all, resume, left, Act.received]
    · intro
      simp [Polls.Ended, Polls.found]
  · refine ⟨?_, by simp [resume, nothing, Drained], by simp [resume, nothing]⟩
    simp [Polls.received_append, all, resume, nothing, left, Act.received]

theorem Conveys.writes {rest : Bytes} (conveys : Conveys (.writing rest) source target) (n : Nat) :
    Conveys (resume (.writing rest) (.count n)).2 source
      (target ++ [(.write rest, .count n)]) := by
  have carried : source.received = target.written ++ rest := conveys.carried
  by_cases zero : n = 0
  · refine ⟨?_, by simp [resume, zero, Drained], by simp [resume, zero]⟩
    simp [Polls.written_append, carried, resume, zero, left, Act.sent]
  · -- What is taken is the front of what is left, and the rest comes next.
    have onward : (resume (.writing rest) (.count n)).2 =
        if rest.drop n = [] then .reading else .writing (rest.drop n) := by
      simp [resume, zero]
    have remains : (if rest.drop n = [] then .reading else .writing (rest.drop n) : Pump).left =
        rest.drop n := by
      split
      · simp_all [left]
      · rfl
    rw [onward]
    refine ⟨?_, ?_, ?_⟩
    · rw [remains, carried, Polls.written_append]
      simp [Act.sent]
    · split <;> exact False.elim
    · split <;> simp

namespace Takes

variable {onSource onTarget : Polls}

theorem written_onSource (takes : Takes p onSource onTarget outcome) : onSource.written = [] := by
  cases takes with
  | reads sight => cases sight <;> rfl
  | asks asked sight => rfl
  | rests => rfl

theorem read_onTarget (takes : Takes p onSource onTarget outcome) :
    onTarget.received = [] ∧ onTarget.found = [] := by
  cases takes with
  | reads sight => exact ⟨rfl, rfl⟩
  | asks asked sight =>
    obtain ⟨rest, rfl, rfl⟩ | ⟨rfl, rfl⟩ | ⟨rfl, rfl⟩ := asks_cases asked
    all_goals cases sight <;> exact ⟨rfl, rfl⟩
  | rests => exact ⟨rfl, rfl⟩

theorem faults (takes : Takes p onSource onTarget outcome) :
    onSource.faults ++ onTarget.faults = outcome.1.failure?.toList := by
  cases takes with
  | reads sight => cases sight <;> simp [Polls.faults, Act.fault?, resume, Status.failure?]
  | asks asked sight =>
    obtain ⟨rest, rfl, rfl⟩ | ⟨rfl, rfl⟩ | ⟨rfl, rfl⟩ := asks_cases asked
    · cases sight with
      | count n => cases n <;> rfl
      | _ => rfl
    all_goals cases sight <;> simp [Polls.faults, Act.fault?, resume, Status.failure?]
  | rests => rfl

theorem faults_comm (takes : Takes p onSource onTarget outcome) :
    onTarget.faults ++ onSource.faults = onSource.faults ++ onTarget.faults := by
  -- A step makes an operation on one of the streams only.
  cases takes with
  | reads sight => exact (List.append_nil _).symm
  | asks asked sight => exact List.append_nil _
  | rests => rfl

theorem conveys (takes : Takes p onSource onTarget outcome) (before : Conveys p source target) :
    Conveys outcome.2 (source ++ onSource) (target ++ onTarget) := by
  -- An operation that has to wait or fails leaves the pump where it is.
  cases takes with
  | reads sight =>
    cases sight with
    | data found =>
      rw [List.append_nil]
      exact before.reads found
    | _ => exact before.extend _ _ rfl rfl rfl
  | asks asked sight =>
    obtain ⟨rest, rfl, rfl⟩ | ⟨rfl, rfl⟩ | ⟨rfl, rfl⟩ := asks_cases asked
    · cases sight with
      | count n =>
        rw [List.append_nil]
        exact before.writes n
      | _ => exact before.extend _ _ rfl rfl rfl
    · have after := before.extend [] [(.flush, sight)] rfl rfl (by cases sight <;> rfl)
      cases sight with
      | done => exact ⟨after.carried, fun _ => after.ended trivial, by simp [resume]⟩
      | _ => exact after
    · have after := before.extend [] [(.close, sight)] rfl rfl (by cases sight <;> rfl)
      cases sight with
      | done => exact ⟨after.carried, fun _ => after.ended trivial, by simp⟩
      | _ => exact after
  | rests => exact before.extend [] [] rfl rfl rfl

end Takes

end Pump

end WireScript.Relay
