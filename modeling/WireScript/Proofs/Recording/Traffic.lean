import WireScript.Proofs.Transcript.Stream
import WireScript.Proofs.Wire.Polls
import WireScript.Recording.Tap

set_option autoImplicit false

namespace WireScript.Recording

open Wire (Act Polls Sight Task Transport)

def carried (p : Perspective) (act : Act) (sight : Sight) : Traffic :=
  (p.direction .sent).mark (act.sent sight) ++ (p.direction .received).mark (act.received sight)

@[simp] theorem carried_pending (p : Perspective) (act : Act) : carried p act .pending = [] := by
  cases act <;> rfl

@[simp] theorem carried_done (p : Perspective) (act : Act) : carried p act .done = [] := by
  cases act <;> rfl

def trafficOf (p : Perspective) (polls : Polls) : Traffic :=
  polls.flatMap (fun poll => carried p poll.1 poll.2)

namespace Log

def note (log : Log) : Act → Sight → Log
  | .read _, .data found => log.record .received found
  | .write data, .count n => log.record .sent (data.take n)
  | _, _ => log

def traffic (log : Log) (p : Perspective) : Traffic :=
  Transcript.streamOf (log.events.map (·.segment p))

@[simp] theorem traffic_fresh (p : Perspective) : fresh.traffic p = [] := rfl

theorem traffic_record (log : Log) (p : Perspective) (flow : Flow) (payload : Bytes) :
    (log.record flow payload).traffic p = log.traffic p ++ (p.direction flow).mark payload := by
  -- A transfer of nothing is not logged.
  by_cases nothing : payload = []
  · simp [record, nothing]
  · simp [record, nothing, traffic, Event.segment, Segment.stream]

theorem traffic_note (log : Log) (p : Perspective) (act : Act) (sight : Sight) :
    (log.note act sight).traffic p = log.traffic p ++ carried p act sight := by
  cases act with
  | read room => cases sight <;> simp [note, carried, traffic_record, Act.received, Act.sent]
  | write data => cases sight <;> simp [note, carried, traffic_record, Act.received, Act.sent]
  | _ => simp [note, carried, Act.received, Act.sent]

theorem traffic_ofEvents_drain (log : Log) (p : Perspective) :
    Transcript.streamOf (Transcript.ofEvents p log.drain.1).segments = log.traffic p :=
  Transcript.streamOf_coalesce _

def bytes (log : Log) (flow : Flow) : Bytes :=
  (log.events.filter (fun e => e.flow = flow)).flatMap Event.payload

theorem bytes_record (log : Log) (flow kind : Flow) (payload : Bytes) :
    (log.record kind payload).bytes flow =
      log.bytes flow ++ if kind = flow then payload else [] := by
  by_cases nothing : payload = []
  · simp [record, nothing]
  · by_cases same : kind = flow <;> simp [record, nothing, bytes, same]

theorem received_note (log : Log) (act : Act) (sight : Sight) :
    (log.note act sight).bytes .received = log.bytes .received ++ act.received sight := by
  cases act with
  | read room => cases sight <;> simp [note, bytes_record, Act.received]
  | write data => cases sight <;> simp [note, bytes_record, Act.received]
  | _ => simp [note, Act.received]

theorem sent_note (log : Log) (act : Act) (sight : Sight) :
    (log.note act sight).bytes .sent = log.bytes .sent ++ act.sent sight := by
  cases act with
  | read room => cases sight <;> simp [note, bytes_record, Act.sent]
  | write data => cases sight <;> simp [note, bytes_record, Act.sent]
  | _ => simp [note, Act.sent]

def notes (log : Log) (polls : Polls) : Log :=
  polls.foldl (fun log poll => log.note poll.1 poll.2) log

theorem notes_append {α : Type} (measure : Log → List α) (moved : Act → Sight → List α)
    (grows : ∀ log act sight, measure (log.note act sight) = measure log ++ moved act sight)
    (log : Log) (polls : Polls) :
    measure (log.notes polls) =
      measure log ++ polls.flatMap (fun poll => moved poll.1 poll.2) := by
  induction polls generalizing log with
  | nil => exact (List.append_nil _).symm
  | cons poll polls ih =>
    have later := ih (log.note poll.1 poll.2)
    rw [grows, List.append_assoc] at later
    exact later

theorem traffic_notes (log : Log) (p : Perspective) (polls : Polls) :
    (log.notes polls).traffic p = log.traffic p ++ trafficOf p polls :=
  notes_append (traffic · p) (carried p) (traffic_note · p) log polls

theorem received_notes (log : Log) (polls : Polls) :
    (log.notes polls).bytes .received = log.bytes .received ++ polls.received :=
  notes_append (bytes · .received) Act.received received_note log polls

theorem sent_notes (log : Log) (polls : Polls) :
    (log.notes polls).bytes .sent = log.bytes .sent ++ polls.written :=
  notes_append (bytes · .sent) Act.sent sent_note log polls

end Log

variable {σ : Type} [Transport σ]

theorem Tap.perform_eq (act : Act) (task : Task) (t : Tap σ) :
    act.perform task t =
      ((act.perform task t.inner).1,
        ⟨t.log.note act (act.perform task t.inner).1, (act.perform task t.inner).2⟩) := by
  cases act with
  | read room =>
    simp only [Act.perform, Transport.read, Tap.read]
    rcases Transport.read task room t.inner with ⟨_ | (_ | found), inner⟩ <;> rfl
  | write data =>
    simp only [Act.perform, Transport.write, Tap.write]
    rcases Transport.write task data t.inner with ⟨_ | (_ | n), inner⟩ <;> rfl
  | flush =>
    simp only [Act.perform, Transport.flush]
    rcases Transport.flush task t.inner with ⟨_ | (_ | _), inner⟩ <;> rfl
  | close =>
    simp only [Act.perform, Transport.close]
    rcases Transport.close task t.inner with ⟨_ | (_ | _), inner⟩ <;> rfl
  | release => rfl

def Tap.map {τ : Type} (f : σ → τ) (t : Tap σ) : Tap τ := ⟨t.log, f t.inner⟩

theorem Tap.passes_map {τ : Type} [Transport τ] {act : Act} {task : Task} {f : σ → τ} {t : Tap σ}
    (passes : act.Passes task f t.inner) : act.Passes task (map f) t := by
  rw [Act.Passes] at passes ⊢
  rw [Tap.perform_eq, Tap.perform_eq]
  simp only [map, passes]

theorem Tap.of_made {task : Task} {polls : Polls} {t t' : Tap σ} (made : polls.Made task t t') :
    polls.Made task t.inner t'.inner ∧ t'.log = t.log.notes polls := by
  induction polls generalizing t with
  | nil =>
    obtain rfl : t = t' := made
    exact ⟨rfl, rfl⟩
  | cons poll polls ih =>
    obtain ⟨act, sight⟩ := poll
    obtain ⟨t₁, performed, later⟩ := made
    rw [Tap.perform_eq] at performed
    obtain ⟨rfl, rfl⟩ := Prod.mk.inj performed
    obtain ⟨inner, log⟩ := ih later
    exact ⟨⟨_, rfl, inner⟩, log⟩

end WireScript.Recording
