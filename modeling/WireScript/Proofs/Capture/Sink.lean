import WireScript.Proofs.Capture.RoundTrip
import WireScript.Proofs.Fixture.RoundTrip

set_option autoImplicit false

namespace WireScript.Capture

open Json (Reader)
open Wire (Failure)

namespace Format

def rendering : Format → Transcript → List Char
  | .fixture, t => Fixture.render t
  | .json, t => jsonText t

def readBack : Format → List Char → Option Transcript
  | .fixture, text => (Fixture.parse text).toOption
  | .json, text => (Reader.run Transcript.read text).toOption

theorem readBack_rendering (format : Format) (t : Transcript) :
    format.readBack (format.rendering t) = some t := by
  cases format with
  | fixture =>
    obtain ⟨d, read, finish⟩ := Fixture.Draft.addAll_renderFrom ⟨[], none⟩ 1 0 t.segments
    have same : d.finish = t.segments := finish
    simp only [readBack, rendering, Fixture.parse, Fixture.render, read, Except.map, same]
    rfl
  | json =>
    simp only [readBack, rendering, read_jsonText]
    rfl

end Format

theorem flatten_pieces (t : Transcript) (format : Format) :
    (pieces t format).flatten = Bytes.ofText (format.rendering t) := by
  cases format with
  | fixture => exact List.append_nil _
  | json => exact flatten_pieces_json t

/-- A call on a sink, with what the sink has answered. -/
inductive Deed
  | write (data : Bytes) (answer : Except Failure Nat)
  | flush (answer : Except Failure Unit)

namespace Deed

def taken : Deed → Bytes
  | .write data (.ok n) => data.take n
  | _ => []

def fault? : Deed → Option Failure
  | .write _ (.error e) => if e.kind = .interrupted then none else some e
  | .flush (.error e) => some e
  | .write _ (.ok 0) => some Sink.stopped
  | _ => none

end Deed

def faultsOf : Except Failure Unit → List Failure
  | .ok _ => []
  | .error e => [e]

structure Booked (σ : Type) where
  sink : σ
  deeds : List Deed

namespace Booked

variable {σ : Type}

def fresh (sink : σ) : Booked σ := ⟨sink, []⟩

def taken (b : Booked σ) : Bytes := b.deeds.flatMap Deed.taken

def faults (b : Booked σ) : List Failure := b.deeds.filterMap Deed.fault?

def note (b : Booked σ) (sink : σ) (deed : Deed) : Booked σ := ⟨sink, b.deeds ++ [deed]⟩

@[simp] theorem sink_note (b : Booked σ) (sink : σ) (deed : Deed) :
    (b.note sink deed).sink = sink := rfl

@[simp] theorem taken_note (b : Booked σ) (sink : σ) (deed : Deed) :
    (b.note sink deed).taken = b.taken ++ deed.taken := by
  simp [taken, note]

@[simp] theorem faults_note (b : Booked σ) (sink : σ) (deed : Deed) :
    (b.note sink deed).faults = b.faults ++ deed.fault?.toList := by
  cases h : deed.fault? <;> simp [faults, note, h]

instance [Sink σ] : Sink (Booked σ) where
  write data b :=
    let (answer, s) := Sink.write data b.sink
    (answer, b.note s (.write data answer))
  flush b :=
    let (answer, s) := Sink.flush b.sink
    (answer, b.note s (.flush answer))
  patience b := Sink.patience b.sink
  tires {data b b' e} fails interrupted := by
    rcases comes : Sink.write data b.sink with ⟨answer, s⟩
    rw [comes] at fails
    cases fails
    exact Sink.tires comes interrupted

structure Writes (data : Bytes) (b : Booked σ) (bare : Except Failure Unit × σ)
    (outcome : Except Failure Unit × Booked σ) : Prop where
  answer : outcome.1 = bare.1
  sink : outcome.2.sink = bare.2
  taken : outcome.1 = .ok () → outcome.2.taken = b.taken ++ data
  faults : outcome.2.faults = b.faults ++ faultsOf outcome.1

variable {b b₁ : Booked σ} {data more : Bytes} {bare : Except Failure Unit × σ}
  {outcome : Except Failure Unit × Booked σ}

theorem writes_nothing (b : Booked σ) : Writes [] b (.ok (), b.sink) (.ok (), b) :=
  ⟨rfl, rfl, fun _ => (List.append_nil _).symm, (List.append_nil _).symm⟩

theorem Writes.after (takes : b₁.taken = b.taken ++ data) (fine : b₁.faults = b.faults)
    (writes : Writes more b₁ bare outcome) : Writes (data ++ more) b bare outcome := by
  refine ⟨writes.answer, writes.sink, ?_, ?_⟩
  · intro ok
    rw [writes.taken ok, takes, List.append_assoc]
  · rw [writes.faults, fine]

theorem Writes.cut {e : Failure} {s : σ} (writes : Writes data b (.error e, s) (.error e, b₁))
    (more : Bytes) : Writes (data ++ more) b (.error e, s) (.error e, b₁) :=
  ⟨writes.answer, writes.sink, by simp, writes.faults⟩

theorem Writes.of_ok {s : σ} (writes : Writes data b (.ok (), s) (.ok (), b₁)) :
    b₁.sink = s ∧ b₁.taken = b.taken ++ data ∧ b₁.faults = b.faults :=
  ⟨writes.sink, writes.taken rfl, by simpa [faultsOf] using writes.faults⟩

variable [Sink σ]

theorem offer_booked (data : Bytes) (b : Booked σ) :
    ∃ answer s b₁, Sink.offer data b.sink = (answer, s) ∧ Sink.offer data b = (answer, b₁) ∧
      b₁.sink = s ∧ b₁.taken = b.taken ++ (Deed.write data answer).taken ∧
      b₁.faults = b.faults ++ (Deed.write data answer).fault?.toList ∧
      ∀ e, answer = .error e → e.kind ≠ .interrupted := by
  induction left : Sink.patience b.sink using Nat.strongRecOn generalizing b with
  | ind left ih =>
    subst left
    rcases comes : Sink.write data b.sink with ⟨e | n, s⟩
    · have booked : Sink.write data b = (.error e, b.note s (.write data (.error e))) := by
        simp [Sink.write, comes]
      by_cases interrupted : e.kind = .interrupted
      · obtain ⟨answer, s', b₁, bare, offered, same, taken, faults, final⟩ :=
          ih _ (Sink.tires comes interrupted) (b.note s (.write data (.error e))) rfl
        refine ⟨answer, s', b₁, ?_, ?_, same, ?_, ?_, final⟩
        · rw [Sink.offer_of_write_error comes, if_pos interrupted]
          exact bare
        · rw [Sink.offer_of_write_error booked, if_pos interrupted]
          exact offered
        · rw [taken]
          simp [Deed.taken]
        · rw [faults]
          simp [Deed.fault?, interrupted]
      · refine ⟨.error e, s, _, ?_, ?_, sink_note .., taken_note .., faults_note .., ?_⟩
        · rw [Sink.offer_of_write_error comes, if_neg interrupted]
        · rw [Sink.offer_of_write_error booked, if_neg interrupted]
        · rintro _ ⟨⟩
          exact interrupted
    · have booked : Sink.write data b = (.ok n, b.note s (.write data (.ok n))) := by
        simp [Sink.write, comes]
      exact ⟨.ok n, s, _, Sink.offer_of_write_ok comes, Sink.offer_of_write_ok booked,
        sink_note .., taken_note .., faults_note .., by simp⟩

theorem writes_writeAll (data : Bytes) (b : Booked σ) :
    Writes data b (Sink.writeAll data b.sink) (Sink.writeAll data b) := by
  induction size : data.length using Nat.strongRecOn generalizing data b with
  | ind size ih =>
    subst size
    cases data with
    | nil =>
      simp only [Sink.writeAll]
      exact writes_nothing b
    | cons x rest =>
      obtain ⟨answer, s, b₁, bare, booked, rfl, taken, faults, final⟩ := offer_booked (x :: rest) b
      rw [Sink.writeAll, Sink.writeAll, bare, booked]
      rcases answer with e | _ | n
      · have failed := final e rfl
        exact ⟨rfl, rfl, by simp, by simp [faults, Deed.fault?, faultsOf, failed]⟩
      · exact ⟨rfl, rfl, by simp, by simp [faults, Deed.fault?, faultsOf]⟩
      · -- The sink takes at least one byte, and the writing goes on with the others.
        have fewer : (rest.drop n).length < (x :: rest).length := by
          rw [List.length_drop, List.length_cons]
          omega
        have later := ih _ fewer (rest.drop n) b₁ rfl
        have fine : b₁.faults = b.faults := by simp [faults, Deed.fault?]
        have split : (x :: rest).take (n + 1) ++ rest.drop n = x :: rest :=
          List.take_append_drop (n + 1) (x :: rest)
        have whole := later.after taken fine
        rw [Deed.taken, split] at whole
        exact whole

theorem writes_writePieces (pieces : List Bytes) (b : Booked σ) :
    Writes pieces.flatten b (Sink.writePieces pieces b.sink) (Sink.writePieces pieces b) := by
  induction pieces generalizing b with
  | nil => exact writes_nothing b
  | cons piece rest ih =>
    have first := writes_writeAll piece b
    rw [Sink.writePieces, Sink.writePieces, List.flatten_cons]
    generalize Sink.writeAll piece b.sink = bare, Sink.writeAll piece b = outcome at first ⊢
    obtain ⟨answer, s⟩ := bare
    obtain ⟨answer', b₁⟩ := outcome
    obtain rfl : answer' = answer := first.answer
    cases answer' with
    | error e => exact first.cut rest.flatten
    | ok _ =>
      obtain ⟨rfl, takes, fine⟩ := first.of_ok
      exact (ih b₁).after takes fine

theorem writes_flush (b : Booked σ) : Writes [] b (Sink.flush b.sink) (Sink.flush b) := by
  rcases comes : Sink.flush b.sink with ⟨answer, s⟩
  have booked : Sink.flush b = (answer, b.note s (.flush answer)) := by
    simp [Sink.flush, comes]
  rw [booked]
  cases answer <;>
    exact ⟨rfl, rfl, by simp [Deed.taken], by simp [Deed.fault?, faultsOf]⟩

theorem writes_writeTranscript (t : Transcript) (format : Format) (b : Booked σ) :
    Writes (Bytes.ofText (format.rendering t)) b (writeTranscript t format b.sink)
      (writeTranscript t format b) := by
  have written := writes_writePieces (pieces t format) b
  rw [flatten_pieces] at written
  rw [writeTranscript, writeTranscript]
  generalize Sink.writePieces (pieces t format) b.sink = bare,
    Sink.writePieces (pieces t format) b = outcome at written ⊢
  obtain ⟨answer, s⟩ := bare
  obtain ⟨answer', b₁⟩ := outcome
  obtain rfl : answer' = answer := written.answer
  cases answer' with
  | error e => exact written
  | ok _ =>
    cases format with
    | fixture =>
      obtain ⟨rfl, takes, fine⟩ := written.of_ok
      rw [← List.append_nil (Bytes.ofText _)]
      exact (writes_flush b₁).after takes fine
    | json => exact written

theorem faults_writeTranscript (t : Transcript) (format : Format) (sink : σ) :
    (writeTranscript t format (fresh sink)).2.faults =
      faultsOf (writeTranscript t format (fresh sink)).1 :=
  (writes_writeTranscript t format (fresh sink)).faults

theorem read_writeTranscript (t : Transcript) (format : Format) (sink : σ)
    (written : (writeTranscript t format (fresh sink)).1 = .ok ()) :
    ∃ text, (writeTranscript t format (fresh sink)).2.taken = Bytes.ofText text ∧
      format.readBack text = some t := by
  refine ⟨format.rendering t, ?_, format.readBack_rendering t⟩
  rw [(writes_writeTranscript t format (fresh sink)).taken written]
  rfl

end Booked

theorem Vessel.faults_roomy {v : Vessel} (roomy : v.room = none) (calm : v.flushFails = false)
    (t : Transcript) (format : Format) :
    (writeTranscript t format (Booked.fresh v)).2.faults = [] := by
  have plain : (writeTranscript t format v).1 = .ok () := by
    rw [writeTranscript, writePieces_roomy roomy]
    cases format with
    | fixture => simp [Sink.flush, flush, calm]
    | json => rfl
  rw [Booked.faults_writeTranscript,
    (Booked.writes_writeTranscript t format (Booked.fresh v)).answer]
  exact congrArg faultsOf plain

end WireScript.Capture
