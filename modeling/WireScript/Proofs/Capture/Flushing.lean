import WireScript.Proofs.Capture.Limited

set_option autoImplicit false

namespace WireScript.Capture

open Wire (Failure)

variable {σ : Type}

namespace Sink

variable [Sink σ]

theorem offer_keeps {Kept : σ → Prop} (keeps : ∀ data s, Kept s → Kept (Sink.write data s).2)
    (data : Bytes) {s : σ} (kept : Kept s) : Kept (offer data s).2 := by
  fun_induction offer data s with
  | case1 s n s' comes
  | case3 s e s' comes =>
    have after := keeps data s kept
    rwa [comes] at after
  | case2 s e s' comes interrupted tired ih =>
    have after := keeps data s kept
    rw [comes] at after
    exact ih after

theorem writeAll_keeps {Kept : σ → Prop} (keeps : ∀ data s, Kept s → Kept (Sink.write data s).2)
    (data : Bytes) {s : σ} (kept : Kept s) : Kept (writeAll data s).2 := by
  fun_induction writeAll data s with
  | case1 => exact kept
  | case2 s b rest e s' comes
  | case3 s b rest s' comes =>
    have after := offer_keeps keeps (b :: rest) kept
    rwa [comes] at after
  | case4 s b rest n s' comes ih =>
    have after := offer_keeps keeps (b :: rest) kept
    rw [comes] at after
    exact ih after

theorem writePieces_keeps {Kept : σ → Prop}
    (keeps : ∀ data s, Kept s → Kept (Sink.write data s).2) (pieces : List Bytes) {s : σ}
    (kept : Kept s) : Kept (writePieces pieces s).2 := by
  induction pieces generalizing s with
  | nil => exact kept
  | cons piece rest ih =>
    have after := writeAll_keeps keeps piece kept
    rw [writePieces]
    generalize writeAll piece s = outcome at after ⊢
    rcases outcome with ⟨e | _, s'⟩
    · exact after
    · exact ih after

/-- The sink cannot be flushed, whatever is written to it before. -/
def Refuses (s : σ) : Prop :=
  ∀ writes : List Bytes, ∃ e,
    (Sink.flush (writes.foldl (fun s data => (Sink.write data s).2) s)).1 = .error e

theorem Refuses.write {s : σ} (refuses : Refuses s) (data : Bytes) :
    Refuses (Sink.write data s).2 :=
  fun writes => refuses (data :: writes)

end Sink

namespace Booked

/-- The last call is a flush that succeeded, and all of the data was taken before it. -/
def FlushedAfter (b : Booked σ) (data : Bytes) : Prop :=
  ∃ deeds, b.deeds = deeds ++ [.flush (.ok ())] ∧ deeds.flatMap Deed.taken = data

theorem Unflushed.not_flushedAfter {b : Booked σ} (unflushed : b.Unflushed) (data : Bytes) :
    ¬b.FlushedAfter data := by
  rintro ⟨deeds, last, -⟩
  exact unflushed (.ok ()) (by simp [last])

variable [Sink σ]

theorem unflushed_writePieces (pieces : List Bytes) (sink : σ) :
    (Sink.writePieces pieces (fresh sink)).2.Unflushed := by
  apply Sink.writePieces_keeps
  · intro data b unflushed
    exact unflushed.note_write _ data _
  · simp [Unflushed, fresh]

theorem unflushed_writeTranscript_json (t : Transcript) (sink : σ) :
    (writeTranscript t .json (fresh sink)).2.Unflushed := by
  have unflushed := unflushed_writePieces (pieces t .json) sink
  rw [writeTranscript]
  generalize Sink.writePieces (pieces t .json) (fresh sink) = outcome at unflushed ⊢
  rcases outcome with ⟨e | _, b⟩ <;> exact unflushed

theorem flushedAfter_writeTranscript_fixture {t : Transcript} {sink : σ}
    (written : (writeTranscript t .fixture (fresh sink)).1 = .ok ()) :
    (writeTranscript t .fixture (fresh sink)).2.FlushedAfter
      (Bytes.ofText (Fixture.render t)) := by
  have writes := writes_writePieces (pieces t .fixture) (fresh sink)
  rw [flatten_pieces] at writes
  rw [writeTranscript] at written ⊢
  generalize Sink.writePieces (pieces t .fixture) (fresh sink) = outcome at writes written ⊢
  rcases outcome with ⟨e | _, b⟩
  · simp at written
  · have taken : b.taken = Bytes.ofText (Fixture.render t) := writes.taken rfl
    simp only at written ⊢
    -- The outcome is that of the flush, so that it is the one that succeeded.
    rcases comes : Sink.flush b.sink with ⟨answer, s⟩
    have booked : Sink.flush b = (answer, b.note s (.flush answer)) := by
      simp [Sink.flush, comes]
    rw [booked] at written ⊢
    obtain rfl : answer = .ok () := written
    exact ⟨b.deeds, rfl, taken⟩

end Booked

theorem writeTranscript_fixture_of_refuses [Sink σ] (t : Transcript) {sink : σ}
    (refuses : Sink.Refuses sink) : ∃ e, (writeTranscript t .fixture sink).1 = .error e := by
  have still : Sink.Refuses (Sink.writePieces (pieces t .fixture) sink).2 :=
    Sink.writePieces_keeps (fun data _ refuses => refuses.write data) (pieces t .fixture) refuses
  rw [writeTranscript]
  generalize Sink.writePieces (pieces t .fixture) sink = outcome at still ⊢
  rcases outcome with ⟨e | _, s⟩
  · exact ⟨e, rfl⟩
  · -- All is written, and the flush comes without another write before it.
    exact still []

/-- A capture that is written has been flushed, after its last byte and with success, if and only if
it is a fixture. A fixture is never written to a sink that refuses to be flushed, and the JSON form
is never flushed at all. -/
theorem flushed_iff_fixture [Sink σ] (t : Transcript) (format : Format) (sink : σ) :
    let outcome := writeTranscript t format (Booked.fresh sink)
    writeTranscript t format sink = (outcome.1, outcome.2.sink) ∧
    (outcome.1 = .ok () →
      (outcome.2.FlushedAfter (Bytes.ofText (format.rendering t)) ↔ format = .fixture)) ∧
    (Sink.Refuses sink → outcome.1 = .ok () → format = .json) ∧
    (format = .json → outcome.2.Unflushed) := by
  intro outcome
  have bare := Booked.writes_writeTranscript t format (Booked.fresh sink)
  refine ⟨Prod.ext bare.answer.symm bare.sink.symm, ?_⟩
  cases format with
  | fixture =>
    refine ⟨fun written => ?_, fun refuses written => ?_, by simp⟩
    · exact iff_of_true (Booked.flushedAfter_writeTranscript_fixture written) rfl
    · obtain ⟨e, failed⟩ := writeTranscript_fixture_of_refuses t refuses
      have answer : outcome.1 = .error e := bare.answer.trans failed
      simp [answer] at written
  | json =>
    have unflushed := Booked.unflushed_writeTranscript_json t sink
    refine ⟨fun _ => ?_, fun _ _ => rfl, fun _ => unflushed⟩
    exact iff_of_false (unflushed.not_flushedAfter _) (by decide)

theorem Vessel.refuses {v : Vessel} (fails : v.flushFails = true) : Sink.Refuses v := by
  have kept (writes : List Bytes) (v : Vessel) :
      (writes.foldl (fun v data => (Sink.write data v).2) v).flushFails = v.flushFails := by
    induction writes generalizing v with
    | nil => rfl
    | cons data rest ih =>
      rw [List.foldl_cons, ih]
      simp only [Sink.write, write]
      split <;> rfl
  intro writes
  exact ⟨unflushed, by simp [Sink.flush, flush, kept, fails]⟩

theorem brief_flushed :
    let outcome := writeTranscript brief .fixture (Booked.fresh (Vessel.empty none false))
    let refused := writeTranscript brief .fixture (Booked.fresh (Vessel.empty none true))
    (outcome.1 = .ok () ∧
      outcome.2.FlushedAfter (Bytes.ofText (Format.fixture.rendering brief))) ∧
    Sink.Refuses (Vessel.empty none true) ∧ refused.1 ≠ .ok () := by
  obtain ⟨-, flushed, -⟩ := flushed_iff_fixture brief .fixture (Vessel.empty none false)
  obtain ⟨-, -, refused, -⟩ := flushed_iff_fixture brief .fixture (Vessel.empty none true)
  have refuses : Sink.Refuses (Vessel.empty none true) := Vessel.refuses rfl
  have written :
      (writeTranscript brief .fixture (Booked.fresh (Vessel.empty none false))).1 = .ok () := by cbv
  refine ⟨⟨written, (flushed written).2 rfl⟩, refuses, fun ok => ?_⟩
  exact absurd (refused refuses ok) (by decide)

theorem json_written_unflushed :
    let outcome := writeTranscript .empty .json (Booked.fresh (Vessel.empty none true))
    Sink.Refuses (Vessel.empty none true) ∧ outcome.1 = .ok () ∧
      ¬outcome.2.FlushedAfter (Bytes.ofText (Format.json.rendering .empty)) := by
  refine ⟨Vessel.refuses rfl, by cbv, ?_⟩
  exact (Booked.unflushed_writeTranscript_json .empty _).not_flushedAfter _

end WireScript.Capture
