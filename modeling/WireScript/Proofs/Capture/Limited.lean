import WireScript.Proofs.Capture.Sink

set_option autoImplicit false

namespace WireScript.Capture

open Wire (Failure)

variable {σ : Type}

/-- A sink with a limit, where `Holds s content room` tells what a sink holds and how many bytes it
will still take. While there is room a write is interrupted or takes some bytes, but no more than
there is room for; after that it fails. -/
structure Limited [Sink σ] (Holds : σ → Bytes → Nat → Prop) : Prop where
  takes : ∀ {s : σ} {content : Bytes} {room : Nat} (data : Bytes), Holds s content room →
    data ≠ [] → room ≠ 0 →
    (∃ n s', Sink.write data s = (.ok n, s') ∧ 0 < n ∧ n ≤ data.length ∧ n ≤ room ∧
      Holds s' (content ++ data.take n) (room - n)) ∨
    ∃ e s', Sink.write data s = (.error e, s') ∧ e.kind = .interrupted ∧ Holds s' content room
  fails : ∀ {s : σ} {content : Bytes} (data : Bytes), Holds s content 0 → data ≠ [] →
    ∃ e s', Sink.write data s = (.error e, s') ∧ Holds s' content 0

structure Fills (Holds : σ → Bytes → Nat → Prop) (content : Bytes) (room : Nat) (data : Bytes)
    (outcome : Except Failure Unit × σ) : Prop where
  holds : Holds outcome.2 (content ++ data.take room) (room - data.length)
  fits : outcome.1 = .ok () ↔ data.length ≤ room

section Fills

variable {Holds : σ → Bytes → Nat → Prop} {s : σ} {content data more : Bytes} {room : Nat}
  {outcome : Except Failure Unit × σ}

theorem fills_nothing (holds : Holds s content room) : Fills Holds content room [] (.ok (), s) :=
  ⟨by simpa using holds, by simp⟩

theorem Fills.after {n : Nat} (size : data.length = n) (fits : n ≤ room)
    (fills : Fills Holds (content ++ data) (room - n) more outcome) :
    Fills Holds content room (data ++ more) outcome := by
  subst size
  refine ⟨?_, ?_⟩
  · have taken : (data ++ more).take room = data ++ more.take (room - data.length) := by
      rw [List.take_append, List.take_of_length_le fits]
    rw [taken, List.length_append, ← Nat.sub_sub, ← List.append_assoc]
    exact fills.holds
  · rw [fills.fits, List.length_append]
    omega

theorem Fills.cut {e : Failure} (fills : Fills Holds content room data (.error e, s))
    (more : Bytes) : Fills Holds content room (data ++ more) (.error e, s) := by
  have full : room < data.length := by simpa using fills.fits
  have length : (data ++ more).length = data.length + more.length := List.length_append
  refine ⟨?_, by simp; omega⟩
  have none : room - (data ++ more).length = room - data.length := by omega
  rw [List.take_append_of_le_length (Nat.le_of_lt full), none]
  exact fills.holds

variable [Sink σ]

theorem Limited.offer_takes (limited : Limited Holds) (holds : Holds s content room)
    (some : data ≠ []) (space : room ≠ 0) :
    ∃ n s', Sink.offer data s = (.ok n, s') ∧ 0 < n ∧ n ≤ data.length ∧ n ≤ room ∧
      Holds s' (content ++ data.take n) (room - n) := by
  induction left : Sink.patience s using Nat.strongRecOn generalizing s with
  | ind left ih =>
    subst left
    obtain ⟨n, s', writes, rest⟩ | ⟨e, s', writes, interrupted, still⟩ :=
      limited.takes data holds some space
    · exact ⟨n, s', Sink.offer_of_write_ok writes, rest⟩
    · rw [Sink.offer_of_write_error writes, if_pos interrupted]
      exact ih _ (Sink.tires writes interrupted) still rfl

theorem Limited.offer_fails (limited : Limited Holds) (holds : Holds s content 0)
    (some : data ≠ []) : ∃ e s', Sink.offer data s = (.error e, s') ∧ Holds s' content 0 := by
  induction left : Sink.patience s using Nat.strongRecOn generalizing s with
  | ind left ih =>
    subst left
    obtain ⟨e, s', writes, still⟩ := limited.fails data holds some
    rw [Sink.offer_of_write_error writes]
    by_cases interrupted : e.kind = .interrupted
    · rw [if_pos interrupted]
      exact ih _ (Sink.tires writes interrupted) still rfl
    · rw [if_neg interrupted]
      exact ⟨e, s', rfl, still⟩

theorem Limited.writeAll (limited : Limited Holds) (holds : Holds s content room) (data : Bytes) :
    Fills Holds content room data (Sink.writeAll data s) := by
  induction size : data.length using Nat.strongRecOn generalizing data s content room with
  | ind size ih =>
    subst size
    cases data with
    | nil =>
      rw [Sink.writeAll]
      exact fills_nothing holds
    | cons b rest =>
      by_cases full : room = 0
      · subst full
        obtain ⟨e, s', writes, holds'⟩ := limited.offer_fails holds (List.cons_ne_nil b rest)
        rw [Sink.writeAll, writes]
        exact ⟨by simpa using holds', by simp⟩
      · -- The sink takes at least one byte, and the writing goes on with the others.
        obtain ⟨n, s', writes, positive, within, short, holds'⟩ :=
          limited.offer_takes holds (List.cons_ne_nil b rest) full
        obtain ⟨n, rfl⟩ := Nat.exists_eq_succ_of_ne_zero (Nat.ne_of_gt positive)
        have fewer : (rest.drop n).length < (b :: rest).length := by
          rw [List.length_drop, List.length_cons]
          omega
        have count : ((b :: rest).take (n + 1)).length = n + 1 := List.length_take_of_le within
        have whole : (b :: rest).take (n + 1) ++ rest.drop n = b :: rest :=
          List.take_append_drop (n + 1) (b :: rest)
        have later := ih _ fewer holds' (rest.drop n) rfl
        have fills := later.after count short
        rw [whole] at fills
        rw [Sink.writeAll, writes]
        exact fills

theorem Limited.writePieces (limited : Limited Holds) (holds : Holds s content room)
    (pieces : List Bytes) :
    Fills Holds content room pieces.flatten (Sink.writePieces pieces s) := by
  induction pieces generalizing s content room with
  | nil => exact fills_nothing holds
  | cons piece rest ih =>
    have first := limited.writeAll holds piece
    rw [Sink.writePieces, List.flatten_cons]
    generalize Sink.writeAll piece s = outcome at first
    rcases outcome with ⟨e | _, s'⟩
    · exact first.cut rest.flatten
    · have fits := first.fits.1 rfl
      have holds' := first.holds
      rw [List.take_of_length_le fits] at holds'
      exact (ih holds').after rfl fits

end Fills

namespace Booked

variable {Holds : σ → Bytes → Nat → Prop} {b : Booked σ}

def Unflushed (b : Booked σ) : Prop := ∀ answer, Deed.flush answer ∉ b.deeds

theorem Unflushed.note_write (unflushed : b.Unflushed) (sink : σ) (data : Bytes)
    (answer : Except Failure Nat) : (b.note sink (.write data answer)).Unflushed := by
  intro flushed
  simpa [note] using unflushed flushed

variable [Sink σ]

theorem limited (limited : Limited Holds) :
    Limited (fun (b : Booked σ) content room => Holds b.sink content room ∧ b.Unflushed) where
  takes := by
    rintro b content room data ⟨holds, unflushed⟩ some space
    obtain ⟨n, s', writes, positive, within, short, holds'⟩ | ⟨e, s', writes, interrupted, still⟩ :=
      limited.takes data holds some space
    · exact .inl ⟨n, b.note s' (.write data (.ok n)), by simp [Sink.write, writes], positive,
        within, short, holds', unflushed.note_write s' data _⟩
    · exact .inr ⟨e, b.note s' (.write data (.error e)), by simp [Sink.write, writes], interrupted,
        still, unflushed.note_write s' data _⟩
  fails := by
    rintro b content data ⟨holds, unflushed⟩ some
    obtain ⟨e, s', writes, holds'⟩ := limited.fails data holds some
    exact ⟨e, b.note s' (.write data (.error e)), by simp [Sink.write, writes], holds',
      unflushed.note_write s' data _⟩

end Booked

/-- A capture that is written to an empty sink with a limit, and with a book of the calls. The sink
ends up with as much of the rendering as it has room for. If that is not all, the capture fails and
flushes nothing. If it is, the JSON form succeeds, and the fixture form comes to what its last call
comes to, which is its only flush. -/
theorem front_left_on_limited_sink [Sink σ] {Holds : σ → Bytes → Nat → Prop}
    (limited : Limited Holds)
    (keeps : ∀ {s content room}, Holds s content room → Holds (Sink.flush s).2 content room)
    (t : Transcript) (format : Format) (sink : σ) (limit : Nat) (empty : Holds sink [] limit) :
    let rendering := Bytes.ofText (format.rendering t)
    let outcome := writeTranscript t format (Booked.fresh sink)
    format.readBack (format.rendering t) = some t ∧
    writeTranscript t format sink = (outcome.1, outcome.2.sink) ∧
    Holds outcome.2.sink (rendering.take limit) (limit - rendering.length) ∧
    (limit < rendering.length → (∃ e, outcome.1 = .error e) ∧ outcome.2.Unflushed) ∧
    (rendering.length ≤ limit →
      match format with
      | .fixture => ∃ b : Booked σ, b.Unflushed ∧ outcome.2.deeds = b.deeds ++ [.flush outcome.1]
      | .json => outcome.1 = .ok () ∧ outcome.2.Unflushed) := by
  intro rendering outcome
  have bare := Booked.writes_writeTranscript t format (Booked.fresh sink)
  refine ⟨format.readBack_rendering t, Prod.ext bare.answer.symm bare.sink.symm, ?_⟩
  have fresh : (Booked.fresh sink).Unflushed := by simp [Booked.Unflushed, Booked.fresh]
  have written :=
    (Booked.limited limited).writePieces (s := Booked.fresh sink) ⟨empty, fresh⟩ (pieces t format)
  rw [flatten_pieces] at written
  simp only [outcome, writeTranscript]
  generalize Sink.writePieces (pieces t format) (Booked.fresh sink) = result at written
  obtain ⟨holds, unflushed⟩ := written.holds
  rcases result with ⟨e | _, b⟩
  · have short : ¬ rendering.length ≤ limit := by simpa using written.fits
    exact ⟨holds, fun _ => ⟨⟨e, rfl⟩, unflushed⟩, fun fits => absurd fits short⟩
  · have fits : ¬ limit < rendering.length := Nat.not_lt.2 (written.fits.1 rfl)
    -- Only now do the two forms part: one of them is flushed.
    cases format with
    | fixture => exact ⟨keeps holds, fun short => absurd short fits, fun _ => ⟨b, unflushed, rfl⟩⟩
    | json => exact ⟨holds, fun short => absurd short fits, fun _ => ⟨rfl, unflushed⟩⟩

namespace Vessel

def Holds (v : Vessel) (content : Bytes) (room : Nat) : Prop :=
  v.content = content ∧ v.room = some room

theorem limited : Limited Holds where
  takes := by
    rintro v content room data ⟨rfl, roomy⟩ some space
    obtain ⟨k, rfl⟩ := Nat.exists_eq_succ_of_ne_zero space
    have count : (data.take (k + 1)).length = min (k + 1) data.length := List.length_take
    have positive : 0 < data.length := List.length_pos_iff.2 some
    refine .inl ⟨(data.take (k + 1)).length, _, by simp only [Sink.write, write, roomy]; rfl,
      by omega, by omega, by omega, ?_, rfl⟩
    simp [List.take_eq_take_iff]
  fails := by
    rintro v content data ⟨rfl, roomy⟩ some
    exact ⟨full, v, by simp [Sink.write, write, roomy], rfl, roomy⟩

end Vessel

def brief : Transcript := ⟨[.expect [1, 2]]⟩

theorem brief_cut_short :
    let cut := writeTranscript brief .json (Booked.fresh (Vessel.empty (some 12) false))
    let whole := writeTranscript brief .fixture (Booked.fresh (Vessel.empty (some 30) true))
    (12 < (Bytes.ofText (Format.json.rendering brief)).length ∧
      cut.2.sink.content = (Bytes.ofText (Format.json.rendering brief)).take 12 ∧
      (∃ e, cut.1 = .error e) ∧ cut.2.Unflushed) ∧
    (whole.1 = .error Vessel.unflushed ∧
      whole.2.sink.content = (Bytes.ofText (Format.fixture.rendering brief)).take 30 ∧
      ∃ b : Booked Vessel, b.Unflushed ∧ whole.2.deeds = b.deeds ++ [.flush whole.1]) := by
  have keeps {v : Vessel} {content : Bytes} {room : Nat} (holds : v.Holds content room) :
      (Sink.flush v).2.Holds content room := holds
  have less : 12 < (Bytes.ofText (Format.json.rendering brief)).length := by decide
  refine ⟨⟨less, ?_⟩, ?_⟩
  · obtain ⟨-, -, holds, short, -⟩ := front_left_on_limited_sink Vessel.limited keeps brief .json
      (Vessel.empty (some 12) false) 12 ⟨rfl, rfl⟩
    exact ⟨holds.1, short less⟩
  · obtain ⟨-, -, holds, -, whole⟩ := front_left_on_limited_sink Vessel.limited keeps brief .fixture
      (Vessel.empty (some 30) true) 30 ⟨rfl, rfl⟩
    exact ⟨by cbv, holds.1, whole (by decide +kernel)⟩

end WireScript.Capture
