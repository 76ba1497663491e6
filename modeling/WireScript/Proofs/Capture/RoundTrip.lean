import WireScript.Capture.Config
import WireScript.Capture.Output
import WireScript.Proofs.Transcript.Coding
import WireScript.Replay.Config

set_option autoImplicit false

namespace WireScript

open Json (Blank Document Reader)
open Json.Reader (Decodes decodes_bool decodes_null decodes_text decodes_variant)

namespace Replay

theorem Trailing.decodes (t : Trailing) : Decodes read t.document t :=
  decodes_variant (by cases t <;> rfl)

theorem Config.decodes (c : Config) : Decodes read c.document c := by
  have timeout : Decodes (Reader.option Span.read) ((c.timeout.map Span.document).getD .null)
      c.timeout := by
    cases c.timeout with
    | none => exact decodes_null Span.read
    | some span => exact span.decodes.option (by simp [Span.document])
  have fills : record.Fills record.blank
      [("name", .text c.name), ("trailing", c.trailing.document),
        ("timeout", (c.timeout.map Span.document).getD .null)]
      ⟨some c.name, some c.trailing, some c.timeout⟩ :=
    .cons rfl rfl ((decodes_text rfl "a string").bind_pure _)
      (.cons rfl rfl (c.trailing.decodes.bind_pure _)
        (.cons rfl rfl (timeout.bind_pure _) (.nil _)))
  exact fills.decodes rfl

end Replay

namespace Capture

theorem Format.decodes (f : Format) : Decodes read f.document f :=
  decodes_variant (by cases f <;> rfl)

theorem Config.decodes (c : Config) : Decodes read c.document c := by
  have fills : record.Fills record.blank
      [("enabled", .bool c.enabled), ("addr", .text c.address), ("format", c.format.document)]
      ⟨some c.enabled, some c.address, some c.format⟩ :=
    .cons rfl rfl ((decodes_bool c.enabled "a boolean").bind_pure _)
      (.cons rfl rfl ((decodes_text rfl "a string").bind_pure _)
        (.cons rfl rfl (c.format.decodes.bind_pure _) (.nil _)))
  exact fills.decodes rfl

def jsonText (t : Transcript) : List Char := t.document.spread ++ ['\n']

theorem read_jsonText (t : Transcript) : Reader.run Transcript.read (jsonText t) = .ok t := by
  rw [jsonText, Document.spread_eq]
  exact t.decodes.run .spread 0 (by simp [Blank, Reader.isSpace])

theorem flatten_map_ofText (texts : List (List Char)) :
    (texts.map Bytes.ofText).flatten = Bytes.ofText texts.flatten := by
  induction texts with
  | nil => rfl
  | cons text rest ih => simp [ih, Bytes.ofText]

theorem flatten_pieces_json (t : Transcript) :
    (pieces t .json).flatten = Bytes.ofText (jsonText t) := by
  simp [pieces, jsonText, flatten_map_ofText, Document.spread, Bytes.ofText]

namespace Vessel

variable {v : Vessel}

theorem writeAll_roomy (roomy : v.room = none) (data : Bytes) :
    Sink.writeAll data v = (.ok (), { v with content := v.content ++ data }) := by
  cases data with
  | nil => simp [Sink.writeAll]
  | cons b rest =>
    have takes : Sink.offer (b :: rest) v =
        (.ok (rest.length + 1), { v with content := v.content ++ b :: rest }) := by
      apply Sink.offer_of_write_ok
      simp [Sink.write, write, roomy]
    simp [Sink.writeAll, takes]

theorem writePieces_roomy (roomy : v.room = none) (pieces : List Bytes) :
    Sink.writePieces pieces v = (.ok (), { v with content := v.content ++ pieces.flatten }) := by
  induction pieces generalizing v with
  | nil => simp [Sink.writePieces]
  | cons piece rest ih =>
    rw [Sink.writePieces, writeAll_roomy roomy]
    simp [ih (v := { v with content := v.content ++ piece }) roomy]

end Vessel

end Capture

theorem encoded_values_decode :
    (∀ t : Transcript, Reader.run Transcript.read t.document.compact = .ok t) ∧
    (∀ s : Segment, Reader.run Segment.read s.document.compact = .ok s) ∧
    (∀ e : Event, Reader.run Event.read e.document.compact = .ok e) ∧
    (∀ events : List Event,
      Reader.run Event.readList (Event.listDocument events).compact = .ok events) ∧
    (∀ c : Replay.Config, Reader.run Replay.Config.read c.document.compact = .ok c) ∧
    (∀ c : Capture.Config, Reader.run Capture.Config.read c.document.compact = .ok c) ∧
    ∀ (t : Transcript) (flushFails : Bool), ∃ text : List Char,
      Capture.writeTranscript t .json (Capture.Vessel.empty none flushFails) =
        (.ok (), { Capture.Vessel.empty none flushFails with content := Bytes.ofText text }) ∧
      Reader.run Transcript.read text = .ok t := by
  refine ⟨fun t => t.decodes.run_compact, fun s => s.decodes.run_compact,
    fun e => e.decodes.run_compact, fun events => (Event.decodes_all events).run_compact,
    fun c => c.decodes.run_compact, fun c => c.decodes.run_compact, ?_⟩
  intro t flushFails
  refine ⟨Capture.jsonText t, ?_, Capture.read_jsonText t⟩
  rw [Capture.writeTranscript, Capture.Vessel.writePieces_roomy rfl, Capture.flatten_pieces_json]
  rfl

example : (Event.document ⟨7, .sent, [0, 255], ⟨1, 5⟩⟩).render =
    "\x7b\"seq\":7,\"flow\":\"sent\",\"payload\":\"00ff\"," ++
      "\"elapsed\":\x7b\"secs\":1,\"nanos\":5\x7d\x7d" := rfl

end WireScript
