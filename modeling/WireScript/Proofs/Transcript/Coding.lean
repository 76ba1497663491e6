import WireScript.Proofs.Json.Decoding
import WireScript.Transcript.Coding

set_option autoImplicit false

namespace WireScript

open Json (Document Record)
open Json.Reader (Decodes decodes_list decodes_natural decodes_text decodes_variant wordMax)

theorem Direction.decodes (d : Direction) : Decodes read d.document d :=
  decodes_variant (by cases d <;> rfl)

theorem Flow.decodes (f : Flow) : Decodes read f.document f :=
  decodes_variant (by cases f <;> rfl)

theorem Bytes.decodes (data : Bytes) : Decodes read (document data) data := by
  apply decodes_text
  rw [Hex.text, String.toList_ofList, Hex.decode_encode]
  rfl

namespace Span

theorem ofParts?_self (d : Span) : ofParts? d.secs d.nanos.val = some d := by
  have whole : d.nanos.val / 1000000000 = 0 := Nat.div_eq_of_lt d.nanos.isLt
  have part : d.nanos.val % 1000000000 = d.nanos.val := Nat.mod_eq_of_lt d.nanos.isLt
  have fits : d.secs.toNat < 0x10000000000000000 := d.secs.toNat_lt
  simp [ofParts?, whole, part, fits]

theorem decodes (d : Span) : Decodes read d.document d := by
  have secs : d.secs.toNat ≤ wordMax := Nat.le_of_lt_succ d.secs.toNat_lt
  have nanos : d.nanos.val ≤ 0xFFFFFFFF := by omega
  have word : d.nanos.val ≤ wordMax := Nat.le_trans nanos (by decide)
  have fills : record.Fills record.blank
      [("secs", .number d.secs.toNat), ("nanos", .number d.nanos.val)]
      ⟨some d.secs.toNat, some d.nanos.val⟩ :=
    .cons rfl rfl ((decodes_natural secs secs "u64").bind_pure _)
      (.cons rfl rfl ((decodes_natural nanos word "u32").bind_pure _) (.nil _))
  apply fills.decodes
  simp [record, Draft.build, Json.require, ofParts?_self, bind, Except.bind]

end Span

theorem Segment.decodes (s : Segment) : Decodes read s.document s := by
  have fills : record.Fills record.blank
      [("direction", s.direction.document), ("payload", Bytes.document s.payload)]
      ⟨some s.direction, some s.payload⟩ :=
    .cons rfl rfl (s.direction.decodes.bind_pure _)
      (.cons rfl rfl ((Bytes.decodes s.payload).bind_pure _) (.nil _))
  exact fills.decodes rfl

theorem Transcript.decodes (t : Transcript) : Decodes read t.document t := by
  have segments : Decodes (Json.Reader.list Segment.read "a sequence")
      (.list (t.segments.map Segment.document)) t.segments :=
    decodes_list (fun s _ => s.decodes) "a sequence"
  have fills : record.Fills record.blank [("segments", .list (t.segments.map Segment.document))]
      (some t.segments) :=
    .cons rfl rfl (segments.bind_pure _) (.nil _)
  exact fills.decodes rfl

namespace Event

theorem decodes (e : Event) : Decodes read e.document e := by
  have seq : e.seq.toNat ≤ wordMax := Nat.le_of_lt_succ e.seq.toNat_lt
  have fills : record.Fills record.blank
      [("seq", .number e.seq.toNat), ("flow", e.flow.document),
        ("payload", Bytes.document e.payload), ("elapsed", e.elapsed.document)]
      ⟨some e.seq.toNat, some e.flow, some e.payload, some e.elapsed⟩ :=
    .cons rfl rfl ((decodes_natural seq seq "u64").bind_pure _)
      (.cons rfl rfl (e.flow.decodes.bind_pure _)
        (.cons rfl rfl ((Bytes.decodes e.payload).bind_pure _)
          (.cons rfl rfl (e.elapsed.decodes.bind_pure _) (.nil _))))
  apply fills.decodes
  simp [record, Draft.build, Json.require, bind, Except.bind]

theorem decodes_all (events : List Event) : Decodes readList (listDocument events) events :=
  decodes_list (fun e _ => e.decodes) "a sequence"

end Event

end WireScript
