import Mathlib.Data.List.Chain
import WireScript.Proofs.Transcript.Stream

set_option autoImplicit false

namespace WireScript

namespace Event

def bytesOf (events : List Event) : List (Flow × UInt8) :=
  events.flatMap (fun e => e.payload.map (fun b => (e.flow, b)))

theorem bytesOf_flatten (batches : List (List Event)) :
    bytesOf batches.flatten = batches.flatMap bytesOf := by
  induction batches with
  | nil => rfl
  | cons batch batches ih => simp_all [bytesOf]

end Event

namespace Perspective

def traffic (p : Perspective) (bytes : List (Flow × UInt8)) : Traffic :=
  bytes.map (fun x => (p.direction x.1, x.2))

theorem traffic_injective (p : Perspective) {bytes others : List (Flow × UInt8)}
    (same : p.traffic bytes = p.traffic others) : bytes = others := by
  apply (List.map_inj_right ?_).1 same
  intro x y equal
  obtain ⟨direction, byte⟩ := Prod.mk.inj equal
  exact Prod.ext (p.direction_injective direction) byte

theorem traffic_bytesOf (p : Perspective) (events : List Event) :
    p.traffic (Event.bytesOf events) = Transcript.streamOf (events.map (·.segment p)) := by
  induction events with
  | nil => rfl
  | cons e events ih =>
    rw [List.map_cons, Transcript.streamOf_cons, ← ih]
    simp [traffic, Event.bytesOf, Event.segment, Segment.stream, Direction.mark]

end Perspective

namespace Transcript

structure Canonical (segments : List Segment) : Prop where
  filled : ∀ s ∈ segments, s.payload ≠ []
  turns : segments.IsChain (fun s t => s.direction ≠ t.direction)

theorem canonical_nil : Canonical [] := ⟨by simp, .nil⟩

theorem Canonical.tail {s : Segment} {rest : List Segment} (canonical : Canonical (s :: rest)) :
    Canonical rest :=
  ⟨fun t member => canonical.filled t (List.mem_cons_of_mem s member), canonical.turns.tail⟩

theorem Canonical.prepend {rest : List Segment} (canonical : Canonical rest) {s : Segment}
    (filled : s.payload ≠ []) : Canonical (prepend s rest) := by
  cases rest with
  | nil => exact ⟨by simpa [Transcript.prepend] using filled, .singleton s⟩
  | cons t rest =>
    by_cases same : t.direction = s.direction
    · -- The first segment grows, and its neighbour sees the same direction.
      simp only [Transcript.prepend, same, if_true]
      refine ⟨?_, ?_⟩
      · intro u member
        obtain rfl | later := List.mem_cons.1 member
        · simp [filled]
        · exact canonical.tail.filled u later
      · have turns := canonical.turns
        rw [List.isChain_cons] at turns ⊢
        exact ⟨by simpa [same] using turns.1, turns.2⟩
    · simp only [Transcript.prepend, same, if_false]
      refine ⟨?_, .cons_cons (Ne.symm same) canonical.turns⟩
      intro u member
      obtain rfl | later := List.mem_cons.1 member
      · exact filled
      · exact canonical.filled u later

theorem canonical_coalesce (segments : List Segment) : Canonical (coalesce segments) := by
  induction segments with
  | nil => exact canonical_nil
  | cons s rest ih =>
    by_cases nothing : s.payload = []
    · simpa [coalesce, nothing] using ih
    · simpa [coalesce, nothing] using ih.prepend nothing

theorem Canonical.coalesce_eq {segments : List Segment} (canonical : Canonical segments) :
    coalesce segments = segments := by
  induction segments with
  | nil => rfl
  | cons s rest ih =>
    have filled : s.payload ≠ [] := canonical.filled s List.mem_cons_self
    rw [coalesce, if_neg filled, ih canonical.tail]
    cases rest with
    | nil => rfl
    | cons t rest =>
      have turn : s.direction ≠ t.direction := (List.isChain_cons_cons.1 canonical.turns).1
      simp [Transcript.prepend, Ne.symm turn]

theorem prepend_flip (s : Segment) (rest : List Segment) :
    prepend s.flip (rest.map Segment.flip) = (prepend s rest).map Segment.flip := by
  cases rest with
  | nil => rfl
  | cons t rest =>
    have same : t.direction.flip = s.direction.flip ↔ t.direction = s.direction := by
      constructor
      · intro equal
        simpa using congrArg Direction.flip equal
      · exact congrArg Direction.flip
    by_cases joined : t.direction = s.direction <;> simp [prepend, Segment.flip, same, joined]

theorem coalesce_flip (segments : List Segment) :
    coalesce (segments.map Segment.flip) = (coalesce segments).map Segment.flip := by
  induction segments with
  | nil => rfl
  | cons s rest ih =>
    by_cases nothing : s.payload = []
    · simpa [coalesce, nothing, Segment.flip] using ih
    · have kept : s.flip.payload ≠ [] := nothing
      rw [List.map_cons, coalesce, if_neg kept, ih, prepend_flip, coalesce, if_neg nothing]

theorem eq_ofEvents_iff (p : Perspective) (events : List Event) (t : Transcript) :
    t = ofEvents p events ↔
      Canonical t.segments ∧ streamOf t.segments = p.traffic (Event.bytesOf events) := by
  rw [p.traffic_bytesOf]
  constructor
  · rintro rfl
    exact ⟨canonical_coalesce _, streamOf_coalesce _⟩
  · rintro ⟨canonical, same⟩
    -- A canonical transcript is what its own traffic is joined to.
    have joined : t.segments = coalesce (events.map (·.segment p)) := by
      rw [← canonical.coalesce_eq, coalesce_eq_ofTraffic, same, ← coalesce_eq_ofTraffic]
    rw [ofEvents, ← joined]

theorem ofEvents_eq_iff (p : Perspective) (events others : List Event) :
    ofEvents p events = ofEvents p others ↔ Event.bytesOf events = Event.bytesOf others := by
  constructor
  · intro same
    apply p.traffic_injective
    rw [← ((eq_ofEvents_iff p events _).1 rfl).2, same]
    exact ((eq_ofEvents_iff p others _).1 rfl).2
  · intro same
    rw [eq_ofEvents_iff, ← same]
    exact (eq_ofEvents_iff p events _).1 rfl

theorem ofEvents_peer (events : List Event) :
    ofEvents .peer events = (ofEvents .iut events).flip := by
  have segments :
      events.map (·.segment .peer) = (events.map (·.segment .iut)).map Segment.flip := by
    simp [Event.segment, Segment.flip, Perspective.direction_peer]
  rw [ofEvents, segments, coalesce_flip, ofEvents, flip]

/-- The transcript of a recording is the only one without empty segments, with segments that take
turns, and with the recorded traffic. So recordings of the same bytes have the same transcript, also
when they come in batches, and seen from the other end it has every direction turned round. -/
theorem ofEvents_canonical_unique :
    (∀ (p : Perspective) (events : List Event) (t : Transcript), t = ofEvents p events ↔
      Canonical t.segments ∧ streamOf t.segments = p.traffic (Event.bytesOf events)) ∧
    (∀ (p : Perspective) (events others : List Event),
      ofEvents p events = ofEvents p others ↔ Event.bytesOf events = Event.bytesOf others) ∧
    (∀ (p : Perspective) (batches : List (List Event)) (events : List Event),
      ofEvents p batches.flatten = ofEvents p events ↔
        batches.flatMap Event.bytesOf = Event.bytesOf events) ∧
    ∀ events : List Event, ofEvents .peer events = (ofEvents .iut events).flip := by
  refine ⟨eq_ofEvents_iff, ofEvents_eq_iff, ?_, ofEvents_peer⟩
  intro p batches events
  rw [ofEvents_eq_iff, Event.bytesOf_flatten]

example : ofEvents .iut
    [⟨0, .received, [], .zero⟩, ⟨1, .sent, [1], .zero⟩, ⟨2, .received, [], .zero⟩,
      ⟨3, .sent, [2, 3], .zero⟩, ⟨4, .received, [4], .zero⟩] =
    ⟨[⟨.fromIut, [1, 2, 3]⟩, ⟨.toIut, [4]⟩]⟩ := rfl

end Transcript

end WireScript
