import WireScript.Transcript.Event

set_option autoImplicit false

namespace WireScript

abbrev Traffic := List (Direction × UInt8)

def Direction.mark (d : Direction) (data : Bytes) : Traffic := data.map (fun b => (d, b))

namespace Direction

variable (d : Direction)

@[simp] theorem mark_nil : d.mark [] = [] := rfl

@[simp] theorem mark_cons (b : UInt8) (data : Bytes) :
    d.mark (b :: data) = (d, b) :: d.mark data := rfl

@[simp] theorem mark_append (data more : Bytes) :
    d.mark (data ++ more) = d.mark data ++ d.mark more := List.map_append

@[simp] theorem mark_eq_nil {data : Bytes} : d.mark data = [] ↔ data = [] := List.map_eq_nil_iff

@[simp] theorem length_mark (data : Bytes) : (d.mark data).length = data.length :=
  List.length_map ..

theorem mark_injective {data more : Bytes} (same : d.mark data = d.mark more) : data = more := by
  refine (List.map_inj_right ?_).1 same
  intro b b' equal
  exact (Prod.mk.inj equal).2

theorem mem_mark {x : Direction × UInt8} {data : Bytes} (member : x ∈ d.mark data) : x.1 = d := by
  obtain ⟨b, -, rfl⟩ := List.mem_map.1 member
  rfl

theorem mark_prefix {data more : Bytes} {rest rest' : Traffic} (short : data.length ≤ more.length)
    (same : d.mark data ++ rest = d.mark more ++ rest') :
    ∃ left, more = data ++ left ∧ rest = d.mark left ++ rest' := by
  -- Of two runs that begin the same traffic one begins the other, and the first is the shorter.
  obtain ⟨left, whole, tail⟩ | ⟨left, whole, tail⟩ := List.append_eq_append_iff.1 same
  · obtain ⟨front, back, rfl, fits, rfl⟩ := List.map_eq_append_iff.1 whole
    exact ⟨back, by rw [d.mark_injective fits], tail⟩
  · have none : left = [] := by
      have total := congrArg List.length whole
      simp only [List.length_append, length_mark] at total
      exact List.eq_nil_of_length_eq_zero (by omega)
    rw [none, List.append_nil] at whole
    exact ⟨[], by simp [d.mark_injective whole], by simpa [none] using tail.symm⟩

end Direction

theorem Perspective.direction_injective (p : Perspective) {f g : Flow}
    (same : p.direction f = p.direction g) : f = g := by
  cases p <;> cases f <;> cases g <;> simp_all [direction]

def Segment.stream (s : Segment) : Traffic := s.direction.mark s.payload

namespace Transcript

def streamOf (segments : List Segment) : Traffic := segments.flatMap Segment.stream

@[simp] theorem streamOf_nil : streamOf [] = [] := rfl

@[simp] theorem streamOf_cons (s : Segment) (rest : List Segment) :
    streamOf (s :: rest) = s.stream ++ streamOf rest := rfl

@[simp] theorem streamOf_append (segments more : List Segment) :
    streamOf (segments ++ more) = streamOf segments ++ streamOf more := List.flatMap_append

theorem prepend_append (d : Direction) (data more : Bytes) (rest : List Segment) :
    prepend ⟨d, data ++ more⟩ rest = prepend ⟨d, data⟩ (prepend ⟨d, more⟩ rest) := by
  cases rest with
  | nil => simp [prepend]
  | cons t rest => by_cases same : t.direction = d <;> simp [prepend, same]

theorem streamOf_prepend (s : Segment) (rest : List Segment) :
    streamOf (prepend s rest) = s.stream ++ streamOf rest := by
  cases rest with
  | nil => rfl
  | cons t rest =>
    by_cases same : t.direction = s.direction <;> simp [prepend, same, Segment.stream]

theorem streamOf_coalesce (segments : List Segment) :
    streamOf (coalesce segments) = streamOf segments := by
  induction segments with
  | nil => rfl
  | cons s rest ih =>
    by_cases nothing : s.payload = []
    · simp [coalesce, nothing, ih, Segment.stream]
    · simp [coalesce, nothing, streamOf_prepend, ih]

def ofTraffic : Traffic → List Segment
  | [] => []
  | (d, b) :: rest => prepend ⟨d, [b]⟩ (ofTraffic rest)

theorem ofTraffic_mark (d : Direction) (b : UInt8) (data : Bytes) (rest : Traffic) :
    ofTraffic (d.mark (b :: data) ++ rest) = prepend ⟨d, b :: data⟩ (ofTraffic rest) := by
  -- A run of one direction is put before the rest byte by byte, from its last byte on.
  induction data generalizing b with
  | nil => rfl
  | cons c data ih =>
    have front := prepend_append d [b] (c :: data) (ofTraffic rest)
    rw [List.cons_append, List.nil_append] at front
    rw [front, ← ih c]
    rfl

theorem coalesce_eq_ofTraffic (segments : List Segment) :
    coalesce segments = ofTraffic (streamOf segments) := by
  induction segments with
  | nil => rfl
  | cons s rest ih =>
    -- An empty segment has no traffic, and joining leaves it out.
    rcases s with ⟨d, _ | ⟨b, data⟩⟩
    · exact ih
    · rw [coalesce, if_neg (by simp), ih, streamOf_cons]
      exact (ofTraffic_mark d b data _).symm

theorem ofEvents_congr {p q : Perspective} {events others : List Event}
    (same : streamOf (events.map (·.segment p)) = streamOf (others.map (·.segment q))) :
    ofEvents p events = ofEvents q others := by
  simp only [ofEvents, coalesce_eq_ofTraffic, same]

theorem content_prepend (s : Segment) (rest : List Segment) (d : Direction) :
    content ⟨prepend s rest⟩ d = content ⟨s :: rest⟩ d := by
  cases rest with
  | nil => rfl
  | cons t rest =>
    by_cases joined : t.direction = s.direction
    · by_cases same : s.direction = d <;> simp [prepend, content, joined, same]
    · simp [prepend, joined]

theorem content_coalesce (segments : List Segment) (d : Direction) :
    content ⟨coalesce segments⟩ d = content ⟨segments⟩ d := by
  induction segments with
  | nil => rfl
  | cons s rest ih =>
    simp only [content] at ih
    by_cases nothing : s.payload = []
    · by_cases same : s.direction = d <;> simp [coalesce, nothing, content, ih, same]
    · rw [coalesce, if_neg nothing, content_prepend]
      by_cases same : s.direction = d <;> simp [content, ih, same]

theorem content_ofEvents (p : Perspective) (events : List Event) (flow : Flow) :
    (ofEvents p events).content (p.direction flow) =
      (events.filter (fun e => e.flow = flow)).flatMap Event.payload := by
  rw [ofEvents, content_coalesce]
  induction events with
  | nil => rfl
  | cons e events ih =>
    have same : p.direction e.flow = p.direction flow ↔ e.flow = flow :=
      ⟨p.direction_injective, congrArg p.direction⟩
    simp only [content, Event.segment] at ih
    by_cases flows : e.flow = flow <;> simp [content, Event.segment, same, flows, ih]

end Transcript

end WireScript
