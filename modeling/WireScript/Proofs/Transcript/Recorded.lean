import WireScript.Proofs.Transcript.Canonical
import WireScript.Proofs.Transcript.Positional

set_option autoImplicit false

namespace WireScript

namespace Perspective

-- Nothing was transferred, or the first transfer of anything came from the implementation.
def IutFirst (p : Perspective) (events : List Event) : Prop :=
  (∀ e ∈ events, e.payload = []) ∨
    ∃ e ∈ events.find? (fun e => e.payload ≠ []), p.direction e.flow = .fromIut

instance (p : Perspective) (events : List Event) : Decidable (p.IutFirst events) :=
  inferInstanceAs (Decidable (_ ∨ _))

end Perspective

theorem Direction.eq_flip_iff (d turn : Direction) : d = turn.flip ↔ d ≠ turn := by
  cases d <;> cases turn <;> decide

namespace Transcript

def opening (segments : List Segment) : Option Direction := segments.head?.map Segment.direction

@[simp] theorem opening_nil : opening [] = none := rfl

@[simp] theorem opening_cons (s : Segment) (rest : List Segment) :
    opening (s :: rest) = some s.direction := rfl

theorem opening_prepend (s : Segment) (rest : List Segment) :
    opening (prepend s rest) = some s.direction := by
  cases rest with
  | nil => rfl
  | cons t rest => by_cases same : t.direction = s.direction <;> simp [prepend, same]

theorem opening_coalesce (segments : List Segment) :
    opening (coalesce segments) =
      (segments.find? (fun s => s.payload ≠ [])).map Segment.direction := by
  induction segments with
  | nil => rfl
  | cons s rest ih =>
    by_cases nothing : s.payload = []
    · simp [coalesce, nothing, ih]
    · simp [coalesce, nothing, opening_prepend]

theorem opening_ofEvents (p : Perspective) (events : List Event) :
    opening (ofEvents p events).segments =
      (events.find? (fun e => e.payload ≠ [])).map (fun e => p.direction e.flow) := by
  rw [ofEvents, opening_coalesce, List.find?_map, Option.map_map]
  rfl

theorem iutFirst_iff (p : Perspective) (events : List Event) :
    p.IutFirst events ↔ opening (ofEvents p events).segments ≠ some .toIut := by
  rw [opening_ofEvents, Perspective.IutFirst]
  cases found : events.find? (fun e => e.payload ≠ []) with
  | none => simpa using found
  | some e =>
    have spoken : ¬∀ e ∈ events, e.payload = [] := by
      intro silent
      have filled : e.payload ≠ [] := by simpa using List.find?_some found
      exact filled (silent e (List.mem_of_find?_eq_some found))
    have ways : p.direction e.flow = .fromIut ↔ p.direction e.flow ≠ .toIut :=
      Direction.eq_flip_iff _ .toIut
    simp [spoken, ways]

theorem payloads_of_turns {segments : List Segment}
    (turns : segments.IsChain (fun s t => s.direction ≠ t.direction)) (index : Nat)
    (turn : Direction) :
    payloads index turn segments =
      if opening segments = some turn.flip then .error ⟨index, turn.flip⟩
      else .ok (segments.map Segment.payload) := by
  induction segments generalizing index turn with
  | nil => simp [payloads]
  | cons s rest ih =>
    by_cases fits : s.direction = turn
    · -- The next segment goes another way than this one, which is its turn.
      have onward : opening rest ≠ some turn.flip.flip := by
        cases rest with
        | nil => simp
        | cons t rest =>
          have differ : s.direction ≠ t.direction := (List.isChain_cons_cons.1 turns).1
          simpa [fits] using differ.symm
      have here : s.direction ≠ turn.flip := by
        rw [fits]
        exact turn.flip_ne.symm
      rw [payloads, if_pos fits, ih turns.tail, if_neg onward]
      simp [here, Except.map]
    · have wrong : s.direction = turn.flip := (Direction.eq_flip_iff _ turn).2 fits
      rw [payloads, if_neg fits]
      simp [wrong]

theorem toPositional_ofEvents (p : Perspective) (events : List Event) :
    toPositional (ofEvents p events) =
      if p.IutFirst events then .ok ((ofEvents p events).segments.map Segment.payload)
      else .error ⟨0, .toIut⟩ := by
  have turns : (ofEvents p events).segments.IsChain (fun s t => s.direction ≠ t.direction) :=
    (canonical_coalesce _).turns
  rw [toPositional, payloads_of_turns turns]
  by_cases first : p.IutFirst events
  · have opened : opening (ofEvents p events).segments ≠ some Direction.fromIut.flip :=
      (iutFirst_iff p events).1 first
    rw [if_neg opened, if_pos first]
  · have opened : opening (ofEvents p events).segments = some Direction.fromIut.flip := by
      rw [iutFirst_iff] at first
      exact not_not.1 first
    rw [if_pos opened, if_neg first]
    rfl

theorem canonical_alternate_iff (turn : Direction) (script : List Bytes) :
    Canonical (alternate turn script) ↔ ∀ payload ∈ script, payload ≠ [] := by
  induction script generalizing turn with
  | nil => simp [alternate, canonical_nil]
  | cons payload rest ih =>
    have step : Canonical (alternate turn (payload :: rest)) ↔
        payload ≠ [] ∧ Canonical (alternate turn.flip rest) := by
      constructor
      · intro canonical
        exact ⟨canonical.filled _ List.mem_cons_self, canonical.tail⟩
      · rintro ⟨filled, canonical⟩
        have joined := canonical.prepend (s := ⟨turn, payload⟩) filled
        cases rest with
        | nil => exact joined
        | cons next rest =>
          simpa [prepend, alternate, turn.flip_ne] using joined
    rw [step, ih, List.forall_mem_cons]

/-- A recording has a positional script if and only if nothing was transferred or the
implementation under test was the first to send. The script is then the only one without empty
payloads that stands for the recorded traffic; otherwise the first segment is blamed, and a later
one never is. -/
theorem recorded_positional_unless_peer_first (p : Perspective) (events : List Event) :
    ((∃ script, toPositional (ofEvents p events) = .ok script) ↔ p.IutFirst events) ∧
    (∀ script, toPositional (ofEvents p events) = .ok script ↔
      (∀ payload ∈ script, payload ≠ []) ∧
        streamOf (ofPositional script).segments = p.traffic (Event.bytesOf events)) ∧
    ∀ fault, toPositional (ofEvents p events) = .error fault ↔
      ¬p.IutFirst events ∧ fault = ⟨0, .toIut⟩ := by
  have told := toPositional_ofEvents p events
  refine ⟨?_, ?_, ?_⟩
  · by_cases first : p.IutFirst events <;> simp [told, first]
  · intro script
    have whole : toPositional (ofEvents p events) = .ok script ↔
        ofPositional script = ofEvents p events := by
      rw [toPositional, payloads_eq_ok_iff, ofPositional, mk.injEq, eq_comm]
    rw [whole, eq_ofEvents_iff, ofPositional, canonical_alternate_iff]
  · intro fault
    by_cases first : p.IutFirst events <;> simp [told, first, eq_comm]

example : toPositional (ofEvents .peer
    [⟨0, .received, [], .zero⟩, ⟨1, .sent, [1], .zero⟩, ⟨2, .received, [2], .zero⟩]) =
    .error ⟨0, .toIut⟩ := rfl

end Transcript

end WireScript
