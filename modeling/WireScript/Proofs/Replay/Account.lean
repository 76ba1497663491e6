import WireScript.Proofs.Replay.Sound

set_option autoImplicit false

namespace WireScript

namespace Transcript

def upTo (t : Transcript) (i : Nat) : Transcript := ⟨t.segments.take i⟩

def due (t : Transcript) (i : Nat) (d : Direction) : Bytes :=
  match t.segments[i]? with
  | some s => if s.direction = d then s.payload else []
  | none => []

theorem content_upTo_succ (t : Transcript) (i : Nat) (d : Direction) :
    (t.upTo (i + 1)).content d = (t.upTo i).content d ++ t.due i d := by
  simp only [content, upTo, due, List.take_add_one, List.filter_append, List.flatMap_append]
  cases t.segments[i]? with
  | none => rfl
  | some s => by_cases same : s.direction = d <;> simp [same]

theorem content_upTo_prefix (t : Transcript) (d : Direction) {i j : Nat} (before : i ≤ j) :
    (t.upTo i).content d <+: (t.upTo j).content d := by
  induction before with
  | refl => exact List.prefix_refl _
  | step _ ih =>
    rw [content_upTo_succ]
    exact ih.trans (List.prefix_append _ _)

theorem due_of_drop {t : Transcript} {i : Nat} {s : Segment} {rest : List Segment}
    (at' : t.segments.drop i = s :: rest) (d : Direction) :
    t.due i d = if s.direction = d then s.payload else [] := by
  have here : t.segments[i]? = some s := by
    have first : (t.segments.drop i)[0]? = some s := by rw [at']; rfl
    simpa using first
  simp [due, here]

end Transcript

namespace Replay

/-- The number of segments that were done when a replay ended. -/
def Verdict.completed (t : Transcript) : Verdict → Nat
  | .ok _ => t.length
  | .error fault => fault.index

namespace Player

open Wire (Act Call Sight Turn)

def fed (p : Player) : Bytes :=
  match p.call, p.rest with
  | some (.writeAll left), s :: _ => s.payload.take (s.payload.length - left.length)
  | some .flush, s :: _ => s.payload
  | _, _ => []

def got (p : Player) : Bytes :=
  match p.call with
  | some (.readUpTo _ got) | some (.readToEnd _ got) => got
  | _ => []

structure Abides (t : Transcript) (p : Player) (told taken : Bytes) : Prop where
  rest : p.rest = t.segments.drop p.index
  bound : p.index ≤ t.length
  told : told = (t.upTo p.index).content .toIut ++ p.fed
  taken : taken = (t.upTo p.index).content .fromIut ++ p.got

theorem abides_start (growth : Wire.Growth) (config : Config) (t : Transcript) :
    (start growth config t).Abides t [] [] where
  rest := rfl
  bound := Nat.zero_le _
  told := rfl
  taken := rfl

variable {t : Transcript} {p : Player} {told taken : Bytes}

theorem fed_of_writing {before left : Bytes} {s : Segment} {rest : List Segment}
    (call : p.call = some (.writeAll left)) (at' : p.rest = s :: rest)
    (whole : before ++ left = s.payload) : p.fed = before := by
  simp [fed, call, at', ← whole]

theorem Abides.advance (abides : p.Abides t told taken) {s : Segment} {rest : List Segment}
    (at' : p.rest = s :: rest) (sent : p.fed = if s.direction = .toIut then s.payload else [])
    (received : p.got = if s.direction = .fromIut then s.payload else []) :
    p.advance.Abides t told taken := by
  have here := abides.rest.symm.trans at'
  refine ⟨?_, ?_, ?_, ?_⟩
  · simp [Player.advance, abides.rest, List.tail_drop]
  · have present : t.segments.drop p.index ≠ [] := by simp [here]
    have less : p.index < t.segments.length := by simpa using present
    exact less
  · rw [abides.told, sent, Player.advance, Transcript.content_upTo_succ,
      Transcript.due_of_drop here]
    simp [fed]
  · rw [abides.taken, received, Player.advance, Transcript.content_upTo_succ,
      Transcript.due_of_drop here]
    simp [got]

theorem Abides.after_still (abides : p.Abides t told taken) (sound : p.Sound) {status : Status}
    (turn : p.turn = .still status) {q : Player} (on : status.part = .inl q) :
    q.Abides t told taken := by
  have sent := abides.told
  have received := abides.taken
  obtain ⟨s, rest, idle, at', left⟩ | ⟨idle, at', through | left⟩ |
      ⟨got, s, rest, call, at', direction, ⟨same, left⟩ | ⟨cause, through⟩⟩ |
      ⟨s, rest, call, at', direction, left⟩ := sound.still_cases turn
  · obtain rfl := Sum.inl.inj (left.symm.trans on)
    refine ⟨abides.rest, abides.bound, ?_, ?_⟩
    · rcases s with ⟨_ | _, payload⟩ <;> simpa [fed, at', idle, opening] using sent
    · rcases s with ⟨_ | _, payload⟩ <;> simpa [Player.got, idle, opening] using received
  · simp [through] at on
  · obtain rfl := Sum.inl.inj (left.symm.trans on)
    exact ⟨abides.rest, abides.bound, by simpa [fed, idle] using sent,
      by simpa [Player.got, idle] using received⟩
  · obtain rfl := Sum.inl.inj (left.symm.trans on)
    apply abides.advance at'
    · simp [fed, call, direction]
    · simp [Player.got, call, direction, same]
  · simp [through] at on
  · obtain rfl := Sum.inl.inj (left.symm.trans on)
    exact ⟨abides.rest, abides.bound, by simpa [fed, call, at'] using sent,
      by simpa [Player.got, call] using received⟩

theorem Abides.after_asking (abides : p.Abides t told taken) (sound : p.Sound) {act : Act}
    {next : Sight → Status} (turn : p.turn = .asking act next) {sight : Sight}
    (admits : act.Admits sight) {q : Player} (on : (next sight).part = .inl q) :
    q.Abides t (told ++ act.sent sight) (taken ++ act.received sight) := by
  by_cases waits : sight = .pending
  · subst waits
    rw [next_pending turn] at on
    obtain rfl := Sum.inl.inj on
    simpa using abides
  · have sent := abides.told
    have received := abides.taken
    obtain ⟨cause, through, -⟩ | ⟨through, -⟩ |
        ⟨missing, got, s, rest, found, call, at', direction, -, rfl, rfl, -, left⟩ |
        ⟨remaining, s, rest, n, call, at', direction, suffix, rfl, rfl, short, left⟩ |
        ⟨s, rest, call, at', direction, rfl, rfl, left⟩ |
        ⟨growth, got, found, call, at', rfl, rfl, left⟩ :=
      sound.asking_cases turn admits waits
    · simp [through] at on
    · simp [through] at on
    · obtain rfl := Sum.inl.inj (left.symm.trans on)
      refine ⟨abides.rest, abides.bound, ?_, ?_⟩
      · simpa [fed, call, Act.sent] using sent
      · simp [Player.got, call, Act.received, received]
    · obtain rfl := Sum.inl.inj (left.symm.trans on)
      refine ⟨abides.rest, abides.bound, ?_, ?_⟩
      · obtain ⟨before, whole⟩ := suffix
        have length : s.payload.length = before.length + remaining.length := by simp [← whole]
        have here := fed_of_writing call at' whole
        -- What has been fed grows by just the bytes that this write got rid of.
        have there : s.payload.take (s.payload.length - (remaining.length - n)) =
            before ++ remaining.take n := by
          have point : s.payload.length - (remaining.length - n) = before.length + n := by omega
          rw [point, ← whole, List.take_length_add_append]
        rw [sent, here]
        simp [fed, at', there, Act.sent]
      · simpa [Player.got, call, Act.received] using received
    · obtain rfl := Sum.inl.inj (left.symm.trans on)
      simp only [Act.sent, Act.received, List.append_nil]
      apply abides.advance at'
      · simp [fed, call, at', direction]
      · simp [Player.got, call, direction]
    · obtain rfl := Sum.inl.inj (left.symm.trans on)
      refine ⟨abides.rest, abides.bound, ?_, ?_⟩
      · simpa [fed, call, Act.sent] using sent
      · simp [Player.got, call, Act.received, received]

theorem Abides.index_of_done (abides : p.Abides t told taken) (done : p.rest = []) :
    p.index = t.length := by
  have past : t.length ≤ p.index := by
    have none := abides.rest.symm.trans done
    simpa [Transcript.length] using none
  exact Nat.le_antisymm abides.bound past

theorem Abides.due (abides : p.Abides t told taken) {s : Segment} {rest : List Segment}
    (at' : p.rest = s :: rest) (d : Direction) :
    t.due p.index d = if s.direction = d then s.payload else [] :=
  Transcript.due_of_drop (abides.rest.symm.trans at') d

theorem Abides.fed_prefix (abides : p.Abides t told taken) (sound : p.Sound) :
    p.fed <+: t.due p.index .toIut := by
  obtain idle | ⟨missing, got, s, rest, call, -⟩ |
      ⟨left, s, rest, call, at', direction, before, whole⟩ | ⟨s, rest, call, at', direction⟩ |
      ⟨growth, got, call, -⟩ := sound.cases
  · simp [fed, idle]
  · simp [fed, call]
  · rw [fed_of_writing call at' whole, abides.due at', if_pos direction, ← whole]
    exact List.prefix_append before left
  · simp [fed, call, at', abides.due at', direction]
  · simp [fed, call]

theorem Abides.due_of_write (abides : p.Abides t told taken) (sound : p.Sound) {data : Bytes}
    (asked : p.turn.asks = some (.write data)) : t.due p.index .toIut = p.fed ++ data := by
  obtain idle | ⟨missing, got, s, rest, call, -⟩ |
      ⟨left, s, rest, call, at', direction, before, whole⟩ | ⟨s, rest, call, -⟩ |
      ⟨growth, got, call, -⟩ := sound.cases
  · simp [turn, idle, Turn.asks] at asked
  · cases missing <;> simp [turn, call, Call.turn, Turn.map, Turn.asks] at asked
  · cases left with
    | nil => simp [turn, call, Call.turn, Turn.map, Turn.asks] at asked
    | cons b left =>
      obtain rfl : b :: left = data := by
        simpa [turn, call, Call.turn, Turn.map, Turn.asks] using asked
      rw [fed_of_writing call at' whole, abides.due at', if_pos direction, ← whole]
  · simp [turn, call, Call.turn, Turn.map, Turn.asks] at asked
  · simp [turn, call, Call.turn, Turn.map, Turn.asks] at asked

theorem Abides.length_got_le (abides : p.Abides t told taken) (sound : p.Sound)
    (within : p.index < t.length) : p.got.length ≤ (t.due p.index .fromIut).length := by
  obtain idle | ⟨missing, got, s, rest, call, at', direction, total⟩ | ⟨left, s, rest, call, -⟩ |
      ⟨s, rest, call, -⟩ | ⟨growth, got, call, at'⟩ := sound.cases
  · simp [Player.got, idle]
  · rw [abides.due at', if_pos direction]
    simp only [Player.got, call]
    omega
  · simp [Player.got, call]
  · simp [Player.got, call]
  · exact absurd (abides.index_of_done at') (Nat.ne_of_lt within)

theorem Abides.completed_still (abides : p.Abides t told taken) (sound : p.Sound) {status : Status}
    (turn : p.turn = .still status) {verdict : Verdict} (through : status.part = .inr verdict) :
    verdict.completed t = p.index := by
  obtain ⟨s, rest, -, -, left⟩ | ⟨-, at', ends | left⟩ |
      ⟨got, s, rest, -, -, -, ⟨-, left⟩ | ⟨cause, ends⟩⟩ | ⟨s, rest, -, -, -, left⟩ :=
    sound.still_cases turn
  · simp [left] at through
  · obtain rfl := Sum.inr.inj (ends.symm.trans through)
    exact (abides.index_of_done at').symm
  · simp [left] at through
  · simp [left] at through
  · obtain rfl := Sum.inr.inj (ends.symm.trans through)
    rfl
  · simp [left] at through

theorem Abides.completed_asking (abides : p.Abides t told taken) (sound : p.Sound) {act : Act}
    {next : Sight → Status} (turn : p.turn = .asking act next) {sight : Sight}
    (admits : act.Admits sight) {verdict : Verdict} (through : (next sight).part = .inr verdict) :
    verdict.completed t = p.index ∧ (act.received sight = [] ∨ p.index = t.length) := by
  -- A player that is at a segment fails without taking anything; bytes it took last came after the
  -- script.
  by_cases waits : sight = .pending
  · rw [waits, next_pending turn] at through
    simp [Status.part] at through
  · obtain ⟨cause, ends, nothing⟩ | ⟨ends, at'⟩ |
        ⟨missing, got, s, rest, found, -, -, -, -, -, -, -, left⟩ |
        ⟨remaining, s, rest, n, -, -, -, -, -, -, -, left⟩ | ⟨s, rest, -, -, -, -, -, left⟩ |
        ⟨growth, got, found, -, -, -, -, left⟩ := sound.asking_cases turn admits waits
    · obtain rfl := Sum.inr.inj (ends.symm.trans through)
      exact ⟨rfl, nothing.imp id abides.index_of_done⟩
    · obtain rfl := Sum.inr.inj (ends.symm.trans through)
      exact ⟨(abides.index_of_done at').symm, .inr (abides.index_of_done at')⟩
    all_goals simp [left] at through

end Player

end Replay

end WireScript
