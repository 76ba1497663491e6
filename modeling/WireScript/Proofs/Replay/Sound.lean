import WireScript.Proofs.Turn

set_option autoImplicit false

namespace WireScript.Replay

open Wire (Act Call Sight Turn)

def Status.part : Status → Player ⊕ Verdict
  | .running player | .waiting player => .inl player
  | .over verdict => .inr verdict

namespace Player

def Sound (p : Player) : Prop :=
  match p.call, p.rest with
  | none, _ => True
  | some (.readUpTo missing got), s :: _ =>
    s.direction = .fromIut ∧ missing + got.length = s.payload.length
  | some (.writeAll left), s :: _ => s.direction = .toIut ∧ left <:+ s.payload
  | some .flush, s :: _ => s.direction = .toIut
  | some (.readToEnd ..), [] => True
  | _, _ => False

theorem Sound.cases {p : Player} (sound : p.Sound) :
    p.call = none ∨
    (∃ missing got s rest, p.call = some (.readUpTo missing got) ∧ p.rest = s :: rest ∧
      s.direction = .fromIut ∧ missing + got.length = s.payload.length) ∨
    (∃ left s rest, p.call = some (.writeAll left) ∧ p.rest = s :: rest ∧ s.direction = .toIut ∧
      left <:+ s.payload) ∨
    (∃ s rest, p.call = some .flush ∧ p.rest = s :: rest ∧ s.direction = .toIut) ∨
    (∃ growth got, p.call = some (.readToEnd growth got) ∧ p.rest = []) := by
  rcases p with ⟨growth, config, index, _ | ⟨s, rest⟩, _ | call⟩
  · exact .inl rfl
  · cases call with
    | readToEnd growth got => exact .inr (.inr (.inr (.inr ⟨growth, got, rfl, rfl⟩)))
    | _ => exact sound.elim
  · exact .inl rfl
  · cases call with
    | readUpTo missing got =>
      exact .inr (.inl ⟨missing, got, s, rest, rfl, rfl, sound.1, sound.2⟩)
    | writeAll left => exact .inr (.inr (.inl ⟨left, s, rest, rfl, rfl, sound.1, sound.2⟩))
    | flush => exact .inr (.inr (.inr (.inl ⟨s, rest, rfl, rfl, sound⟩)))
    | _ => exact sound.elim

theorem sound_start (growth : Wire.Growth) (config : Config) (t : Transcript) :
    (start growth config t).Sound := trivial

theorem sound_of_idle {p : Player} (idle : p.call = none) : p.Sound := by
  simp [Sound, idle]

theorem sound_opening {p : Player} {s : Segment} {rest : List Segment} (at' : p.rest = s :: rest) :
    { p with call := some (opening s) }.Sound := by
  rcases s with ⟨_ | _, payload⟩ <;> simp [Sound, Player.opening, at', Segment.length]

theorem judge_self (payload : Bytes) : judge payload payload = .ok () := by
  simp [judge, (Bytes.firstMismatch_eq_none_iff payload payload).2 rfl]

theorem judge_ok {expected actual : Bytes} (passes : judge expected actual = .ok ()) :
    expected = actual := by
  unfold judge at passes
  split at passes
  · simp at passes
  · split at passes
    · simp at passes
    · rename_i same
      exact (Bytes.firstMismatch_eq_none_iff expected actual).1 same

variable {p : Player}

theorem Sound.still_cases (sound : p.Sound) {status : Status} (turn : p.turn = .still status) :
    (∃ s rest, p.call = none ∧ p.rest = s :: rest ∧
      status.part = .inl { p with call := some (opening s) }) ∨
    (p.call = none ∧ p.rest = [] ∧ (status.part = .inr (.ok ()) ∨
      status.part = .inl { p with call := some (.readToEnd p.growth []) })) ∨
    (∃ got s rest, p.call = some (.readUpTo 0 got) ∧ p.rest = s :: rest ∧ s.direction = .fromIut ∧
      (s.payload = got ∧ status.part = .inl p.advance ∨
        ∃ cause, status.part = .inr (.error ⟨p.config.name, p.index, cause⟩))) ∨
    (∃ s rest, p.call = some (.writeAll []) ∧ p.rest = s :: rest ∧ s.direction = .toIut ∧
      status.part = .inl { p with call := some .flush }) := by
  obtain idle | ⟨missing, got, s, rest, call, at', direction, -⟩ |
      ⟨left, s, rest, call, at', direction, -⟩ | ⟨s, rest, call, at', -⟩ |
      ⟨growth, got, call, at'⟩ := sound.cases
  · obtain rfl : p.resort = status := by simpa [Player.turn, idle] using turn
    cases at' : p.rest with
    | cons s rest => exact .inl ⟨s, rest, idle, rfl, by simp [resort, at', Status.part]⟩
    | nil =>
      refine .inr (.inl ⟨idle, rfl, ?_⟩)
      cases trailing : p.config.trailing with
      | ignore => exact .inl (by simp [resort, at', trailing, Status.part])
      | reject => exact .inr (by simp [resort, at', trailing, Status.part])
  · cases missing with
    | succ m => simp [Player.turn, call, Call.turn, Turn.map] at turn
    | zero =>
      simp only [Player.turn, call, Call.turn, Turn.map, follow, proceed, at'] at turn
      obtain rfl := Turn.still.inj turn
      refine .inr (.inr (.inl ⟨got, s, rest, call, at', direction, ?_⟩))
      cases judged : judge s.payload got with
      | ok _ => exact .inl ⟨judge_ok judged, by simp [Status.part]⟩
      | error cause => exact .inr ⟨cause, by simp [fail, Status.part]⟩
  · cases left with
    | cons b left => simp [Player.turn, call, Call.turn, Turn.map] at turn
    | nil =>
      simp only [Player.turn, call, Call.turn, Turn.map, follow, proceed, at'] at turn
      obtain rfl := Turn.still.inj turn
      exact .inr (.inr (.inr ⟨s, rest, call, at', direction, by simp [Status.part, at']⟩))
  · simp [Player.turn, call, Call.turn, Turn.map] at turn
  · simp [Player.turn, call, Call.turn, Turn.map] at turn

theorem next_pending {act : Act} {next : Sight → Status} (asking : p.turn = .asking act next) :
    next .pending = .waiting p := by
  rcases p with ⟨growth, config, index, rest, _ | call⟩
  · simp [turn] at asking
  · obtain ⟨inner, asked, rfl⟩ := Turn.asking_of_map asking
    simp [Call.next_eq_resume asked, Call.resume, follow]

theorem next_failed {act : Act} {next : Sight → Status} (asking : p.turn = .asking act next)
    (e : Wire.Failure) : next (.failed e) = p.fail (.stream e) := by
  rcases p with ⟨growth, config, index, rest, _ | call⟩
  · simp [turn] at asking
  · obtain ⟨inner, asked, rfl⟩ := Turn.asking_of_map asking
    simp [Call.next_eq_resume asked, Call.resume, follow]

theorem Sound.asking_cases (sound : p.Sound) {act : Act} {next : Sight → Status}
    (turn : p.turn = .asking act next) {sight : Sight} (admits : act.Admits sight)
    (moves : sight ≠ .pending) :
    (∃ cause, (next sight).part = .inr (.error ⟨p.config.name, p.index, cause⟩) ∧
      (act.received sight = [] ∨ p.rest = [])) ∨
    ((next sight).part = .inr (.ok ()) ∧ p.rest = []) ∨
    (∃ missing got s rest found, p.call = some (.readUpTo missing got) ∧ p.rest = s :: rest ∧
      s.direction = .fromIut ∧ missing + got.length = s.payload.length ∧ act = .read missing ∧
      sight = .data found ∧ found.length ≤ missing ∧
      (next sight).part =
        .inl { p with call := some (.readUpTo (missing - found.length) (got ++ found)) }) ∨
    (∃ left s rest n, p.call = some (.writeAll left) ∧ p.rest = s :: rest ∧ s.direction = .toIut ∧
      left <:+ s.payload ∧ act = .write left ∧ sight = .count n ∧ n ≤ left.length ∧
      (next sight).part = .inl { p with call := some (.writeAll (left.drop n)) }) ∨
    (∃ s rest, p.call = some .flush ∧ p.rest = s :: rest ∧ s.direction = .toIut ∧ act = .flush ∧
      sight = .done ∧ (next sight).part = .inl p.advance) ∨
    (∃ growth got found, p.call = some (.readToEnd growth got) ∧ p.rest = [] ∧
      act = .read (growth.room got.length) ∧
      sight = .data found ∧
      (next sight).part = .inl { p with call := some (.readToEnd growth (got ++ found)) }) := by
  by_cases failed : ∃ e, sight = .failed e
  · obtain ⟨e, rfl⟩ := failed
    exact .inl ⟨.stream e, by rw [next_failed turn]; rfl, .inl (by cases act <;> rfl)⟩
  · obtain idle | ⟨missing, got, s, rest, call, at', direction, total⟩ |
        ⟨left, s, rest, call, at', direction, suffix⟩ | ⟨s, rest, call, at', direction⟩ |
        ⟨growth, got, call, at'⟩ := sound.cases
    · simp [Player.turn, idle] at turn
    -- The operation is the one of the call, and its outcome takes the call further.
    all_goals
      simp only [Player.turn, call] at turn
      obtain ⟨inner, asked, rfl⟩ := Turn.asking_of_map turn
      obtain rfl := Call.next_eq_resume asked
    · cases missing with
      | zero => simp [Call.turn] at asked
      | succ m =>
        obtain ⟨rfl, -⟩ := Turn.asking.inj asked
        obtain ⟨found, rfl, short⟩ : ∃ found, sight = .data found ∧ found.length ≤ m + 1 := by
          cases sight <;> simp_all [Act.Admits]
        by_cases empty : found = []
        · -- The stream has ended before all bytes have come.
          have less : got.length < s.payload.length := by omega
          refine .inl ⟨.shortRead s.payload.length got.length, ?_, .inl empty⟩
          simp [Call.resume, empty, follow, proceed, at', judge, less, fail, Status.part]
        · refine .inr (.inr (.inl ⟨m + 1, got, s, rest, found, call, at', direction, total, rfl,
            rfl, short, ?_⟩))
          simp [Call.resume, empty, follow, Status.part]
    · cases left with
      | nil => simp [Call.turn] at asked
      | cons b left =>
        obtain ⟨rfl, -⟩ := Turn.asking.inj asked
        obtain ⟨n, rfl, short⟩ : ∃ n, sight = .count n ∧ n ≤ (b :: left).length := by
          cases sight <;> simp_all [Act.Admits]
        by_cases zero : n = 0
        · -- The stream takes no bytes any more.
          refine .inl ⟨.stream (.ofKind .writeZero), ?_, .inl rfl⟩
          simp [Call.resume, zero, follow, fail, Status.part]
        · refine .inr (.inr (.inr (.inl ⟨b :: left, s, rest, n, call, at', direction, suffix, rfl,
            rfl, short, ?_⟩)))
          simp [Call.resume, zero, follow, Status.part]
    · obtain ⟨rfl, -⟩ := Turn.asking.inj asked
      obtain rfl : sight = .done := by cases sight <;> simp_all [Act.Admits]
      refine .inr (.inr (.inr (.inr (.inl ⟨s, rest, call, at', direction, rfl, rfl, ?_⟩))))
      simp [Call.resume, follow, proceed, at', Status.part]
    · obtain ⟨rfl, -⟩ := Turn.asking.inj asked
      obtain ⟨found, rfl⟩ : ∃ found, sight = .data found := by
        cases sight <;> simp_all [Act.Admits]
      by_cases empty : found = []
      · -- At the end of the stream all that came after the script is judged.
        by_cases nothing : got = []
        · refine .inr (.inl ⟨?_, at'⟩)
          simp [Call.resume, empty, follow, proceed, at', nothing, Status.part]
        · refine .inl ⟨.trailing got, ?_, .inr at'⟩
          simp [Call.resume, empty, follow, proceed, at', nothing, fail, Status.part]
      · refine .inr (.inr (.inr (.inr (.inr ⟨growth, got, found, call, at', rfl, rfl, ?_⟩))))
        simp [Call.resume, empty, follow, Status.part]

theorem sound_advance (p : Player) : p.advance.Sound := sound_of_idle rfl

theorem Sound.step {q : Player} (sound : p.Sound) {status : Status} (can : p.turn.Can status)
    (on : status.part = .inl q) : q.Sound := by
  cases turn : p.turn with
  | still result =>
    rw [turn] at can
    obtain rfl := can
    obtain ⟨s, rest, -, at', left⟩ | ⟨-, at', through | left⟩ |
        ⟨got, s, rest, -, -, -, ⟨-, left⟩ | ⟨cause, through⟩⟩ |
        ⟨s, rest, -, at', direction, left⟩ := sound.still_cases turn
    · obtain rfl := Sum.inl.inj (left.symm.trans on)
      exact sound_opening at'
    · simp [through] at on
    · obtain rfl := Sum.inl.inj (left.symm.trans on)
      simp [Sound, at']
    · obtain rfl := Sum.inl.inj (left.symm.trans on)
      exact sound_advance p
    · simp [through] at on
    · obtain rfl := Sum.inl.inj (left.symm.trans on)
      simpa [Sound, at'] using direction
  | asking act next =>
    rw [turn] at can
    obtain ⟨sight, admits, rfl⟩ := can
    by_cases waits : sight = .pending
    · rw [waits, next_pending turn] at on
      obtain rfl := Sum.inl.inj on
      exact sound
    · obtain ⟨cause, through, -⟩ | ⟨through, -⟩ |
          ⟨missing, got, s, rest, found, -, at', direction, total, -, -, short, left⟩ |
          ⟨remaining, s, rest, n, -, at', direction, suffix, -, -, -, left⟩ |
          ⟨s, rest, -, -, -, -, -, left⟩ | ⟨growth, got, found, -, at', -, -, left⟩ :=
        sound.asking_cases turn admits waits
      · simp [through] at on
      · simp [through] at on
      · obtain rfl := Sum.inl.inj (left.symm.trans on)
        simp only [Sound, at', List.length_append]
        exact ⟨direction, by omega⟩
      · obtain rfl := Sum.inl.inj (left.symm.trans on)
        simp only [Sound, at']
        exact ⟨direction, (remaining.drop_suffix n).trans suffix⟩
      · obtain rfl := Sum.inl.inj (left.symm.trans on)
        exact sound_advance p
      · obtain rfl := Sum.inl.inj (left.symm.trans on)
        simp [Sound, at']

theorem Sound.asks {p : Player} (sound : p.Sound) {act : Act} (asked : p.turn.asks = some act) :
    act.Proper ∧ act ≠ .close ∧ act ≠ .release := by
  rcases p with ⟨growth, config, index, rest, _ | call⟩
  · simp [turn, Turn.asks] at asked
  · simp only [turn, Turn.asks_map] at asked
    cases call with
    | readUpTo missing got =>
      cases missing <;> simp [Call.turn, Turn.asks] at asked
      simp [← asked, Act.Proper]
    | readToEnd growth got =>
      obtain rfl : .read (growth.room got.length) = act := by
        simpa [Call.turn, Turn.asks] using asked
      simp [Act.Proper, growth.roomy]
    | writeAll left =>
      cases left <;> simp [Call.turn, Turn.asks] at asked
      simp [← asked, Act.Proper]
    | flush =>
      obtain rfl : .flush = act := by simpa [Call.turn, Turn.asks] using asked
      simp [Act.Proper]
    | _ => cases rest <;> exact sound.elim

end Player

end WireScript.Replay
