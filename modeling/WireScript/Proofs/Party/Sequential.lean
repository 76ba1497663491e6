import WireScript.Proofs.Turn

set_option autoImplicit false

namespace WireScript.Party

open Wire (Act Call Progress Sight Turn)

def Step.isBasic : Step → Bool
  | .writeAll _ | .readExact _ | .flush | .close | .panic _ | .fail _ => true
  | _ => false

def Plan.Sequential (plan : Plan) : Prop :=
  ∀ entries step, plan.choose entries = .go step → step.isBasic

theorem Plan.sequential_ofSteps (keepGoing : Bool) (steps : List Step)
    (basic : ∀ step ∈ steps, step.isBasic) : (ofSteps keepGoing steps).Sequential := by
  intro entries step goes
  simp only [ofSteps] at goes
  split at goes
  · simp at goes
  · split at goes
    · rename_i found
      cases goes
      exact basic _ (List.mem_of_getElem? found)
    · simp at goes

def Choice.Final : Choice → Prop
  | .quit _ | .go (.panic _) => True
  | _ => False

def Step.Serves : Step → Call → Prop
  | .writeAll data, .writeAll left => left <:+ data
  | .readExact count, .readUpTo missing got => missing + got.length = count
  | .flush, .flush | .close, .close => True
  | _, _ => False

theorem Step.Serves.cases {step : Step} {call : Call} (serves : step.Serves call) :
    (∃ data left, step = .writeAll data ∧ call = .writeAll left ∧ left <:+ data) ∨
    (∃ count missing got, step = .readExact count ∧ call = .readUpTo missing got ∧
      missing + got.length = count) ∨
    (step = .flush ∧ call = .flush) ∨ (step = .close ∧ call = .close) := by
  cases step with
  | writeAll data =>
    cases call with
    | writeAll left => exact .inl ⟨data, left, rfl, rfl, serves⟩
    | _ => exact serves.elim
  | readExact count =>
    cases call with
    | readUpTo missing got => exact .inr (.inl ⟨count, missing, got, rfl, rfl, serves⟩)
    | _ => exact serves.elim
  | flush =>
    cases call with
    | flush => exact .inr (.inr (.inl ⟨rfl, rfl⟩))
    | _ => exact serves.elim
  | close =>
    cases call with
    | close => exact .inr (.inr (.inr ⟨rfl, rfl⟩))
    | _ => exact serves.elim
  | _ => exact serves.elim

theorem Step.Serves.onward {step : Step} {call next : Call} (serves : step.Serves call)
    {progress : Progress} (can : call.turn.Can progress)
    (goes : progress = .running next ∨ progress = .waiting next) : step.Serves next := by
  obtain ⟨data, left, rfl, rfl, suffix⟩ | ⟨count, missing, got, rfl, rfl, total⟩ |
      ⟨rfl, rfl⟩ | ⟨rfl, rfl⟩ := serves.cases
  · obtain ⟨-, rfl⟩ | ⟨-, rfl | ⟨e, rfl⟩ | ⟨n, -, rfl⟩⟩ := Call.can_writeAll can
    · simp at goes
    · obtain rfl : .writeAll left = next := by simpa using goes
      exact suffix
    · simp at goes
    · obtain rfl : .writeAll (left.drop n) = next := by simpa using goes
      exact (left.drop_suffix n).trans suffix
  · obtain rfl | ⟨-, rfl | ⟨e, rfl⟩ | ⟨found, -, short, rfl⟩⟩ := Call.can_readUpTo can
    · simp at goes
    · obtain rfl : .readUpTo missing got = next := by simpa using goes
      exact total
    · simp at goes
    · obtain rfl : .readUpTo (missing - found.length) (got ++ found) = next := by simpa using goes
      simp only [Serves, List.length_append]
      omega
  · obtain rfl | rfl | ⟨e, rfl⟩ := Call.can_settle (.inl rfl) can
    · simp at goes
    · obtain rfl : .flush = next := by simpa using goes
      trivial
    · simp at goes
  · obtain rfl | rfl | ⟨e, rfl⟩ := Call.can_settle (.inr rfl) can
    · simp at goes
    · obtain rfl : .close = next := by simpa using goes
      trivial
    · simp at goes

theorem Step.Serves.asks {step : Step} {call : Call} (serves : step.Serves call) {act : Act}
    (asked : call.turn.asks = some act) : act.Proper ∧ act ≠ .release := by
  obtain ⟨data, left, rfl, rfl, -⟩ | ⟨count, missing, got, rfl, rfl, -⟩ |
      ⟨rfl, rfl⟩ | ⟨rfl, rfl⟩ := serves.cases
  · cases left <;> simp [Call.turn, Turn.asks] at asked
    simp [← asked, Act.Proper]
  · cases missing <;> simp [Call.turn, Turn.asks] at asked
    simp [← asked, Act.Proper]
  · obtain rfl : .flush = act := by simpa [Call.turn, Turn.asks] using asked
    simp [Act.Proper]
  · obtain rfl : .close = act := by simpa [Call.turn, Turn.asks] using asked
    simp [Act.Proper]

def Status.ending? : Status → Option Ending
  | .over ending => some ending
  | _ => none

namespace Actor

structure Steady (a : Actor) : Prop where
  sequential : a.plan.Sequential
  attached : a.attached = true
  working : a.activity = .idle ∨
    ∃ step call, a.activity = .calling step call ∧ a.next = .go step ∧ step.Serves call

theorem steady_start {plan : Plan} (sequential : plan.Sequential) : (start plan).Steady :=
  ⟨sequential, rfl, .inl rfl⟩

theorem Steady.log {a : Actor} (steady : a.Steady) (entry : Entry) : (a.log entry).Steady :=
  ⟨steady.sequential, steady.attached, .inl rfl⟩

theorem Steady.calling {a : Actor} (steady : a.Steady) {step : Step} {call : Call}
    (goes : a.next = .go step) (serves : step.Serves call) :
    { a with activity := .calling step call }.Steady :=
  ⟨steady.sequential, steady.attached, .inr ⟨step, call, rfl, goes, serves⟩⟩

variable {now credit : Nat} {a : Actor}

theorem Steady.turn_cases (steady : a.Steady) (now credit : Nat) :
    (a.activity = .idle ∧ a.next.Final ∧
      ∃ ending, a.turn now credit =
        .asking .release (fun _ => (.over ending, { a with attached := false }))) ∨
    (a.activity = .idle ∧ ∃ text, a.next = .go (.fail text) ∧
      a.turn now credit = .still (.running, a.log (.failed ⟨.other, some text⟩))) ∨
    (a.activity = .idle ∧ ∃ step call, a.next = .go step ∧
      opening step = some call ∧ step.Serves call ∧
      a.turn now credit = .still (.running, { a with activity := .calling step call })) ∨
    (∃ step call, a.activity = .calling step call ∧ a.next = .go step ∧ step.Serves call ∧
      a.turn now credit = call.turn.map (a.follow (.calling step) (a.proceed step))) := by
  -- Between two steps the next one decides, and within a step its call does.
  obtain ⟨sequential, attached, idle | ⟨step, call, calling, goes, serves⟩⟩ := steady
  · cases goes : a.next with
    | quit failure =>
      exact .inl ⟨idle, trivial, .returned failure, by simp [turn, idle, goes, leave, attached]⟩
    | go step =>
      have basic := sequential a.entries step goes
      cases step with
      | panic text =>
        exact .inl ⟨idle, trivial, .panicked text,
          by simp [turn, idle, goes, opens, opening, leave, attached]⟩
      | fail text =>
        exact .inr (.inl ⟨idle, text, rfl, by simp [turn, idle, goes, opens, opening, attached]⟩)
      | writeAll data =>
        exact .inr (.inr (.inl ⟨idle, .writeAll data, .writeAll data, rfl, rfl,
          List.suffix_refl data, by simp [turn, idle, goes, opens, opening, attached]⟩))
      | readExact count =>
        exact .inr (.inr (.inl ⟨idle, .readExact count, .readUpTo count [], rfl, rfl, rfl,
          by simp [turn, idle, goes, opens, opening, attached]⟩))
      | flush =>
        exact .inr (.inr (.inl ⟨idle, .flush, .flush, rfl, rfl, trivial,
          by simp [turn, idle, goes, opens, opening, attached]⟩))
      | close =>
        exact .inr (.inr (.inl ⟨idle, .close, .close, rfl, rfl, trivial,
          by simp [turn, idle, goes, opens, opening, attached]⟩))
      | _ => simp [Step.isBasic] at basic
  · exact .inr (.inr (.inr ⟨step, call, calling, goes, serves, by simp [turn, calling]⟩))

theorem Steady.turn_eq (steady : a.Steady) (now' credit' : Nat) :
    a.turn now credit = a.turn now' credit' := by
  -- Only a step that sleeps looks at the clock, and it is not basic.
  obtain ⟨sequential, -, idle | ⟨step, call, calling, -, -⟩⟩ := steady
  · cases goes : a.next with
    | quit failure => simp [turn, idle, goes]
    | go step =>
      have basic := sequential a.entries step goes
      cases step <;> simp_all [turn, opens, opening, Step.isBasic]
  · simp [turn, calling]

theorem proceed_eq_log {step : Step} {call : Call} (serves : step.Serves call)
    (answer : Wire.Answer) : a.proceed step answer = a.log (entryOf step answer) := by
  cases step with
  | echo count => exact serves.elim
  | _ => rfl

theorem Steady.step (steady : a.Steady) {result : Status × Actor}
    (can : (a.turn now credit).Can result) :
    ((a.turn now credit).asks = some .release ∧ ∃ ending, result.1 = .over ending) ∨
    ((a.turn now credit).asks ≠ some .release ∧ result.1.ending? = none ∧ result.2.Steady) := by
  obtain ⟨-, -, ending, turn⟩ | ⟨-, text, -, turn⟩ | ⟨-, step, call, goes, -, serves, turn⟩ |
      ⟨step, call, calling, goes, serves, turn⟩ := steady.turn_cases now credit
  · rw [turn] at can ⊢
    obtain ⟨sight, -, rfl⟩ := can
    exact .inl ⟨rfl, ending, rfl⟩
  · rw [turn] at can ⊢
    obtain rfl := can
    exact .inr ⟨by simp [Turn.asks], rfl, steady.log _⟩
  · rw [turn] at can ⊢
    obtain rfl := can
    exact .inr ⟨by simp [Turn.asks], rfl, steady.calling goes serves⟩
  · -- No call lets go of the stream, and a call that is over leads to the next step of the plan.
    rw [turn] at can ⊢
    obtain ⟨progress, came, rfl⟩ := Turn.can_map can
    refine .inr ⟨?_, ?_⟩
    · rw [Turn.asks_map]
      exact fun asked => (serves.asks asked).2 rfl
    · rcases progress with next | next | (e | answer)
      · exact ⟨rfl, steady.calling goes (serves.onward came (.inl rfl))⟩
      · exact ⟨rfl, steady.calling goes (serves.onward came (.inr rfl))⟩
      · exact ⟨rfl, steady.log _⟩
      · exact ⟨rfl, by simpa [follow, proceed_eq_log serves] using steady.log _⟩

theorem Steady.asks (steady : a.Steady) {act : Act}
    (asked : (a.turn now credit).asks = some act) : act.Proper := by
  obtain ⟨-, -, ending, turn⟩ | ⟨-, text, -, turn⟩ | ⟨-, step, call, -, -, -, turn⟩ |
      ⟨step, call, -, -, serves, turn⟩ := steady.turn_cases now credit
  · obtain rfl : .release = act := by simpa [turn, Turn.asks] using asked
    trivial
  · simp [turn, Turn.asks] at asked
  · simp [turn, Turn.asks] at asked
  · rw [turn, Turn.asks_map] at asked
    exact (serves.asks asked).1

theorem Steady.next_pending (steady : a.Steady) {act : Act} {next : Sight → Status × Actor}
    (asking : a.turn now credit = .asking act next) (stays : act ≠ .release) :
    next .pending = (.waiting, a) := by
  obtain ⟨-, -, ending, turn⟩ | ⟨-, text, -, turn⟩ | ⟨-, step, call, -, -, -, turn⟩ |
      ⟨step, call, calling, -, serves, turn⟩ := steady.turn_cases now credit
  · rw [turn] at asking
    cases asking
    exact absurd rfl stays
  · simp [turn] at asking
  · simp [turn] at asking
  · rw [turn] at asking
    obtain ⟨inner, asked, rfl⟩ := Turn.asking_of_map asking
    simp [Call.next_eq_resume asked, Call.resume, follow, ← calling]

end Actor

end WireScript.Party
