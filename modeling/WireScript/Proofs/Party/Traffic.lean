import WireScript.Proofs.Party.Sequential
import WireScript.Proofs.Recording.Traffic

set_option autoImplicit false

namespace WireScript.Party

open Recording (carried)
open Wire (Act Call Sight Turn)

def Plan.Halting (plan : Plan) : Prop :=
  ∀ entries e, (plan.choose (entries ++ [.failed e])).Final

theorem Step.Serves.not_final {step : Step} {call : Call} (serves : step.Serves call) :
    ¬ (Choice.go step).Final := by
  obtain ⟨data, left, rfl, -⟩ | ⟨count, missing, got, rfl, -⟩ | ⟨rfl, -⟩ | ⟨rfl, -⟩ :=
    serves.cases <;> exact id

-- The traffic that a plan can come to after some entries, up to some point of it, once or before
-- its end has been closed.
inductive Plan.Emits (plan : Plan) : List Entry → Bool → Traffic → Prop
  | nothing (entries : List Entry) (closed : Bool) : Emits plan entries closed []
  | write {entries : List Entry} {data : Bytes} {closed : Bool} {rest : Traffic}
      (goes : plan.choose entries = .go (.writeAll data)) (opened : data = [] ∨ closed = false)
      (onward : plan.Emits (entries ++ [.count data.length]) closed rest) :
      Emits plan entries closed (Direction.fromIut.mark data ++ rest)
  | read {entries : List Entry} {got : Bytes} {closed : Bool} {rest : Traffic}
      (goes : plan.choose entries = .go (.readExact got.length))
      (onward : plan.Emits (entries ++ [.data got]) closed rest) :
      Emits plan entries closed (Direction.toIut.mark got ++ rest)
  | readShort {entries : List Entry} {count : Nat} {got : Bytes} {closed : Bool}
      (goes : plan.choose entries = .go (.readExact count)) (short : got.length < count) :
      Emits plan entries closed (Direction.toIut.mark got)
  | flush {entries : List Entry} {closed : Bool} {rest : Traffic}
      (goes : plan.choose entries = .go .flush)
      (onward : plan.Emits (entries ++ [.done]) closed rest) : Emits plan entries closed rest
  | close {entries : List Entry} {closed : Bool} {rest : Traffic}
      (goes : plan.choose entries = .go .close)
      (onward : plan.Emits (entries ++ [.done]) true rest) : Emits plan entries closed rest

section Emits

variable {plan : Plan} {entries : List Entry} {closed : Bool} {traffic : Traffic}

theorem Plan.Emits.nothing_of_final (emits : plan.Emits entries closed traffic)
    (final : (plan.choose entries).Final) : traffic = [] := by
  cases emits with
  | nothing => rfl
  | write goes => simp [goes, Choice.Final] at final
  | read goes => simp [goes, Choice.Final] at final
  | readShort goes => simp [goes, Choice.Final] at final
  | flush goes => simp [goes, Choice.Final] at final
  | close goes => simp [goes, Choice.Final] at final

theorem Plan.Emits.nothing_of_fail (emits : plan.Emits entries closed traffic) {text : String}
    (fails : plan.choose entries = .go (.fail text)) : traffic = [] := by
  cases emits with
  | nothing => rfl
  | write goes => simp [goes] at fails
  | read goes => simp [goes] at fails
  | readShort goes => simp [goes] at fails
  | flush goes => simp [goes] at fails
  | close goes => simp [goes] at fails

theorem Plan.Emits.of_flush (emits : plan.Emits entries closed traffic)
    (flushes : plan.choose entries = .go .flush) :
    plan.Emits (entries ++ [.done]) closed traffic := by
  cases emits with
  | nothing => exact .nothing _ _
  | flush goes onward => exact onward
  | write goes => simp [goes] at flushes
  | read goes => simp [goes] at flushes
  | readShort goes => simp [goes] at flushes
  | close goes => simp [goes] at flushes

theorem Plan.Emits.of_close (emits : plan.Emits entries closed traffic)
    (closes : plan.choose entries = .go .close) :
    plan.Emits (entries ++ [.done]) true traffic := by
  cases emits with
  | nothing => exact .nothing _ _
  | close goes onward => exact onward
  | write goes => simp [goes] at closes
  | read goes => simp [goes] at closes
  | readShort goes => simp [goes] at closes
  | flush goes => simp [goes] at closes

theorem Plan.Emits.toIut_of_closed (emits : plan.Emits entries true traffic) :
    ∀ x ∈ traffic, x.1 = .toIut := by
  -- The induction is on the derivation, along which an end that has been closed stays so.
  generalize known : true = closed at emits
  induction emits with
  | nothing => simp
  | @write _ data _ _ goes opened onward ih =>
    obtain rfl : data = [] := by simpa [← known] using opened
    exact ih known
  | read goes onward ih =>
    intro x member
    rcases List.mem_append.1 member with inside | later
    · exact Direction.mem_mark _ inside
    · exact ih known x later
  | readShort => exact fun x member => Direction.mem_mark _ member
  | flush goes onward ih => exact ih known
  | close goes onward ih => exact ih rfl

end Emits

namespace Actor

def Yields (a : Actor) (closed : Bool) (traffic : Traffic) : Prop :=
  match a.activity with
  | .calling (.writeAll data) (.writeAll left) =>
    traffic = [] ∨ (left = [] ∨ closed = false) ∧
      ∃ rest, a.plan.Emits (a.entries ++ [.count data.length]) closed rest ∧
        traffic = Direction.fromIut.mark left ++ rest
  | .calling (.readExact _) (.readUpTo missing got) =>
    ∃ more rest, traffic = Direction.toIut.mark more ++ rest ∧
      (more.length < missing ∧ rest = [] ∨
        more.length = missing ∧ a.plan.Emits (a.entries ++ [.data (got ++ more)]) closed rest)
  | _ => a.plan.Emits a.entries closed traffic

variable {a : Actor} {closed : Bool} {traffic : Traffic}

theorem yields_idle (idle : a.activity = .idle) :
    a.Yields closed traffic ↔ a.plan.Emits a.entries closed traffic := by
  simp [Yields, idle]

theorem yields_writing {data left : Bytes}
    (calling : a.activity = .calling (.writeAll data) (.writeAll left)) :
    a.Yields closed traffic ↔
      traffic = [] ∨ (left = [] ∨ closed = false) ∧
        ∃ rest, a.plan.Emits (a.entries ++ [.count data.length]) closed rest ∧
          traffic = Direction.fromIut.mark left ++ rest := by
  simp [Yields, calling]

theorem yields_reading {count missing : Nat} {got : Bytes}
    (calling : a.activity = .calling (.readExact count) (.readUpTo missing got)) :
    a.Yields closed traffic ↔
      ∃ more rest, traffic = Direction.toIut.mark more ++ rest ∧
        (more.length < missing ∧ rest = [] ∨
          more.length = missing ∧
            a.plan.Emits (a.entries ++ [.data (got ++ more)]) closed rest) := by
  simp [Yields, calling]

theorem yields_settling {step : Step} {call : Call}
    (settles : step = .flush ∧ call = .flush ∨ step = .close ∧ call = .close)
    (calling : a.activity = .calling step call) :
    a.Yields closed traffic ↔ a.plan.Emits a.entries closed traffic := by
  obtain ⟨rfl, rfl⟩ | ⟨rfl, rfl⟩ := settles <;> simp [Yields, calling]

theorem yields_log (entry : Entry) :
    (a.log entry).Yields closed traffic ↔
      a.plan.Emits (a.entries ++ [entry]) closed traffic :=
  yields_idle rfl

theorem Steady.yields_nothing (steady : a.Steady) : a.Yields closed [] := by
  obtain ⟨-, -, idle | ⟨step, call, calling, goes, serves⟩⟩ := steady
  · exact (yields_idle idle).2 (.nothing _ _)
  · obtain ⟨data, left, rfl, rfl, -⟩ | ⟨count, missing, got, rfl, rfl, -⟩ | settles :=
      serves.cases
    · exact (yields_writing calling).2 (.inl rfl)
    · apply (yields_reading calling).2
      by_cases nothing : missing = 0
      · exact ⟨[], [], rfl, .inr ⟨nothing.symm, .nothing _ _⟩⟩
      · exact ⟨[], [], rfl, .inl ⟨Nat.pos_of_ne_zero nothing, rfl⟩⟩
    · exact (yields_settling settles calling).2 (.nothing _ _)

def Halted (a : Actor) : Prop := a.activity = .idle ∧ a.next.Final

theorem Halted.yields (halted : a.Halted) : a.Yields closed traffic ↔ traffic = [] := by
  rw [yields_idle halted.1]
  constructor
  · exact fun emits => emits.nothing_of_final halted.2
  · rintro rfl
    exact .nothing _ _

theorem halted_log (halting : a.plan.Halting) (e : Wire.Failure) : (a.log (.failed e)).Halted :=
  ⟨rfl, halting a.entries e⟩

variable {now credit : Nat}

theorem Steady.still_cases (steady : a.Steady) {result : Status × Actor}
    (turn : a.turn now credit = .still result) :
    (∃ text e, a.activity = .idle ∧ a.next = .go (.fail text) ∧
      result.2 = a.log (.failed e)) ∨
    (∃ step call, a.activity = .idle ∧ a.next = .go step ∧ opening step = some call ∧
      step.Serves call ∧ result.2 = { a with activity := .calling step call }) ∨
    (∃ data, a.activity = .calling (.writeAll data) (.writeAll []) ∧
      result.2 = a.log (.count data.length)) ∨
    (∃ count got, a.activity = .calling (.readExact count) (.readUpTo 0 got) ∧
      got.length = count ∧ result.2 = a.log (.data got)) := by
  obtain ⟨-, -, ending, same⟩ | ⟨idle, text, goes, same⟩ |
      ⟨idle, step, call, goes, opens, serves, same⟩ | ⟨step, call, calling, -, serves, same⟩ :=
    steady.turn_cases now credit
  · simp [same] at turn
  · obtain rfl := Turn.still.inj (same.symm.trans turn)
    exact .inl ⟨text, _, idle, goes, rfl⟩
  · obtain rfl := Turn.still.inj (same.symm.trans turn)
    exact .inr (.inl ⟨step, call, idle, goes, opens, serves, rfl⟩)
  · rw [same] at turn
    obtain ⟨data, left, rfl, rfl, -⟩ | ⟨count, missing, got, rfl, rfl, total⟩ |
        ⟨rfl, rfl⟩ | ⟨rfl, rfl⟩ := serves.cases
    · cases left with
      | nil =>
        obtain rfl := Turn.still.inj turn
        exact .inr (.inr (.inl ⟨data, calling, rfl⟩))
      | cons b left => simp [Call.turn, Turn.map] at turn
    · cases missing with
      | zero =>
        obtain rfl := Turn.still.inj turn
        have full : got.length = count := by simpa using total
        refine .inr (.inr (.inr ⟨count, got, calling, full, ?_⟩))
        simp [follow, proceed, entryOf, full]
      | succ n => simp [Call.turn, Turn.map] at turn
    · simp [Call.turn, Turn.map] at turn
    · simp [Call.turn, Turn.map] at turn

theorem Steady.asking_cases (steady : a.Steady) {act : Act} {next : Sight → Status × Actor}
    (turn : a.turn now credit = .asking act next) {sight : Sight} (admits : act.Admits sight)
    (moves : sight ≠ .pending) :
    (act = .release ∧ a.activity = .idle ∧ a.next.Final ∧
      (next sight).2 = { a with attached := false }) ∨
    (∃ e, (next sight).2 = a.log (.failed e) ∧
      ((∃ e, sight = .failed e) ∨ sight = .data [] ∨ sight = .count 0)) ∨
    (∃ data left n, a.activity = .calling (.writeAll data) (.writeAll left) ∧
      left ≠ [] ∧ act = .write left ∧ sight = .count n ∧ n ≠ 0 ∧
      (next sight).2 = { a with activity := .calling (.writeAll data) (.writeAll (left.drop n)) }) ∨
    (∃ count missing got found,
      a.activity = .calling (.readExact count) (.readUpTo missing got) ∧
      act = .read missing ∧ sight = .data found ∧ found ≠ [] ∧ found.length ≤ missing ∧
      (next sight).2 =
        { a with
          activity :=
            .calling (.readExact count) (.readUpTo (missing - found.length) (got ++ found)) }) ∨
    (∃ step call,
      (step = .flush ∧ call = .flush ∧ act = .flush ∨
        step = .close ∧ call = .close ∧ act = .close) ∧
      a.activity = .calling step call ∧ a.next = .go step ∧ sight = .done ∧
      (next sight).2 = a.log .done) := by
  obtain ⟨idle, final, ending, same⟩ | ⟨-, text, -, same⟩ | ⟨-, step, call, -, -, -, same⟩ |
      ⟨step, call, calling, goes, serves, same⟩ := steady.turn_cases now credit
  · obtain ⟨rfl, rfl⟩ := Turn.asking.inj (same.symm.trans turn)
    exact .inl ⟨rfl, idle, final, rfl⟩
  · simp [same] at turn
  · simp [same] at turn
  · rw [same] at turn
    obtain ⟨inner, asked, rfl⟩ := Turn.asking_of_map turn
    obtain rfl := Call.next_eq_resume asked
    by_cases failed : ∃ e, sight = .failed e
    · obtain ⟨e, rfl⟩ := failed
      exact .inr (.inl ⟨e, rfl, .inl ⟨e, rfl⟩⟩)
    · -- What is left to a call is the one kind of outcome that the contract of the stream allows.
      obtain ⟨data, left, rfl, rfl, -⟩ | ⟨count, missing, got, rfl, rfl, total⟩ |
          ⟨rfl, rfl⟩ | ⟨rfl, rfl⟩ := serves.cases
      · cases left with
        | nil => simp [Call.turn] at asked
        | cons b left =>
          obtain ⟨rfl, -⟩ := Turn.asking.inj asked
          obtain ⟨n, rfl⟩ : ∃ n, sight = .count n := by cases sight <;> simp_all [Act.Admits]
          by_cases zero : n = 0
          · refine .inr (.inl ⟨.ofKind .writeZero, ?_, ?_⟩)
            · simp [Call.resume, follow, zero]
            · exact .inr (.inr (by rw [zero]))
          · refine .inr (.inr (.inl ⟨data, b :: left, n, calling, by simp, rfl, rfl, zero, ?_⟩))
            simp [Call.resume, follow, zero]
      · cases missing with
        | zero => simp [Call.turn] at asked
        | succ m =>
          obtain ⟨rfl, -⟩ := Turn.asking.inj asked
          obtain ⟨found, rfl, short⟩ : ∃ found, sight = .data found ∧ found.length ≤ m + 1 := by
            cases sight <;> simp_all [Act.Admits]
          by_cases empty : found = []
          · refine .inr (.inl ⟨.ofKind .unexpectedEnd, ?_, ?_⟩)
            · have less : got.length < count := by omega
              simp [Call.resume, follow, empty, proceed, entryOf, less]
            · exact .inr (.inl (by rw [empty]))
          · refine .inr (.inr (.inr (.inl ⟨count, m + 1, got, found, calling, rfl, rfl, empty,
              short, ?_⟩)))
            simp [Call.resume, follow, empty]
      · obtain ⟨rfl, -⟩ := Turn.asking.inj asked
        obtain rfl : sight = .done := by cases sight <;> simp_all [Act.Admits]
        exact .inr (.inr (.inr (.inr ⟨_, _, .inl ⟨rfl, rfl, rfl⟩, calling, goes, rfl, rfl⟩)))
      · obtain ⟨rfl, -⟩ := Turn.asking.inj asked
        obtain rfl : sight = .done := by cases sight <;> simp_all [Act.Admits]
        exact .inr (.inr (.inr (.inr ⟨_, _, .inr ⟨rfl, rfl, rfl⟩, calling, goes, rfl, rfl⟩)))

theorem Halted.asks (halted : a.Halted) (steady : a.Steady) (now credit : Nat) :
    (a.turn now credit).asks = some .release := by
  obtain ⟨-, -, ending, turn⟩ | ⟨-, text, goes, -⟩ | ⟨-, step, call, goes, -, serves, -⟩ |
      ⟨step, call, calling, -⟩ := steady.turn_cases now credit
  · rw [turn]
    rfl
  · have final := halted.2
    rw [goes] at final
    exact final.elim
  · have final := halted.2
    rw [goes] at final
    exact absurd final serves.not_final
  · simp [halted.1] at calling

theorem Steady.halted_of_release (steady : a.Steady) {next : Sight → Status × Actor}
    (turn : a.turn now credit = .asking .release next) (sight : Sight) :
    a.Halted ∧ (next sight).2.Halted := by
  obtain ⟨idle, final, ending, same⟩ | ⟨-, text, -, same⟩ | ⟨-, step, call, -, -, -, same⟩ |
      ⟨step, call, -, -, serves, same⟩ := steady.turn_cases now credit
  · obtain ⟨-, rfl⟩ := Turn.asking.inj (same.symm.trans turn)
    exact ⟨⟨idle, final⟩, idle, final⟩
  · simp [same] at turn
  · simp [same] at turn
  · have asked : call.turn.asks = some .release := by
      rw [← Turn.asks_map, ← same, turn]
      rfl
    exact absurd rfl (serves.asks asked).2

theorem Steady.halted_of_failed (steady : a.Steady) (halting : a.plan.Halting) {act : Act}
    {next : Sight → Status × Actor} (turn : a.turn now credit = .asking act next)
    (stays : act ≠ .release) (e : Wire.Failure) : (next (.failed e)).2.Halted := by
  obtain ⟨-, -, ending, same⟩ | ⟨-, text, -, same⟩ | ⟨-, step, call, -, -, -, same⟩ |
      ⟨step, call, -, -, serves, same⟩ := steady.turn_cases now credit
  · exact absurd (Turn.asking.inj (same.symm.trans turn)).1.symm stays
  · simp [same] at turn
  · simp [same] at turn
  · obtain ⟨inner, asked, rfl⟩ := Turn.asking_of_map (same.symm.trans turn)
    obtain rfl := Call.next_eq_resume asked
    exact halted_log halting e

theorem Steady.calling_of_asks (steady : a.Steady) {act : Act}
    (asked : (a.turn now credit).asks = some act) (stays : act ≠ .release) :
    ∃ step call, a.activity = .calling step call ∧ step.Serves call ∧
      call.turn.asks = some act := by
  obtain ⟨-, -, ending, turn⟩ | ⟨-, text, -, turn⟩ | ⟨-, step, call, -, -, -, turn⟩ |
      ⟨step, call, calling, -, serves, turn⟩ := steady.turn_cases now credit
  · rw [turn] at asked
    exact absurd (Option.some.inj asked).symm stays
  · simp [turn, Turn.asks] at asked
  · simp [turn, Turn.asks] at asked
  · rw [turn, Turn.asks_map] at asked
    exact ⟨step, call, calling, serves, asked⟩

theorem Yields.of_writing (yields : a.Yields closed traffic) (steady : a.Steady) {data : Bytes}
    (asked : (a.turn now credit).asks = some (.write data)) :
    traffic = [] ∨ closed = false ∧ ∃ rest, traffic = Direction.fromIut.mark data ++ rest := by
  obtain ⟨step, call, calling, serves, asked⟩ := steady.calling_of_asks asked (by simp)
  obtain ⟨all, left, rfl, rfl, -⟩ | ⟨count, missing, got, rfl, rfl, -⟩ |
      ⟨rfl, rfl⟩ | ⟨rfl, rfl⟩ := serves.cases
  · cases left with
    | nil => simp [Call.turn, Turn.asks] at asked
    | cons b left =>
      obtain rfl : b :: left = data := by simpa [Call.turn, Turn.asks] using asked
      obtain nothing | ⟨opened, rest, -, split⟩ := (yields_writing calling).1 yields
      · exact .inl nothing
      · exact .inr ⟨by simpa using opened, rest, split⟩
  · cases missing <;> simp [Call.turn, Turn.asks] at asked
  · simp [Call.turn, Turn.asks] at asked
  · simp [Call.turn, Turn.asks] at asked

theorem Yields.of_reading (yields : a.Yields closed traffic) (steady : a.Steady) {room : Nat}
    (asked : (a.turn now credit).asks = some (.read room)) :
    traffic = [] ∨ ∃ b rest, traffic = (.toIut, b) :: rest := by
  obtain ⟨step, call, calling, serves, asked⟩ := steady.calling_of_asks asked (by simp)
  obtain ⟨all, left, rfl, rfl, -⟩ | ⟨count, missing, got, rfl, rfl, -⟩ |
      ⟨rfl, rfl⟩ | ⟨rfl, rfl⟩ := serves.cases
  · cases left <;> simp [Call.turn, Turn.asks] at asked
  · cases missing with
    | zero => simp [Call.turn, Turn.asks] at asked
    | succ m =>
      obtain ⟨more, rest, rfl, ending⟩ := (yields_reading calling).1 yields
      cases more with
      | nil =>
        obtain ⟨-, rfl⟩ | ⟨full, -⟩ := ending
        · exact .inl rfl
        · simp at full
      | cons b more => exact .inr ⟨b, _, rfl⟩
  · simp [Call.turn, Turn.asks] at asked
  · simp [Call.turn, Turn.asks] at asked

theorem Yields.toIut_of_closed (yields : a.Yields true traffic) (steady : a.Steady) :
    ∀ x ∈ traffic, x.1 = .toIut := by
  obtain ⟨-, -, idle | ⟨step, call, calling, -, serves⟩⟩ := steady
  · exact ((yields_idle idle).1 yields).toIut_of_closed
  · obtain ⟨data, left, rfl, rfl, -⟩ | ⟨count, missing, got, rfl, rfl, -⟩ | settles :=
      serves.cases
    · obtain rfl | ⟨opened, rest, onward, rfl⟩ := (yields_writing calling).1 yields
      · simp
      · obtain rfl : left = [] := by simpa using opened
        exact onward.toIut_of_closed
    · obtain ⟨more, rest, rfl, ending⟩ := (yields_reading calling).1 yields
      intro x member
      rcases List.mem_append.1 member with inside | later
      · exact Direction.mem_mark _ inside
      · obtain ⟨-, rfl⟩ | ⟨-, onward⟩ := ending
        · simp at later
        · exact onward.toIut_of_closed x later
    · exact ((yields_settling settles calling).1 yields).toIut_of_closed

theorem log_ne (a : Actor) (entry : Entry) : a.log entry ≠ a := by
  intro same
  have entries := congrArg (fun a => a.entries.length) same
  simp [Actor.log] at entries

theorem Steady.still_ne (steady : a.Steady) {result : Status × Actor}
    (turn : a.turn now credit = .still result) : result.2 ≠ a := by
  obtain ⟨text, e, -, -, same⟩ | ⟨step, call, idle, -, -, -, same⟩ | ⟨data, -, same⟩ |
      ⟨count, got, -, -, same⟩ := steady.still_cases turn
  · rw [same]
    exact log_ne _ _
  · intro unmoved
    have activity := congrArg Actor.activity (same.symm.trans unmoved)
    simp [idle] at activity
  · rw [same]
    exact log_ne _ _
  · rw [same]
    exact log_ne _ _

theorem Steady.asking_ne (steady : a.Steady) {act : Act} {next : Sight → Status × Actor}
    (turn : a.turn now credit = .asking act next) {sight : Sight} (admits : act.Admits sight)
    (moves : sight ≠ .pending) : (next sight).2 ≠ a := by
  obtain ⟨rfl, -, -, same⟩ | ⟨e, same, -⟩ |
      ⟨data, left, n, calling, content, -, -, some_taken, same⟩ |
      ⟨count, missing, got, found, calling, -, -, some_found, -, same⟩ |
      ⟨step, call, -, -, -, -, same⟩ := steady.asking_cases turn admits moves
  · intro unmoved
    have attached := congrArg Actor.attached (same.symm.trans unmoved)
    simp [steady.attached] at attached
  · rw [same]
    exact log_ne _ _
  · intro unmoved
    have activity := congrArg Actor.activity (same.symm.trans unmoved)
    have length := congrArg List.length (show left.drop n = left by simpa [calling] using activity)
    have long := List.length_pos_iff.2 content
    rw [List.length_drop] at length
    omega
  · intro unmoved
    have activity := congrArg Actor.activity (same.symm.trans unmoved)
    simp [calling, some_found] at activity
  · rw [same]
    exact log_ne _ _

theorem carried_of_fails {p : Perspective} (act : Act) {sight : Sight}
    (fails : (∃ e, sight = .failed e) ∨ sight = .data [] ∨ sight = .count 0) :
    carried p act sight = [] := by
  obtain ⟨e, rfl⟩ | rfl | rfl := fails <;> cases act <;> rfl

theorem Steady.plan_eq (steady : a.Steady) {result : Status × Actor}
    (can : (a.turn now credit).Can result) : result.2.plan = a.plan := by
  obtain ⟨-, -, ending, turn⟩ | ⟨-, text, -, turn⟩ | ⟨-, step, call, -, -, -, turn⟩ |
      ⟨step, call, -, -, serves, turn⟩ := steady.turn_cases now credit
  · rw [turn] at can
    obtain ⟨sight, -, rfl⟩ := can
    rfl
  · rw [turn] at can
    obtain rfl := can
    rfl
  · rw [turn] at can
    obtain rfl := can
    rfl
  · rw [turn] at can
    obtain ⟨progress, -, rfl⟩ := Turn.can_map can
    rcases progress with next | next | (e | answer)
    · rfl
    · rfl
    · rfl
    · simp [follow, proceed_eq_log serves, Actor.log]

theorem Yields.before_still (steady : a.Steady) (halting : a.plan.Halting) {result : Status × Actor}
    (turn : a.turn now credit = .still result) (yields : result.2.Yields closed traffic) :
    a.Yields closed traffic := by
  obtain ⟨text, e, -, -, same⟩ | ⟨step, call, idle, goes, opens, serves, same⟩ |
      ⟨data, calling, same⟩ | ⟨count, got, calling, full, same⟩ := steady.still_cases turn
  · rw [same, (halted_log halting e).yields] at yields
    rw [yields]
    exact steady.yields_nothing
  · rw [same] at yields
    rw [yields_idle idle]
    obtain ⟨data, left, rfl, rfl, -⟩ | ⟨count, missing, got, rfl, rfl, -⟩ | settles :=
      serves.cases
    · obtain rfl : data = left := by simpa [opening] using opens
      obtain rfl | ⟨opened, rest, onward, rfl⟩ := (yields_writing rfl).1 yields
      · exact .nothing _ _
      · exact .write goes opened onward
    · obtain ⟨rfl, rfl⟩ : count = missing ∧ [] = got := by simpa [opening] using opens
      obtain ⟨more, rest, rfl, ⟨short, rfl⟩ | ⟨rfl, onward⟩⟩ := (yields_reading rfl).1 yields
      · rw [List.append_nil]
        exact .readShort goes short
      · exact .read goes onward
    · rwa [yields_settling settles rfl] at yields
  · rw [same, yields_log] at yields
    rw [yields_writing calling]
    exact .inr ⟨.inl rfl, traffic, yields, rfl⟩
  · rw [same, yields_log] at yields
    rw [yields_reading calling]
    exact ⟨[], traffic, rfl, .inr ⟨rfl, by rwa [List.append_nil]⟩⟩

theorem Yields.after_still (steady : a.Steady) {result : Status × Actor}
    (turn : a.turn now credit = .still result) (yields : a.Yields closed traffic) :
    result.2.Yields closed traffic := by
  obtain ⟨text, e, idle, goes, same⟩ | ⟨step, call, idle, goes, opens, serves, same⟩ |
      ⟨data, calling, same⟩ | ⟨count, got, calling, full, same⟩ := steady.still_cases turn
  · rw [((yields_idle idle).1 yields).nothing_of_fail goes, same]
    exact (steady.log _).yields_nothing
  · rw [same]
    -- The step that comes next is the one whose traffic comes next.
    have next {other : Step} (chosen : a.plan.choose a.entries = .go other) : other = step := by
      simpa using chosen.symm.trans goes
    cases (yields_idle idle).1 yields with
    | nothing => exact (steady.calling goes serves).yields_nothing
    | @write _ data _ rest chosen opened onward =>
      obtain rfl := next chosen
      obtain rfl : .writeAll data = call := by simpa [opening] using opens
      exact (yields_writing rfl).2 (.inr ⟨opened, rest, onward, rfl⟩)
    | @read _ got _ rest chosen onward =>
      obtain rfl := next chosen
      obtain rfl : .readUpTo got.length [] = call := by simpa [opening] using opens
      rw [yields_reading rfl]
      exact ⟨got, rest, rfl, .inr ⟨rfl, onward⟩⟩
    | @readShort _ count got _ chosen short =>
      obtain rfl := next chosen
      obtain rfl : .readUpTo count [] = call := by simpa [opening] using opens
      exact (yields_reading rfl).2 ⟨got, [], (List.append_nil _).symm, .inl ⟨short, rfl⟩⟩
    | flush chosen onward =>
      obtain rfl := next chosen
      obtain rfl : .flush = call := by simpa [opening] using opens
      exact (yields_settling (.inl ⟨rfl, rfl⟩) rfl).2 (.flush goes onward)
    | close chosen onward =>
      obtain rfl := next chosen
      obtain rfl : .close = call := by simpa [opening] using opens
      exact (yields_settling (.inr ⟨rfl, rfl⟩) rfl).2 (.close goes onward)
  · rw [yields_writing calling] at yields
    rw [same, yields_log]
    obtain rfl | ⟨-, rest, onward, rfl⟩ := yields
    · exact .nothing _ _
    · exact onward
  · rw [yields_reading calling] at yields
    rw [same, yields_log]
    obtain ⟨more, rest, rfl, ⟨short, -⟩ | ⟨none, onward⟩⟩ := yields
    · exact absurd short (Nat.not_lt_zero _)
    · obtain rfl : more = [] := List.eq_nil_of_length_eq_zero none
      simpa using onward

theorem Yields.before_asking (steady : a.Steady) (halting : a.plan.Halting) {act : Act}
    {next : Sight → Status × Actor} (turn : a.turn now credit = .asking act next) {sight : Sight}
    (admits : act.Admits sight) (moves : sight ≠ .pending)
    (whole : ∀ data n, act = .write data → sight = .count n → n = data.length ∧ closed = false)
    (yields : (next sight).2.Yields (closed || act = .close) traffic) :
    a.Yields closed (carried .iut act sight ++ traffic) := by
  -- Only failures and the end of the plan cut the traffic short, and then nothing comes after.
  obtain ⟨rfl, idle, final, same⟩ | ⟨e, same, fails⟩ |
      ⟨data, left, n, calling, content, rfl, rfl, -, same⟩ |
      ⟨count, missing, got, found, calling, rfl, rfl, -, short, same⟩ |
      ⟨step, call, settles, calling, goes, rfl, same⟩ := steady.asking_cases turn admits moves
  · rw [same] at yields
    rw [((yields_idle idle).1 yields).nothing_of_final final]
    exact steady.yields_nothing
  · rw [same, (halted_log halting e).yields] at yields
    rw [carried_of_fails act fails, yields]
    exact steady.yields_nothing
  · -- A write carries its bytes when it is done, and `whole` says that these are all of them.
    obtain ⟨rfl, rfl⟩ := whole left n rfl rfl
    rw [same, yields_writing rfl, List.drop_length] at yields
    have onward : a.plan.Emits (a.entries ++ [.count data.length]) false traffic := by
      obtain rfl | ⟨-, rest, onward, rfl⟩ := yields
      · exact .nothing _ _
      · exact onward
    rw [yields_writing calling]
    refine .inr ⟨.inr rfl, traffic, onward, ?_⟩
    simp [carried, Act.sent, Act.received, Perspective.direction]
  · rw [same, yields_reading rfl] at yields
    rw [yields_reading calling]
    obtain ⟨more, rest, rfl, ending⟩ := yields
    refine ⟨found ++ more, rest, ?_, ?_⟩
    · simp [carried, Act.sent, Act.received, Perspective.direction]
    simp only [List.length_append, ← List.append_assoc]
    obtain ⟨less, none⟩ | ⟨full, onward⟩ := ending
    · exact .inl ⟨by omega, none⟩
    · exact .inr ⟨by omega, by simpa using onward⟩
  · rw [same, yields_log] at yields
    obtain ⟨rfl, rfl, rfl⟩ | ⟨rfl, rfl, rfl⟩ := settles
    · exact (yields_settling (.inl ⟨rfl, rfl⟩) calling).2 (.flush goes (by simpa using yields))
    · exact (yields_settling (.inr ⟨rfl, rfl⟩) calling).2 (.close goes (by simpa using yields))

theorem Yields.after_asking (steady : a.Steady) {act : Act}
    {next : Sight → Status × Actor} (turn : a.turn now credit = .asking act next) {sight : Sight}
    (admits : act.Admits sight) (moves : sight ≠ .pending)
    (whole : ∀ data n, act = .write data → sight = .count n → n = data.length)
    (cut : (∃ e, sight = .failed e) ∨ sight = .data [] → traffic = [])
    (yields : a.Yields closed (carried .iut act sight ++ traffic)) :
    (next sight).2.Yields (closed || act = .close) traffic := by
  obtain ⟨rfl, idle, final, same⟩ | ⟨e, same, fails⟩ |
      ⟨data, left, n, calling, content, rfl, rfl, -, same⟩ |
      ⟨count, missing, got, found, calling, rfl, rfl, -, short, same⟩ |
      ⟨step, call, settles, calling, goes, rfl, same⟩ := steady.asking_cases turn admits moves
  · have nothing := ((yields_idle idle).1 yields).nothing_of_final final
    rw [same, (List.append_eq_nil_iff.1 nothing).2]
    exact (yields_idle idle).2 (.nothing _ _)
  · have nothing : traffic = [] := by
      obtain failed | ended | zero := fails
      · exact cut (.inl failed)
      · exact cut (.inr ended)
      · -- A write of nothing is never made.
        rw [zero] at admits
        obtain ⟨data, rfl, -⟩ := admits
        have none := whole data 0 rfl zero
        have asked : (a.turn now credit).asks = some (.write data) := by rw [turn]; rfl
        exact absurd (List.eq_nil_of_length_eq_zero none.symm) (steady.asks asked)
    rw [same, nothing]
    exact (steady.log _).yields_nothing
  · obtain rfl := whole left n rfl rfl
    simp only [yields_writing calling, carried, Act.sent, Act.received, Perspective.direction,
      List.take_length] at yields
    rw [same, yields_writing rfl, List.drop_length]
    obtain nothing | ⟨opened, rest, onward, split⟩ := yields
    · simp [content] at nothing
    · exact .inr ⟨.inl rfl, rest, by simpa using onward, by simpa using split⟩
  · simp only [yields_reading calling, carried, Act.sent, Act.received,
      Perspective.direction] at yields
    rw [same, yields_reading rfl]
    obtain ⟨more, rest, split, ending⟩ := yields
    -- What was found is no more than was asked for, so that it is all within what was to come.
    have within : found.length ≤ more.length := by
      obtain ⟨-, rfl⟩ | ⟨full, -⟩ := ending
      · have total := congrArg List.length split
        simp only [Direction.mark_nil, List.nil_append, List.append_nil, List.length_append,
          Direction.length_mark] at total
        omega
      · omega
    obtain ⟨left, rfl, after_found⟩ := Direction.mark_prefix _ within split
    refine ⟨left, rest, after_found, ?_⟩
    simp only [List.length_append, List.append_assoc] at ending ⊢
    obtain ⟨less, none⟩ | ⟨full, onward⟩ := ending
    · exact .inl ⟨by omega, none⟩
    · exact .inr ⟨by omega, by simpa using onward⟩
  · rw [same, yields_log]
    obtain ⟨rfl, rfl, rfl⟩ | ⟨rfl, rfl, rfl⟩ := settles
    · have emits := (yields_settling (.inl ⟨rfl, rfl⟩) calling).1 yields
      simpa using emits.of_flush goes
    · have emits := (yields_settling (.inr ⟨rfl, rfl⟩) calling).1 yields
      simpa using emits.of_close goes

end Actor

end WireScript.Party
