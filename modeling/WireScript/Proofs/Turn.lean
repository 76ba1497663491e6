import WireScript.Party.Actor
import WireScript.Replay.Player
import WireScript.Wire.Act

set_option autoImplicit false

namespace WireScript.Wire

def Act.Proper : Act → Prop
  | .read room => room ≠ 0
  | .write data => data ≠ []
  | _ => True

/-- The outcomes that the contract of a stream allows for an operation. -/
def Act.Admits (act : Act) (sight : Sight) : Prop :=
  match sight with
  | .pending | .failed _ => act ≠ .release
  | .data found => ∃ room, act = .read room ∧ found.length ≤ room
  | .count n => ∃ data, act = .write data ∧ n ≤ data.length
  | .done => act = .flush ∨ act = .close
  | .released => act = .release
  | .gone => False

theorem Act.admits_perform {σ : Type} [Transport σ] [LawfulTransport σ] (act : Act) (task : Task)
    (s : σ) : act.Admits (act.perform task s).1 := by
  -- Only reads and writes have anything to show that the laws of a stream are needed for.
  cases act with
  | read room =>
    rcases h : Transport.read task room s with ⟨_ | (_ | found), s'⟩
    · simp [perform, h, Sight.ofPoll, Admits]
    · simp [perform, h, Sight.ofPoll, Admits]
    · simpa [perform, h, Sight.ofPoll, Admits] using LawfulTransport.length_read_le _ _ _ _ _ h
  | write data =>
    rcases h : Transport.write task data s with ⟨_ | (_ | n), s'⟩
    · simp [perform, h, Sight.ofPoll, Admits]
    · simp [perform, h, Sight.ofPoll, Admits]
    · simpa [perform, h, Sight.ofPoll, Admits] using LawfulTransport.write_le _ _ _ _ _ h
  | flush =>
    rcases h : Transport.flush task s with ⟨_ | (_ | _), s'⟩ <;>
      simp [perform, h, Sight.ofPoll, Admits]
  | close =>
    rcases h : Transport.close task s with ⟨_ | (_ | _), s'⟩ <;>
      simp [perform, h, Sight.ofPoll, Admits]
  | release => rfl

def Act.received : Act → Sight → Bytes
  | .read _, .data found => found
  | _, _ => []

def Act.sent : Act → Sight → Bytes
  | .write data, .count n => data.take n
  | _, _ => []

@[simp] theorem Act.received_pending (act : Act) : act.received .pending = [] := by
  cases act <;> rfl

@[simp] theorem Act.sent_pending (act : Act) : act.sent .pending = [] := by
  cases act <;> rfl

/-- A step of a task makes at most one operation on its stream. The turn of the task says which one,
and where each outcome leaves the task. -/
inductive Turn (α : Type)
  | still (value : α)
  | asking (act : Act) (next : Sight → α)

namespace Turn

variable {α β σ : Type} [Transport σ]

def asks : Turn α → Option Act
  | .still _ => none
  | .asking act _ => some act

def map (f : α → β) : Turn α → Turn β
  | .still value => .still (f value)
  | .asking act next => .asking act (f ∘ next)

def run (task : Task) (s : σ) : Turn α → α × σ
  | .still value => (value, s)
  | .asking act next => (next (act.perform task s).1, (act.perform task s).2)

def Can (value : α) : Turn α → Prop
  | .still v => value = v
  | .asking act next => ∃ sight, act.Admits sight ∧ value = next sight

theorem can_run [LawfulTransport σ] (task : Task) (s : σ) (t : Turn α) :
    t.Can (t.run task s).1 := by
  cases t with
  | still value => rfl
  | asking act next => exact ⟨_, act.admits_perform task s, rfl⟩

theorem can_map {f : α → β} {t : Turn α} {value : β} (can : (t.map f).Can value) :
    ∃ v, t.Can v ∧ value = f v := by
  cases t with
  | still v => exact ⟨v, rfl, can⟩
  | asking act next =>
    obtain ⟨sight, admits, rfl⟩ := can
    exact ⟨next sight, ⟨sight, admits, rfl⟩, rfl⟩

theorem asking_of_map {f : α → β} {t : Turn α} {act : Act} {next : Sight → β}
    (asking : t.map f = .asking act next) : ∃ inner, t = .asking act inner ∧ next = f ∘ inner := by
  cases t with
  | still v => simp [map] at asking
  | asking act' inner =>
    obtain ⟨rfl, rfl⟩ := by simpa [map] using asking
    exact ⟨inner, rfl, rfl⟩

theorem asking_of_asks {t : Turn α} {act : Act} (asked : t.asks = some act) :
    ∃ next, t = .asking act next := by
  cases t with
  | still value => simp [asks] at asked
  | asking act' next =>
    obtain rfl := Option.some.inj asked
    exact ⟨next, rfl⟩

@[simp] theorem asks_map (f : α → β) (t : Turn α) : (t.map f).asks = t.asks := by
  cases t <;> rfl

@[simp] theorem run_map (f : α → β) (task : Task) (s : σ) (t : Turn α) :
    (t.map f).run task s = (f (t.run task s).1, (t.run task s).2) := by
  cases t <;> rfl

end Turn

namespace Call

def resume (call : Call) : Sight → Progress
  | .failed e => .finished (.error e)
  | .done => .finished (.ok .done)
  | .data found =>
    match call with
    | .readUpTo missing got =>
      if found = [] then .finished (.ok (.data got))
      else .running (.readUpTo (missing - found.length) (got ++ found))
    | .readToEnd growth got =>
      if found = [] then .finished (.ok (.data got))
      else .running (.readToEnd growth (got ++ found))
    | _ => .finished (.ok (.data found))
  | .count n =>
    match call with
    | .writeAll left =>
      if n = 0 then .finished (.error (.ofKind .writeZero)) else .running (.writeAll (left.drop n))
    | _ => .finished (.ok (.count n))
  | _ => .waiting call

def turn (call : Call) : Turn Progress :=
  match call with
  | .readSome room => .asking (.read room) call.resume
  | .readUpTo 0 got => .still (.finished (.ok (.data got)))
  | .readUpTo missing _ => .asking (.read missing) call.resume
  | .readToEnd growth got => .asking (.read (growth.room got.length)) call.resume
  | .writeSome data => .asking (.write data) call.resume
  | .writeAll [] => .still (.finished (.ok .done))
  | .writeAll left => .asking (.write left) call.resume
  | .flush => .asking .flush call.resume
  | .close => .asking .close call.resume

theorem ofPoll_eq_resume {α : Type} (call : Call) (onReady : α → Progress) (reveal : α → Sight)
    (agree : ∀ value, onReady value = call.resume (reveal value)) (poll : Poll α) :
    call.ofPoll onReady poll = call.resume (Sight.ofPoll reveal poll) := by
  rcases poll with _ | (_ | value)
  · rfl
  · rfl
  · exact agree value

variable {σ : Type} [Transport σ]

theorem step_eq_run_turn (task : Task) (call : Call) (s : σ) :
    call.step task s = call.turn.run task s := by
  -- A call that polls its stream resumes with what it is shown, or is through and polls nothing.
  cases call with
  | readSome room => exact Prod.ext (ofPoll_eq_resume _ _ _ (by intro; rfl) _) rfl
  | readUpTo missing got =>
    cases missing with
    | zero => rfl
    | succ n => exact Prod.ext (ofPoll_eq_resume _ _ _ (by intro; rfl) _) rfl
  | readToEnd growth got => exact Prod.ext (ofPoll_eq_resume _ _ _ (by intro; rfl) _) rfl
  | writeSome data => exact Prod.ext (ofPoll_eq_resume _ _ _ (by intro; rfl) _) rfl
  | writeAll left =>
    cases left with
    | nil => rfl
    | cons b left => exact Prod.ext (ofPoll_eq_resume _ _ _ (by intro; rfl) _) rfl
  | flush => exact Prod.ext (ofPoll_eq_resume _ _ _ (by intro; rfl) _) rfl
  | close => exact Prod.ext (ofPoll_eq_resume _ _ _ (by intro; rfl) _) rfl

theorem next_eq_resume {call : Call} {act : Act} {next : Sight → Progress}
    (asking : call.turn = .asking act next) : next = call.resume := by
  cases call with
  | readUpTo missing got =>
    cases missing <;> simp [turn] at asking
    exact asking.2.symm
  | writeAll left =>
    cases left <;> simp [turn] at asking
    exact asking.2.symm
  | _ =>
    simp [turn] at asking
    exact asking.2.symm

theorem can_readUpTo {missing : Nat} {got : Bytes} {progress : Progress}
    (can : (readUpTo missing got).turn.Can progress) :
    progress = .finished (.ok (.data got)) ∨
    (missing ≠ 0 ∧ (progress = .waiting (.readUpTo missing got) ∨
      (∃ e, progress = .finished (.error e)) ∨
      ∃ found, found ≠ [] ∧ found.length ≤ missing ∧
        progress = .running (.readUpTo (missing - found.length) (got ++ found)))) := by
  cases missing with
  | zero => exact .inl can
  | succ n =>
    obtain ⟨sight, admits, rfl⟩ := can
    cases sight with
    | data found =>
      obtain ⟨room, same, short⟩ := admits
      obtain rfl : n + 1 = room := by simpa using same
      -- Nothing found is the end of the stream, and the call makes do with what it has.
      by_cases empty : found = []
      · exact .inl (by simp [resume, empty])
      · exact .inr ⟨by simp, .inr (.inr ⟨found, empty, short, by simp [resume, empty]⟩)⟩
    | pending => exact .inr ⟨by simp, .inl rfl⟩
    | failed e => exact .inr ⟨by simp, .inr (.inl ⟨e, rfl⟩)⟩
    | _ => simp [Act.Admits] at admits

theorem can_writeAll {left : Bytes} {progress : Progress}
    (can : (writeAll left).turn.Can progress) :
    (left = [] ∧ progress = .finished (.ok .done)) ∨
    (left ≠ [] ∧ (progress = .waiting (.writeAll left) ∨
      (∃ e, progress = .finished (.error e)) ∨
      ∃ n, n ≤ left.length ∧ progress = .running (.writeAll (left.drop n)))) := by
  cases left with
  | nil => exact .inl ⟨rfl, can⟩
  | cons b left =>
    obtain ⟨sight, admits, rfl⟩ := can
    cases sight with
    | count n =>
      obtain ⟨data, same, short⟩ := admits
      obtain rfl : b :: left = data := by simpa using same
      -- A stream that takes nothing makes the call fail.
      by_cases zero : n = 0
      · exact .inr ⟨by simp, .inr (.inl ⟨_, by simp [resume, zero]; rfl⟩)⟩
      · exact .inr ⟨by simp, .inr (.inr ⟨n, short, by simp [resume, zero]⟩)⟩
    | pending => exact .inr ⟨by simp, .inl rfl⟩
    | failed e => exact .inr ⟨by simp, .inr (.inl ⟨e, rfl⟩)⟩
    | _ => simp [Act.Admits] at admits

theorem can_settle {call : Call} (settles : call = .flush ∨ call = .close) {progress : Progress}
    (can : call.turn.Can progress) :
    progress = .finished (.ok .done) ∨ progress = .waiting call ∨
      ∃ e, progress = .finished (.error e) := by
  rcases settles with rfl | rfl
  all_goals
    obtain ⟨sight, admits, rfl⟩ := can
    cases sight with
    | done => exact .inl rfl
    | pending => exact .inr (.inl rfl)
    | failed e => exact .inr (.inr ⟨e, rfl⟩)
    | _ => simp [Act.Admits] at admits

end Call

end WireScript.Wire

namespace WireScript.Replay.Player

open Wire (Call Progress Task Transport Turn)

def follow (p : Player) (call : Call) : Progress → Status
  | .running next => .running { p with call := some next }
  | .waiting call => .waiting { p with call := some call }
  | .finished (.error e) => p.fail (.stream e)
  | .finished (.ok answer) => p.proceed call answer

def resort (p : Player) : Status :=
  match p.rest with
  | segment :: _ => .running { p with call := some (opening segment) }
  | [] =>
    match p.config.trailing with
    | .ignore => .over (.ok ())
    | .reject => .running { p with call := some (.readToEnd p.growth []) }

def turn (p : Player) : Turn Status :=
  match p.call with
  | some call => call.turn.map (p.follow call)
  | none => .still p.resort

variable {σ : Type} [Transport σ]

theorem step_eq_run_turn (task : Task) (p : Player) (s : σ) :
    p.step task s = p.turn.run task s := by
  rcases p with ⟨growth, config, index, rest, _ | call⟩
  · cases rest with
    | nil => cases h : config.trailing <;> simp [step, turn, resort, Turn.run, h]
    | cons segment rest => rfl
  · simp only [step, turn, Turn.run_map, ← Call.step_eq_run_turn]
    rcases call.step task s with ⟨_ | _ | (_ | _), _⟩ <;> rfl

end WireScript.Replay.Player

namespace WireScript.Party.Actor

open Wire (Call Progress Task Transport Turn)

def follow (p : Actor) (onCall : Call → Activity) (onAnswer : Wire.Answer → Actor) :
    Progress → Status × Actor
  | .running call => (.running, { p with activity := onCall call })
  | .waiting call => (.waiting, { p with activity := onCall call })
  | .finished (.error e) => (.running, p.log (.failed e))
  | .finished (.ok answer) => (.running, onAnswer answer)

def leave (p : Actor) (onward : Actor → Status × Actor) : Turn (Status × Actor) :=
  if p.attached then .asking .release (fun _ => onward { p with attached := false })
  else .still (onward p)

def settle (p : Actor) : Wire.Sight → Status × Actor
  | .count n => (.running, p.log (.count n))
  | .failed e => (.running, p.log (.failed e))
  | _ => (.running, p.log .cancelled)

def opens (now credit : Nat) (p : Actor) (step : Step) : Turn (Status × Actor) :=
  if usesStream step && !p.attached then .still (.running, p.log .gone)
  else
    match opening step with
    | some call => .still (.running, { p with activity := .calling step call })
    | none =>
      match step with
      | .tryWrite data => .asking (.write data) p.settle
      | .drop => p.leave (fun p => (.running, p.log .dropped))
      | .pause => .still (.yielding, { p with activity := .paused })
      | .sleep millis => .still (p.sleepUntil now credit (now + millis))
      | .panic text => p.leave (fun p => (.over (.panicked text), p))
      | .fail text => .still (.running, p.log (.failed ⟨.other, some text⟩))
      | _ => .still (.waiting, { p with activity := .stuck })

def turn (now credit : Nat) (p : Actor) : Turn (Status × Actor) :=
  match p.activity with
  | .idle =>
    match p.next with
    | .quit failure => p.leave (fun p => (.over (.returned failure), p))
    | .go step => p.opens now credit step
  | .calling step call => call.turn.map (p.follow (.calling step) (p.proceed step))
  | .echoing got call => call.turn.map (p.follow (.echoing got) (fun _ => p.log (.data got)))
  | .paused => .still (.running, p.log .done)
  | .asleep t => .still (p.sleepUntil now credit t)
  | .stuck => .still (.waiting, p)

variable {σ : Type} [Transport σ]

theorem finish_eq_run_leave (task : Task) (p : Actor) (ending : Ending) (s : σ) :
    p.finish ending s =
      (let r := (p.leave (fun p => (.over ending, p))).run task s; (r.1.1, r.1.2, r.2)) := by
  by_cases h : p.attached <;> simp [finish, detach, leave, h, Turn.run, Wire.Act.perform]

theorem begin_eq_run_opens (task : Task) (now credit : Nat) (p : Actor) (step : Step) (s : σ) :
    p.begin task now credit step s =
      (let r := (p.opens now credit step).run task s; (r.1.1, r.1.2, r.2)) := by
  unfold begin opens
  split
  · rfl
  · cases step with
    | tryWrite data =>
      simp only [opening, Turn.run, Wire.Act.perform]
      rcases Transport.write task data s with ⟨_ | (_ | _), _⟩ <;> rfl
    | drop =>
      by_cases h : p.attached <;> simp [opening, detach, leave, h, Turn.run, Wire.Act.perform]
    | panic text => exact finish_eq_run_leave task p (.panicked text) s
    | _ => rfl

theorem step_eq_run_turn (task : Task) (now credit : Nat) (p : Actor) (s : σ) :
    p.step task now credit s =
      (let r := (p.turn now credit).run task s; (r.1.1, r.1.2, r.2)) := by
  -- Only an idle actor and one in a call can touch the stream.
  rcases h : p.activity with _ | ⟨step, call⟩ | ⟨got, call⟩ | _ | t | _
  · cases g : p.next with
    | quit failure =>
      simpa only [Actor.step, turn, h, g] using finish_eq_run_leave task p (.returned failure) s
    | go step =>
      simpa only [Actor.step, turn, h, g] using begin_eq_run_opens task now credit p step s
  · simp only [Actor.step, turn, h, Turn.run_map, ← Call.step_eq_run_turn]
    rcases call.step task s with ⟨_ | _ | (_ | _), _⟩ <;> rfl
  · simp only [Actor.step, turn, h, Turn.run_map, ← Call.step_eq_run_turn]
    rcases call.step task s with ⟨_ | _ | (_ | _), _⟩ <;> rfl
  all_goals simp only [Actor.step, turn, h, Turn.run]

end WireScript.Party.Actor
