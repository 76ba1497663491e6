import WireScript.Replay.Config
import WireScript.Replay.Verdict
import WireScript.Wire.Call

set_option autoImplicit false

namespace WireScript.Replay

open Wire (Answer Call Failure Growth Progress Task Transport)

structure Player where
  growth : Growth
  config : Config
  index : Nat
  rest : List Segment
  call : Option Call

inductive Status
  | running (player : Player)
  | waiting (player : Player)
  | over (verdict : Verdict)

/-- What the bytes read for a segment are worth: too few of them is the first thing to be wrong. -/
def judge (expected actual : Bytes) : Except Cause Unit :=
  if actual.length < expected.length then .error (.shortRead expected.length actual.length)
  else
    match Bytes.firstMismatch expected actual with
    | some offset => .error (.mismatch offset expected actual)
    | none => .ok ()

namespace Player

def start (growth : Growth) (config : Config) (t : Transcript) : Player :=
  ⟨growth, config, 0, t.segments, none⟩

def opening (s : Segment) : Call :=
  match s.direction with
  | .fromIut => .readUpTo s.length []
  | .toIut => .writeAll s.payload

def fail (p : Player) (cause : Cause) : Status :=
  .over (.error ⟨p.config.name, p.index, cause⟩)

def advance (p : Player) : Player :=
  { p with index := p.index + 1, rest := p.rest.tail, call := none }

def proceed (p : Player) (call : Call) (answer : Answer) : Status :=
  match p.rest, call, answer with
  | s :: _, .readUpTo .., .data actual =>
    match judge s.payload actual with
    | .ok _ => .running p.advance
    | .error cause => p.fail cause
  | _ :: _, .writeAll _, _ => .running { p with call := some .flush }
  | _ :: _, _, _ => .running p.advance
  | [], _, .data actual => if actual = [] then .over (.ok ()) else p.fail (.trailing actual)
  | [], _, _ => .over (.ok ())

variable {σ : Type} [Transport σ]

def step (task : Task) (p : Player) (s : σ) : Status × σ :=
  match p.call with
  | some call =>
    match call.step task s with
    | (.running next, s) => (.running { p with call := some next }, s)
    | (.waiting call, s) => (.waiting { p with call := some call }, s)
    | (.finished (.error e), s) => (p.fail (.stream e), s)
    | (.finished (.ok answer), s) => (p.proceed call answer, s)
  | none =>
    match p.rest with
    | segment :: _ => (.running { p with call := some (opening segment) }, s)
    | [] =>
      match p.config.trailing with
      | .ignore => (.over (.ok ()), s)
      | .reject => (.running { p with call := some (.readToEnd p.growth []) }, s)

def run (task : Task) : (limit : Nat) → Player → σ → Option Verdict × σ
  | 0, _, s => (none, s)
  | limit + 1, p, s =>
    match p.step task s with
    | (.over verdict, s) => (some verdict, s)
    | (.running p, s) => run task limit p s
    | (.waiting p, s) => run task limit p s

end Player

end WireScript.Replay
