import WireScript.Rehearsal.Run

set_option autoImplicit false

namespace WireScript.Rehearsal

open Party (Plan Step longest)
open Replay (Config)

namespace Run

-- As the longest time is up, all that is waited for is that the player's own time is up too.
def watchedAt (r : Run) (t : Nat) : Bool :=
  match r.stage with
  | .playing _ => t < longest || (t == longest && r.playerAlarm == some t)
  | .joining _ => t < longest

def watch (r : Run) : Run ⊕ Report :=
  match r.step with
  | .inl next => if r.now < next.now && !r.watchedAt next.now then r.stop .stalled else .inl next
  | .inr report => .inr report

def finish : (limit : Nat) → Run → Report
  | 0, r => r.report .stalled
  | limit + 1, r =>
    match r.watch with
    | .inl r => r.finish limit
    | .inr report => report

end Run

-- More steps than these parties can make: every wait is ended by bytes that go over or by a step
-- that is done.
def stepLimit (t : Transcript) (steps : List Step) : Nat :=
  let bytes := t.segments.flatMap Segment.payload ++ steps.flatMap Step.payload
  32 * (bytes.length + t.segments.length + steps.length + 8)

def rehearse (config : Config) (t : Transcript) (steps : List Step) (keepGoing : Bool) : Report :=
  (Run.start (.paused (.ofSecs 1)) .standard config t (.ofSteps keepGoing steps)).finish
    (stepLimit t steps)

end WireScript.Rehearsal
