import WireScript.Party.Plan

set_option autoImplicit false

namespace WireScript.Party

open Wire (Answer Call Failure Task Transport)

inductive Activity
  | idle
  | calling (step : Step) (call : Call)
  | echoing (got : Bytes) (call : Call)
  | paused
  | asleep (wakeAt : Nat)
  | stuck

structure Actor where
  plan : Plan
  activity : Activity
  attached : Bool
  entries : List Entry

inductive Ending
  | returned (failure : Option Failure)
  | panicked (text : String)
deriving DecidableEq, Repr

-- A party with nothing but timers that are over from the start would keep all others waiting.
def timersPerTurn : Nat := 128

-- In milliseconds: parties are not followed for longer than an hour.
def longest : Nat := 3600000

inductive Status
  | running
  | elapsed
  | waiting
  | yielding
  | over (ending : Ending)
deriving DecidableEq, Repr

namespace Actor

def start (plan : Plan) : Actor := ⟨plan, .idle, true, []⟩

def alarm (p : Actor) : Option Nat :=
  match p.activity with
  | .asleep t => some t
  | _ => none

def next (p : Actor) : Choice := p.plan.choose p.entries

def log (p : Actor) (entry : Entry) : Actor :=
  { p with activity := .idle, entries := p.entries ++ [entry] }

def entryOf (step : Step) (answer : Answer) : Entry :=
  match step, answer with
  | .readExact count, .data bytes =>
    if bytes.length < count then .failed (.ofKind .unexpectedEnd) else .data bytes
  | .writeAll data, _ => .count data.length
  | _, .data bytes => .data bytes
  | _, .count n => .count n
  | _, .done => .done

def opening : Step → Option Call
  | .write data => some (.writeSome data)
  | .writeAll data => some (.writeAll data)
  | .read room => some (.readSome room)
  | .readExact count => some (.readUpTo count [])
  | .readToEnd growth => some (.readToEnd growth [])
  | .echo count => some (.readUpTo count [])
  | .flush => some .flush
  | .close => some .close
  | _ => none

-- Without credit, not even a timer that is over can be seen to be.
def sleepUntil (p : Actor) (now credit wakeAt : Nat) : Status × Actor :=
  if credit = 0 then (.yielding, { p with activity := .asleep wakeAt })
  else if wakeAt ≤ now then (.elapsed, p.log .done)
  else (.waiting, { p with activity := .asleep wakeAt })

def proceed (p : Actor) (step : Step) (answer : Answer) : Actor :=
  match step, answer with
  | .echo count, .data got =>
    if got.length < count then p.log (.failed (.ofKind .unexpectedEnd))
    else { p with activity := .echoing got (.writeAll got) }
  | _, _ => p.log (entryOf step answer)

def usesStream : Step → Bool
  | .drop | .pause | .sleep _ | .hang | .panic _ | .fail _ => false
  | _ => true

variable {σ : Type} [Transport σ]

def detach (p : Actor) (s : σ) : Actor × σ :=
  if p.attached then ({ p with attached := false }, Transport.release s) else (p, s)

def finish (p : Actor) (ending : Ending) (s : σ) : Status × Actor × σ :=
  (.over ending, p.detach s)

def begin (task : Task) (now credit : Nat) (p : Actor) (step : Step) (s : σ) :
    Status × Actor × σ :=
  if usesStream step && !p.attached then (.running, p.log .gone, s)
  else
    match opening step with
    | some call => (.running, { p with activity := .calling step call }, s)
    | none =>
      match step with
      | .tryWrite data =>
        match Transport.write task data s with
        | (.pending, s) => (.running, p.log .cancelled, s)
        | (.ready (.ok n), s) => (.running, p.log (.count n), s)
        | (.ready (.error e), s) => (.running, p.log (.failed e), s)
      | .drop =>
        let (p, s) := p.detach s
        (.running, p.log .dropped, s)
      | .pause => (.yielding, { p with activity := .paused }, s)
      | .sleep millis =>
        let (status, p) := p.sleepUntil now credit (now + millis)
        (status, p, s)
      | .panic text => p.finish (.panicked text) s
      | .fail text => (.running, p.log (.failed ⟨.other, some text⟩), s)
      | _ => (.waiting, { p with activity := .stuck }, s)

def step (task : Task) (now credit : Nat) (p : Actor) (s : σ) : Status × Actor × σ :=
  match p.activity with
  | .idle =>
    match p.next with
    | .quit failure => p.finish (.returned failure) s
    | .go step => p.begin task now credit step s
  | .calling step call =>
    match call.step task s with
    | (.running call, s) => (.running, { p with activity := .calling step call }, s)
    | (.waiting call, s) => (.waiting, { p with activity := .calling step call }, s)
    | (.finished (.error e), s) => (.running, p.log (.failed e), s)
    | (.finished (.ok answer), s) => (.running, p.proceed step answer, s)
  | .echoing got call =>
    match call.step task s with
    | (.running call, s) => (.running, { p with activity := .echoing got call }, s)
    | (.waiting call, s) => (.waiting, { p with activity := .echoing got call }, s)
    | (.finished (.error e), s) => (.running, p.log (.failed e), s)
    | (.finished (.ok _), s) => (.running, p.log (.data got), s)
  | .paused => (.running, p.log .done, s)
  | .asleep t =>
    let (status, p) := p.sleepUntil now credit t
    (status, p, s)
  | .stuck => (.waiting, p, s)

end Actor

end WireScript.Party
