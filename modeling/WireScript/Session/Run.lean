import WireScript.Party.Actor
import WireScript.Recording.Tap
import WireScript.Rendezvous.Link

set_option autoImplicit false

namespace WireScript.Session

open Party (Actor Ending Plan Step)
open Recording (Log Tap)
open Rendezvous (Link Terminal Side)

structure Member where
  actor : Actor
  log : Log
  ending : Option Ending

def Member.start (plan : Plan) : Member := ⟨.start plan, .fresh, none⟩

def Member.alarm (m : Member) : Option Nat :=
  if m.ending.isNone then m.actor.alarm else none

inductive Turn
  | nobody
  | iut
  | peer
deriving DecidableEq, Repr

structure Run where
  link : Link
  iut : Member
  peer : Member
  now : Nat
  woken : Bool
  turn : Turn
  credit : Nat

inductive Outcome
  | finished
  | stuck
  | panicked (text : String)
deriving DecidableEq, Repr

namespace Run

def start (iut peer : Plan) : Run :=
  ⟨.fresh, .start iut, .start peer, 0, false, .iut, Party.timersPerTurn⟩

def task : Wire.Task := "session"

def stepMember (side : Side) (now credit : Nat) (m : Member) (link : Link) :
    Party.Status × Member × Link :=
  let (status, actor, tap) :=
    m.actor.step task now credit (⟨m.log, ⟨link⟩⟩ : Tap (Terminal side))
  let ending :=
    match status with
    | .over ending => some ending
    | _ => m.ending
  (status, ⟨actor, tap.log, ending⟩, tap.inner.link)

def settle (r : Run) (status : Party.Status) (after : Turn) : Run ⊕ (Outcome × Run) :=
  let r := { r with woken := r.woken || !r.link.woken.isEmpty, link := r.link.collect.2 }
  match status with
  | .running => .inl r
  | .elapsed => .inl { r with credit := r.credit - 1 }
  | .waiting => .inl { r with turn := after }
  | .yielding => .inl { r with woken := true, turn := after }
  | .over (.returned _) => .inl { r with turn := after }
  | .over (.panicked text) => .inr (.panicked text, r)

-- The round that begins as the longest time is up is the last one.
def dispatch (r : Run) : Run ⊕ (Outcome × Run) :=
  if r.iut.ending.isSome && r.peer.ending.isSome then .inr (.finished, r)
  else if Party.longest ≤ r.now then .inr (.stuck, r)
  else if r.woken then .inl { r with woken := false, turn := .iut, credit := Party.timersPerTurn }
  else
    match (r.iut.alarm.toList ++ r.peer.alarm.toList).min? with
    | none => .inr (.stuck, r)
    | some t =>
      if Party.longest < t then .inr (.stuck, r)
      else .inl { r with now := t, turn := .iut, credit := Party.timersPerTurn }

def step (r : Run) : Run ⊕ (Outcome × Run) :=
  match r.turn with
  | .nobody => r.dispatch
  | .iut =>
    if r.iut.ending.isSome then .inl { r with turn := .peer }
    else
      let (status, iut, link) := stepMember .a r.now r.credit r.iut r.link
      { r with iut, link }.settle status .peer
  | .peer =>
    if r.peer.ending.isSome then .inl { r with turn := .nobody }
    else
      let (status, peer, link) := stepMember .b r.now r.credit r.peer r.link
      { r with peer, link }.settle status .nobody

def finish : (limit : Nat) → Run → Outcome × Run
  | 0, r => (.stuck, r)
  | limit + 1, r =>
    match r.step with
    | .inl r => r.finish limit
    | .inr result => result

end Run

structure Report where
  outcome : Outcome
  iut : Member
  peer : Member

def Report.iutTranscript (r : Report) : Transcript := .ofEvents .iut r.iut.log.events

def Report.peerTranscript (r : Report) : Transcript := .ofEvents .peer r.peer.log.events

def stepLimit (iut peer : List Step) : Nat :=
  let steps := iut ++ peer
  32 * ((steps.flatMap Step.payload).length + steps.length + 8)

def record (iut peer : List Step) : Report :=
  let (outcome, r) :=
    (Run.start (.ofSteps false iut) (.ofSteps false peer)).finish (stepLimit iut peer)
  ⟨outcome, r.iut, r.peer⟩

end WireScript.Session
