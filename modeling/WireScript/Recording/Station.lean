import WireScript.Recording.Tap
import WireScript.Wire.Act

set_option autoImplicit false

namespace WireScript.Recording

open Wire (Act Sight Task Transport)

inductive Stage
  | recorded
  | bare
  | gone
deriving DecidableEq, Repr

structure Station (σ : Type) where
  tap : Tap σ
  stage : Stage
deriving DecidableEq, Repr

namespace Station

variable {σ : Type} [Transport σ]

def start (inner : σ) : Station σ := ⟨.wrap inner, .recorded⟩

def performInner (s : Station σ) (act : Act) (task : Task) : Sight × Station σ :=
  if s.stage = .gone then (.gone, s)
  else
    let (sight, inner) := act.perform task s.tap.inner
    (sight, { s with tap := { s.tap with inner := inner } })

def perform (s : Station σ) (act : Act) (task : Task) : Sight × Station σ :=
  match s.stage with
  | .recorded =>
    let (sight, tap) := act.perform task s.tap
    (sight, ⟨tap, if act = .release then .gone else .recorded⟩)
  | .bare =>
    let (sight, s) := s.performInner act task
    (sight, if act = .release then { s with stage := .gone } else s)
  | .gone => (if act = .release then .released else .gone, s)

def unwrap (s : Station σ) : Station σ :=
  if s.stage = .recorded then { s with stage := .bare } else s

def inner? (s : Station σ) : Option σ :=
  if s.stage = .gone then none else some s.tap.inner

def drainLog (s : Station σ) : List Event × Station σ :=
  let (events, log) := s.tap.log.drain
  (events, { s with tap := { s.tap with log := log } })

def drain? (s : Station σ) : Option (List Event) × Station σ :=
  if s.stage = .recorded then
    let (events, s) := s.drainLog
    (some events, s)
  else (none, s)

end Station

end WireScript.Recording
