import WireScript.Rendezvous.Link
import WireScript.Wire.Act

set_option autoImplicit false

namespace WireScript.Rendezvous

open Wire (Task Act Sight)

structure Move where
  side : Side
  act : Act
  task : Task
deriving DecidableEq, Repr

/-- Performs an operation and tells what came of it and which tasks it woke. A side that has been
taken away can do no more. -/
def Link.perform (l : Link) (m : Move) : Sight × List Task × Link :=
  if l.isDropped m.side then (.gone, [], l)
  else
    let (sight, terminal) := m.act.perform m.task (⟨l⟩ : Terminal m.side)
    (sight, terminal.link.collect)

def Link.performAll (l : Link) : List Move → List (Sight × List Task) × Link
  | [] => ([], l)
  | m :: rest =>
    let (sight, woken, l) := l.perform m
    let (more, l) := l.performAll rest
    ((sight, woken) :: more, l)

end WireScript.Rendezvous
