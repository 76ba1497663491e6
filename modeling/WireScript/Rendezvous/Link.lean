import WireScript.Rendezvous.Pipe

set_option autoImplicit false

namespace WireScript.Rendezvous

open Wire (Task Poll Failure Transport)

inductive Side
  | a
  | b
deriving DecidableEq, Repr

def Side.other : Side → Side
  | .a => .b
  | .b => .a

structure Link where
  forth : Pipe
  back : Pipe
  woken : List Task
deriving DecidableEq, Repr

namespace Link

def fresh : Link := ⟨.fresh, .fresh, []⟩

def outbound (l : Link) : Side → Pipe
  | .a => l.forth
  | .b => l.back

def inbound (l : Link) (side : Side) : Pipe := l.outbound side.other

def setOutbound (l : Link) (side : Side) (woken : List Task) (p : Pipe) : Link :=
  match side with
  | .a => { l with forth := p, woken := l.woken ++ woken }
  | .b => { l with back := p, woken := l.woken ++ woken }

def read (side : Side) (task : Task) (room : Nat) (l : Link) : Poll Bytes × Link :=
  let (poll, woken, p) := (l.inbound side).read task room
  (poll, l.setOutbound side.other woken p)

def write (side : Side) (task : Task) (data : Bytes) (l : Link) : Poll Nat × Link :=
  let (poll, woken, p) := (l.outbound side).write task data
  (poll, l.setOutbound side woken p)

def close (side : Side) (l : Link) : Link :=
  let (woken, p) := (l.outbound side).closeWrite
  l.setOutbound side woken p

def drop (side : Side) (l : Link) : Link :=
  let l := l.close side
  let (woken, p) := (l.inbound side).closeRead
  l.setOutbound side.other woken p

def isDropped (l : Link) (side : Side) : Bool := (l.inbound side).readClosed

def collect (l : Link) : List Task × Link := (l.woken, { l with woken := [] })

end Link

structure Terminal (side : Side) where
  link : Link
deriving DecidableEq, Repr

instance (side : Side) : Transport (Terminal side) where
  read task room p := let (poll, l) := p.link.read side task room; (poll, ⟨l⟩)
  write task data p := let (poll, l) := p.link.write side task data; (poll, ⟨l⟩)
  flush _ p := (.ok (), p)
  close _ p := (.ok (), ⟨p.link.close side⟩)
  release p := ⟨p.link.drop side⟩

end WireScript.Rendezvous
