set_option autoImplicit false

namespace WireScript

/-- The direction of bytes as the implementation under test has it. -/
inductive Direction
  | fromIut
  | toIut
deriving DecidableEq, Repr

/-- The direction of a transfer as the recording end has it. -/
inductive Flow
  | sent
  | received
deriving DecidableEq, Repr

/-- The end at which a recording was taken. -/
inductive Perspective
  | iut
  | peer
deriving DecidableEq, Repr

namespace Direction

def flip : Direction → Direction
  | .fromIut => .toIut
  | .toIut => .fromIut

def phrase : Direction → String
  | .fromIut => "from iut"
  | .toIut => "to iut"

def name : Direction → String
  | .fromIut => "FromIut"
  | .toIut => "ToIut"

def key : Direction → String
  | .fromIut => "from_iut"
  | .toIut => "to_iut"

@[simp] theorem flip_flip (d : Direction) : d.flip.flip = d := by cases d <;> rfl

theorem flip_ne (d : Direction) : d.flip ≠ d := by cases d <;> decide

end Direction

namespace Flow

def phrase : Flow → String
  | .sent => "sent"
  | .received => "received"

def name : Flow → String
  | .sent => "Sent"
  | .received => "Received"

def key : Flow → String := phrase

end Flow

namespace Perspective

def direction : Perspective → Flow → Direction
  | .iut, .sent => .fromIut
  | .peer, .received => .fromIut
  | .iut, .received => .toIut
  | .peer, .sent => .toIut

def name : Perspective → String
  | .iut => "Iut"
  | .peer => "Peer"

def key : Perspective → String
  | .iut => "iut"
  | .peer => "peer"

theorem direction_peer (f : Flow) : peer.direction f = (iut.direction f).flip := by
  cases f <;> rfl

end Perspective

end WireScript
