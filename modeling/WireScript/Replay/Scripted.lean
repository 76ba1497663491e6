import WireScript.Replay.Player
import WireScript.Wire.Scripted

set_option autoImplicit false

namespace WireScript.Replay

open Wire (Reply Scripted)

-- More steps than a replay over this stream can take: every poll uses up an item, takes bytes of
-- one, or finishes a call, and a segment makes no more than four steps beside its polls.
def stepLimit (t : Transcript) (s : Scripted) : Nat :=
  4 * (t.segments.length + 1) + s.reads.length + s.writes.length + s.flushes.length +
    s.unread.length + (t.segments.flatMap Segment.payload).length + 4

def runScripted (config : Config) (t : Transcript) (s : Scripted) : Verdict × Scripted :=
  match (Player.start .standard config t).run "player" (stepLimit t s) s with
  | (some verdict, s) => (verdict, s)
  | (none, s) => (.error ⟨config.name, t.length, .stream (.ofKind .wouldBlock)⟩, s)

end WireScript.Replay
