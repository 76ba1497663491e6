import WireScript.Capture.Format
import WireScript.Capture.Sink
import WireScript.Fixture.Text
import WireScript.Transcript.Coding

set_option autoImplicit false

namespace WireScript.Capture

open Wire (Failure)

def pieces (t : Transcript) : Format → List Bytes
  | .fixture => [Bytes.ofText (Fixture.render t)]
  | .json => (t.document.pieces 0).map Bytes.ofText ++ [Bytes.ofText ['\n']]

variable {σ : Type} [Sink σ]

def writeTranscript (t : Transcript) (format : Format) (s : σ) : Except Failure Unit × σ :=
  match Sink.writePieces (pieces t format) s with
  | (.error e, s) => (.error e, s)
  | (.ok _, s) =>
    match format with
    | .fixture => Sink.flush s
    | .json => (.ok (), s)

end WireScript.Capture
