import WireScript.Capture.Format
import WireScript.Text.Outline
import WireScript.Text.Quoted

set_option autoImplicit false

namespace WireScript.Capture

open Json (Document Reader Record Refusal)

structure Config where
  enabled : Bool
  address : String
  format : Format
deriving DecidableEq, Repr

namespace Config

def defaultAddress : String := "127.0.0.1:10443"

def standard : Config := ⟨false, defaultAddress, .fixture⟩

def outline (c : Config) : Text.Outline :=
  .record "CaptureConfig"
    [("enabled", .atom (if c.enabled then "true" else "false")),
     ("addr", .atom (Text.quoted c.address)), ("format", .atom c.format.name)]

def document (c : Config) : Document :=
  .object
    [("enabled", .bool c.enabled), ("addr", .text c.address), ("format", c.format.document)]

structure Draft where
  enabled : Option Bool
  address : Option String
  format : Option Format

def Draft.build (d : Draft) : Except Refusal Config :=
  .ok ⟨d.enabled.getD standard.enabled, d.address.getD standard.address,
    d.format.getD standard.format⟩

def record : Record Draft Config where
  title := "struct CaptureConfig"
  listTitle := "struct CaptureConfig with 3 elements"
  fields :=
    [⟨"enabled", fun d => d.enabled.isSome, do
        let v ← Reader.bool "a boolean"
        pure (fun d => { d with enabled := some v })⟩,
     ⟨"addr", fun d => d.address.isSome, do
        let v ← Reader.text "a string" .ok
        pure (fun d => { d with address := some v })⟩,
     ⟨"format", fun d => d.format.isSome, do
        let v ← Format.read
        pure (fun d => { d with format := some v })⟩]
  blank := ⟨none, none, none⟩
  build := Draft.build
  strict := false
  padded := true

def read : Reader Config := record.read

end Config

end WireScript.Capture
