import WireScript.Json.Document
import WireScript.Json.Record
import WireScript.Transcript.Coding

set_option autoImplicit false

namespace WireScript.Replay

open Json (Document Reader Record Refusal)

inductive Trailing
  | ignore
  | reject
deriving DecidableEq, Repr

structure Config where
  name : String
  trailing : Trailing
  timeout : Option Span
deriving DecidableEq, Repr

namespace Trailing

def name : Trailing → String
  | .ignore => "Ignore"
  | .reject => "Reject"

def key : Trailing → String
  | .ignore => "ignore"
  | .reject => "reject"

def document (t : Trailing) : Document := .text t.key

def read : Reader Trailing :=
  Reader.variant [(ignore.key, ignore), (reject.key, reject)]

end Trailing

namespace Config

def standard : Config := ⟨"script", .ignore, none⟩

def outline (c : Config) : Text.Outline :=
  .record "PlayerConfig"
    [("name", .atom (Text.quoted c.name)), ("trailing", .atom c.trailing.name),
     ("timeout",
      match c.timeout with
      | none => .atom "None"
      | some span => .wrapped "Some" span.outline)]

def document (c : Config) : Document :=
  .object
    [("name", .text c.name), ("trailing", c.trailing.document),
     ("timeout", (c.timeout.map Span.document).getD .null)]

structure Draft where
  name : Option String
  trailing : Option Trailing
  timeout : Option (Option Span)

def Draft.build (d : Draft) : Except Refusal Config := do
  let name ← Json.require "name" d.name
  let trailing ← Json.require "trailing" d.trailing
  .ok ⟨name, trailing, d.timeout.getD none⟩

def record : Record Draft Config where
  title := "struct PlayerConfig"
  listTitle := "struct PlayerConfig with 3 elements"
  fields :=
    [⟨"name", fun d => d.name.isSome, do
        let v ← Reader.text "a string" .ok
        pure (fun d => { d with name := some v })⟩,
     ⟨"trailing", fun d => d.trailing.isSome, do
        let v ← Trailing.read
        pure (fun d => { d with trailing := some v })⟩,
     ⟨"timeout", fun d => d.timeout.isSome, do
        let v ← Reader.option Span.read
        pure (fun d => { d with timeout := some v })⟩]
  blank := ⟨none, none, none⟩
  build := Draft.build
  strict := false
  padded := false

def read : Reader Config := record.read

end Config

end WireScript.Replay
