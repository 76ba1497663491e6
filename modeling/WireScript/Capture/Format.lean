import WireScript.Json.Document
import WireScript.Json.Record

set_option autoImplicit false

namespace WireScript.Capture

open Json (Document Reader)

inductive Format
  | fixture
  | json
deriving DecidableEq, Repr

namespace Format

def name : Format → String
  | .fixture => "Fixture"
  | .json => "Json"

def key : Format → String
  | .fixture => "fixture"
  | .json => "json"

def all : List Format := [.fixture, .json]

def document (f : Format) : Document := .text f.key

def read : Reader Format :=
  Reader.variant (all.map (fun f => (f.key, f)))

def lower (c : Char) : Char :=
  if 'A' ≤ c ∧ c ≤ 'Z' then Char.ofNat (c.toNat + 32) else c

def parse? (ignoreCase : Bool) (value : String) : Option Format :=
  let fold (text : String) : List Char :=
    if ignoreCase then text.toList.map lower else text.toList
  all.find? (fun f => fold f.key = fold value)

def refusal (value : String) : String := s!"invalid variant: {value}"

end Format

end WireScript.Capture
