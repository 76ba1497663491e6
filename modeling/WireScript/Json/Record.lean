import WireScript.Json.Skip

set_option autoImplicit false

namespace WireScript.Json

structure Field (δ : Type) where
  name : String
  isSet : δ → Bool
  read : Reader (δ → δ)

structure Record (δ α : Type) where
  title : String
  listTitle : String
  fields : List (Field δ)
  blank : δ
  build : δ → Except Refusal α
  strict : Bool
  padded : Bool

def require {α : Type} (name : String) : Option α → Except Refusal α
  | some value => .ok value
  | none => .error (.missingField name)

namespace Record

variable {δ α : Type}

def finish (r : Record δ α) (draft : δ) : Reader α :=
  match r.build draft with
  | .ok value => pure value
  | .error cause => Reader.refuse cause

def members (r : Record δ α) : (limit : Nat) → (first : Bool) → δ → Reader δ
  | 0, _, _ => Reader.truncated
  | limit + 1, first, draft => do
    match (← Reader.nextKey first) with
    | none => pure draft
    | some name =>
      match r.fields.find? (fun f => f.name == name) with
      | some f =>
        if f.isSet draft then Reader.refuse (.duplicateField name)
        else
          Reader.colon
          let put ← f.read
          r.members limit false (put draft)
      | none =>
        if r.strict then Reader.refuse (.unknownField name (r.fields.map Field.name))
        else
          Reader.colon
          Reader.skip
          r.members limit false draft

def entries (r : Record δ α) (index : Nat) : List (Field δ) → δ → Reader δ
  | [], draft => pure draft
  | f :: rest, draft => do
    if (← Reader.hasElement (index == 0)) then
      let put ← f.read
      r.entries (index + 1) rest (put draft)
    else if r.padded then pure draft
    else Reader.refuse (.length index r.listTitle)

def read (r : Record δ α) : Reader α := do
  match (← Reader.peek) with
  | none => Reader.truncated
  | some '[' =>
    Reader.drop
    let value ← r.finish (← r.entries 0 r.fields r.blank)
    Reader.endList
    pure value
  | some '\x7b' =>
    Reader.drop
    let value ← r.finish (← r.members ((← get).length + 1) true r.blank)
    Reader.drop
    pure value
  | some c => Reader.other c r.title

end Record

end WireScript.Json
