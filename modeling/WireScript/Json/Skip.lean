import WireScript.Json.Value

set_option autoImplicit false

namespace WireScript.Json.Skip

inductive Frame
  | list
  | object
deriving DecidableEq, Repr

inductive Digits
  | sign
  | zero
  | whole
  | point
  | fraction
  | mark
  | markSign
  | exponent
deriving DecidableEq, Repr

inductive Place
  | value
  | opened
  | closed
  | key
  | colon
  | string (isKey : Bool)
  | escape (isKey : Bool)
  | unit (isKey : Bool) (count : Nat)
  | word (rest : List Char)
  | number (seen : Digits)
deriving DecidableEq, Repr

inductive Move
  | go (place : Place) (stack : List Frame)
  | done
  | doneBefore
deriving DecidableEq, Repr

def settle : List Frame → Move
  | [] => .done
  | stack => .go .closed stack

def startValue (stack : List Frame) (c : Char) : Except Fault Move :=
  match c with
  | 'n' => .ok (.go (.word ['u', 'l', 'l']) stack)
  | 't' => .ok (.go (.word ['r', 'u', 'e']) stack)
  | 'f' => .ok (.go (.word ['a', 'l', 's', 'e']) stack)
  | '"' => .ok (.go (.string false) stack)
  | '[' => .ok (.go .opened (.list :: stack))
  | '\x7b' => .ok (.go .opened (.object :: stack))
  | '-' => .ok (.go (.number .sign) stack)
  | '0' => .ok (.go (.number .zero) stack)
  | c => if Text.isDigit c then .ok (.go (.number .whole) stack) else .error .malformed

def afterValue (stack : List Frame) (c : Char) : Except Fault Move :=
  if Reader.isSpace c then .ok (.go .closed stack)
  else
    match stack, c with
    | .list :: _, ',' => .ok (.go .value stack)
    | .object :: _, ',' => .ok (.go .key stack)
    | .list :: outer, ']' => .ok (settle outer)
    | .object :: outer, '\x7d' => .ok (settle outer)
    | _, _ => .error .malformed

def endNumber (stack : List Frame) (c : Char) : Except Fault Move :=
  if stack.isEmpty then .ok .doneBefore else afterValue stack c

def moreDigits (seen : Digits) (stack : List Frame) (c : Char) : Except Fault Move :=
  let digit := Text.isDigit c
  let marks := c == 'e' || c == 'E'
  let go (next : Digits) : Except Fault Move := .ok (.go (.number next) stack)
  match seen with
  | .sign => if c = '0' then go .zero else if digit then go .whole else .error .malformed
  | .zero =>
    if digit then .error .malformed
    else if c = '.' then go .point
    else if marks then go .mark
    else endNumber stack c
  | .whole =>
    if digit then go .whole
    else if c = '.' then go .point
    else if marks then go .mark
    else endNumber stack c
  | .point => if digit then go .fraction else .error .malformed
  | .fraction =>
    if digit then go .fraction else if marks then go .mark else endNumber stack c
  | .mark =>
    if digit then go .exponent
    else if c = '+' ∨ c = '-' then go .markSign
    else .error .malformed
  | .markSign => if digit then go .exponent else .error .malformed
  | .exponent => if digit then go .exponent else endNumber stack c

def step (place : Place) (stack : List Frame) (c : Char) (rest : List Char) :
    Except Fault Move :=
  match place with
  | .value => if Reader.isSpace c then .ok (.go .value stack) else startValue stack c
  | .opened =>
    if Reader.isSpace c then .ok (.go .opened stack)
    else
      match stack, c with
      | .list :: outer, ']' => .ok (settle outer)
      | .object :: outer, '\x7d' => .ok (settle outer)
      | .object :: _, '"' => .ok (.go (.string true) stack)
      | .object :: _, _ => .error .malformed
      | _, _ => startValue stack c
  | .closed => afterValue stack c
  | .key =>
    if Reader.isSpace c then .ok (.go .key stack)
    else if c = '"' then .ok (.go (.string true) stack)
    else .error .malformed
  | .colon =>
    if Reader.isSpace c then .ok (.go .colon stack)
    else if c = ':' then .ok (.go .value stack)
    else .error .malformed
  | .string isKey =>
    if c = '"' then .ok (if isKey then .go .colon stack else settle stack)
    else if c = '\\' then .ok (.go (.escape isKey) stack)
    else if c.toNat < 0x20 then .error .malformed
    else .ok (.go (.string isKey) stack)
  | .escape isKey =>
    if c = 'u' then
      if (Bytes.ofText (rest.take 4)).length < 4 then .error .truncated
      else .ok (.go (.unit isKey 3) stack)
    else if (Reader.shortEscape? c).isSome then .ok (.go (.string isKey) stack)
    else .error .malformed
  | .unit isKey count =>
    if (Text.hexValue? c).isNone then .error .malformed
    else
      match count with
      | 0 => .ok (.go (.string isKey) stack)
      | count + 1 => .ok (.go (.unit isKey count) stack)
  | .word [] => .error .malformed
  | .word [d] => if c = d then .ok (settle stack) else .error .malformed
  | .word (d :: more) => if c = d then .ok (.go (.word more) stack) else .error .malformed
  | .number seen => moreDigits seen stack c

def atEnd (place : Place) (stack : List Frame) : Except Fault (List Char) :=
  match place with
  | .number .sign | .number .point | .number .mark | .number .markSign => .error .malformed
  | .number _ => if stack.isEmpty then .ok [] else .error .truncated
  | _ => .error .truncated

def pass (place : Place) (stack : List Frame) : List Char → Except Fault (List Char)
  | [] => atEnd place stack
  | c :: rest =>
    match step place stack c rest with
    | .error e => .error e
    | .ok (.go place stack) => pass place stack rest
    | .ok .done => .ok rest
    | .ok .doneBefore => .ok (c :: rest)

end WireScript.Json.Skip

namespace WireScript.Json.Reader

def skip : Reader Unit := fun text =>
  (Skip.pass .value [] text).map (fun rest => ((), rest))

end WireScript.Json.Reader
