import WireScript.Network.Address

set_option autoImplicit false

namespace WireScript.Network.Isolated

open Wire (Failure)

def unreachable : Failure := ⟨.other, some "Network is unreachable (os error 101)"⟩

def unavailable : Failure := ⟨.other, some "Cannot assign requested address (os error 99)"⟩

def unresolved : Failure :=
  ⟨.other, some "failed to lookup address information: Temporary failure in name resolution"⟩

def unnamed : Failure :=
  ⟨.other, some "failed to lookup address information: Name or service not known"⟩

def splitDots : List Char → List (List Char)
  | [] => [[]]
  | '.' :: rest => [] :: splitDots rest
  | c :: rest =>
    match splitDots rest with
    | [] => [[c]]
    | part :: more => (c :: part) :: more

def isQuad (host : List Char) : Bool :=
  let parts := splitDots host
  parts.length == 4 && parts.all (fun part =>
    part.all Text.isDigit && part.length ≤ 3 &&
      ((Address.number? part).map (fun n => decide (n < 256))).getD false)

def isNumeric (host : List Char) : Bool :=
  isQuad host ||
    (host.head? == some '[' && host.getLast? == some ']' &&
      ((host.drop 1).dropLast).all (fun c =>
        c == ':' || c == '.' || (Text.hexValue? c).isSome))

def isUnspecified (host : List Char) : Bool :=
  host == "0.0.0.0".toList || host == "[::]".toList

def resolve (address : Address) : Except Failure (List Char) :=
  if address.host.isEmpty then .error unnamed
  else if isNumeric address.host || address.host == "localhost".toList then .ok address.host
  else .error unresolved

def connect (text : String) : Failure :=
  match Address.parse text with
  | .error e => e
  | .ok address =>
    match resolve address with
    | .error e => e
    | .ok _ => unreachable

def listen (text : String) : Except Failure Unit := do
  let address ← Address.parse text
  let host ← resolve address
  if isUnspecified host then .ok () else .error unavailable

def loopback : String := "127.0.0.1:0"

end WireScript.Network.Isolated
