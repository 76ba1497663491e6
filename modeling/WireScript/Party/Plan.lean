import WireScript.Wire.Call

set_option autoImplicit false

namespace WireScript.Party

open Wire (Failure Growth)

inductive Step
  | write (data : Bytes)
  | writeAll (data : Bytes)
  | tryWrite (data : Bytes)
  | read (room : Nat)
  | readExact (count : Nat)
  | readToEnd (growth : Growth)
  | echo (count : Nat)
  | flush
  | close
  | drop
  | pause
  | sleep (millis : Nat)
  | hang
  | panic (text : String)
  | fail (text : String)

inductive Entry
  | count (n : Nat)
  | data (bytes : Bytes)
  | done
  | cancelled
  | dropped
  | gone
  | failed (e : Failure)
deriving DecidableEq, Repr

def Entry.isFailure : Entry → Bool
  | .failed _ => true
  | _ => false

inductive Choice
  | go (step : Step)
  | quit (failure : Option Failure)

/-- What a party does next, given all that its log says so far. There need be no end to it. -/
structure Plan where
  choose : List Entry → Choice

namespace Plan

def lastFailure (entries : List Entry) : Option Failure :=
  match entries.getLast? with
  | some (.failed e) => some e
  | _ => none

/-- The steps of a list, in order. The first failure ends it, unless the party is to keep going. -/
def ofSteps (keepGoing : Bool) (steps : List Step) : Plan where
  choose entries :=
    if entries.any Entry.isFailure && !keepGoing then .quit (lastFailure entries)
    else
      match steps[entries.length]? with
      | some step => .go step
      | none => .quit (lastFailure entries)

end Plan

def Step.payload : Step → Bytes
  | .write data | .writeAll data | .tryWrite data => data
  | _ => []

end WireScript.Party
