import WireScript.Wire.Transport

set_option autoImplicit false

namespace WireScript.Rendezvous

open Wire (Task Poll Failure)

/-- The bytes of a write: those the reader has taken, then those still unread. -/
structure Offer where
  taken : Bytes
  unread : Bytes
deriving DecidableEq, Repr

def Offer.data (o : Offer) : Bytes := o.taken ++ o.unread

structure Pipe where
  offer : Option Offer
  writeClosed : Bool
  readClosed : Bool
  reader : Option Task
  writer : Option Task
deriving DecidableEq, Repr

namespace Pipe

def fresh : Pipe := ⟨none, false, false, none, none⟩

def available (p : Pipe) : Bytes :=
  match p.offer with
  | none => []
  | some o => o.unread

def wakeReader (p : Pipe) : List Task × Pipe := (p.reader.toList, { p with reader := none })

def wakeWriter (p : Pipe) : List Task × Pipe := (p.writer.toList, { p with writer := none })

def read (task : Task) (room : Nat) (p : Pipe) : Poll Bytes × List Task × Pipe :=
  if room = 0 then (.ok [], [], p)
  else
    match p.offer with
    | some ⟨taken, b :: unread⟩ =>
      let found := (b :: unread).take room
      let left := (b :: unread).drop room
      let p := { p with offer := some ⟨taken ++ found, left⟩ }
      if left = [] then (.ok found, p.wakeWriter) else (.ok found, [], p)
    | _ =>
      if p.writeClosed then (.ok [], [], p)
      else (.pending, [], { p with reader := some task })

def readerGone : Failure := ⟨.brokenPipe, some "duplex peer closed its end"⟩

def writerClosed : Failure := ⟨.brokenPipe, some "write after close"⟩

/-- The standing offer when `data` is to be written: that of another write is withdrawn. -/
def standing (p : Pipe) (data : Bytes) : Option Offer :=
  p.offer.filter (fun o => o.data = data)

def write (task : Task) (data : Bytes) (p : Pipe) : Poll Nat × List Task × Pipe :=
  match p.standing data with
  | some ⟨taken, []⟩ => (.ok taken.length, [], { p with offer := none })
  | some o =>
    if p.readClosed then (.failed readerGone, [], p)
    else if p.writeClosed then (.failed writerClosed, [], p)
    else (.pending, [], { p with offer := some o, writer := some task })
  | none =>
    let p := { p with offer := none }
    if p.readClosed then (.failed readerGone, [], p)
    else if p.writeClosed then (.failed writerClosed, [], p)
    else if data = [] then (.ok 0, [], p)
    else
      let (woken, p) := { p with offer := some ⟨[], data⟩ }.wakeReader
      (.pending, woken, { p with writer := some task })

def closeWrite (p : Pipe) : List Task × Pipe := { p with writeClosed := true }.wakeReader

def closeRead (p : Pipe) : List Task × Pipe := { p with readClosed := true }.wakeWriter

end Pipe

end WireScript.Rendezvous
