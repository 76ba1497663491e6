import WireScript.Wire.Transport

set_option autoImplicit false

namespace WireScript.Wire

inductive Reply (α : Type)
  | give (value : α)
  | wait
  | fail (e : Failure)
deriving DecidableEq, Repr

/-- A stream that answers from lists, one item for every poll. Once a list is used up, reads find
the end of the stream, writes take everything and flushes succeed. -/
structure Scripted where
  reads : List (Reply Bytes)
  writes : List (Reply Nat)
  flushes : List (Reply Unit)
  written : Bytes
  writeCalls : Nat
  flushCalls : Nat
deriving DecidableEq, Repr

namespace Scripted

def start (reads : List (Reply Bytes)) (writes : List (Reply Nat)) (flushes : List (Reply Unit)) :
    Scripted :=
  ⟨reads, writes, flushes, [], 0, 0⟩

def unread (s : Scripted) : Bytes :=
  s.reads.flatMap (fun r => match r with | .give data => data | _ => [])

def read (room : Nat) (s : Scripted) : Poll Bytes × Scripted :=
  match s.reads with
  | [] => (.ok [], s)
  | .wait :: rest => (.pending, { s with reads := rest })
  | .fail e :: rest => (.failed e, { s with reads := rest })
  | .give data :: rest =>
    if data.length ≤ room then (.ok data, { s with reads := rest })
    else (.ok (data.take room), { s with reads := .give (data.drop room) :: rest })

def take (n : Nat) (data : Bytes) (s : Scripted) : Poll Nat × Scripted :=
  let taken := data.take n
  (.ok taken.length, { s with written := s.written ++ taken })

def write (data : Bytes) (s : Scripted) : Poll Nat × Scripted :=
  let s := { s with writeCalls := s.writeCalls + 1 }
  match s.writes with
  | [] => s.take data.length data
  | .give n :: rest => { s with writes := rest }.take n data
  | .wait :: rest => (.pending, { s with writes := rest })
  | .fail e :: rest => (.failed e, { s with writes := rest })

def settle (s : Scripted) : Poll Unit × Scripted :=
  match s.flushes with
  | [] => (.ok (), s)
  | .give _ :: rest => (.ok (), { s with flushes := rest })
  | .wait :: rest => (.pending, { s with flushes := rest })
  | .fail e :: rest => (.failed e, { s with flushes := rest })

def flush (s : Scripted) : Poll Unit × Scripted :=
  { s with flushCalls := s.flushCalls + 1 }.settle

instance : Transport Scripted where
  read _ := read
  write _ := write
  flush _ := flush
  close _ := settle
  release := id

instance : LawfulTransport Scripted where
  length_read_le task room s s' data h := by
    simp only [Transport.read, read] at h
    split at h
    · obtain rfl : [] = data := by simpa [Poll.ok] using (Prod.mk.inj h).1
      exact Nat.zero_le room
    · simp at h
    · simp [Poll.failed] at h
    · split at h
      · rename_i fits
        obtain rfl := by simpa [Poll.ok] using (Prod.mk.inj h).1
        exact fits
      · obtain rfl := by simpa [Poll.ok] using (Prod.mk.inj h).1
        exact List.length_take_le _ _
  write_le task data s s' n h := by
    simp only [Transport.write, write, take] at h
    split at h
    · obtain rfl := by simpa [Poll.ok] using (Prod.mk.inj h).1
      exact Nat.le_refl _
    · obtain rfl := by simpa [Poll.ok] using (Prod.mk.inj h).1
      exact Nat.min_le_right _ _
    · simp at h
    · simp [Poll.failed] at h

end Scripted

end WireScript.Wire
