import WireScript.Wire.Transport

set_option autoImplicit false

namespace WireScript.Wire

structure Buffer where
  data : Bytes
  position : Nat
deriving DecidableEq, Repr

namespace Buffer

def ofData (data : Bytes) : Buffer := ⟨data, 0⟩

def read (room : Nat) (b : Buffer) : Poll Bytes × Buffer :=
  let found := (b.data.drop b.position).take room
  (.ok found, { b with position := b.position + found.length })

def write (data : Bytes) (b : Buffer) : Poll Nat × Buffer :=
  let finish := b.position + data.length
  (.ok data.length, ⟨b.data.take b.position ++ data ++ b.data.drop finish, finish⟩)

instance : Transport Buffer where
  read _ := read
  write _ := write
  flush _ b := (.ok (), b)
  close _ b := (.ok (), b)
  release := id

end Buffer

end WireScript.Wire
