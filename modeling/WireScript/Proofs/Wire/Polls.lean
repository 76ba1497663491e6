import WireScript.Proofs.Turn

set_option autoImplicit false

namespace WireScript.Wire

def Act.fault? : Act → Sight → Option Failure
  | _, .failed e => some e
  | .write _, .count 0 => some (.ofKind .writeZero)
  | _, _ => none

-- An operation comes to the same before and after a change to the stream.
def Act.Passes {σ τ : Type} [Transport σ] [Transport τ] (act : Act) (task : Task) (f : σ → τ)
    (s : σ) : Prop :=
  act.perform task (f s) = ((act.perform task s).1, f (act.perform task s).2)

abbrev Polls := List (Act × Sight)

namespace Polls

def written (polls : Polls) : Bytes :=
  polls.flatMap (fun poll => poll.1.sent poll.2)

def received (polls : Polls) : Bytes :=
  polls.flatMap (fun poll => poll.1.received poll.2)

def faults (polls : Polls) : List Failure :=
  polls.filterMap (fun poll => poll.1.fault? poll.2)

def found (polls : Polls) : List Bytes :=
  polls.filterMap (fun
    | (.read _, .data found) => some found
    | _ => none)

def Ended (polls : Polls) : Prop := polls.found.getLast? = some []

@[simp] theorem written_nil : written [] = [] := rfl

@[simp] theorem written_cons (act : Act) (sight : Sight) (polls : Polls) :
    written ((act, sight) :: polls) = act.sent sight ++ polls.written := rfl

theorem written_append (polls more : Polls) :
    written (polls ++ more) = polls.written ++ more.written := List.flatMap_append

@[simp] theorem received_nil : received [] = [] := rfl

@[simp] theorem received_cons (act : Act) (sight : Sight) (polls : Polls) :
    received ((act, sight) :: polls) = act.received sight ++ polls.received := rfl

theorem received_append (polls more : Polls) :
    received (polls ++ more) = polls.received ++ more.received := List.flatMap_append

theorem faults_append (polls more : Polls) :
    faults (polls ++ more) = polls.faults ++ more.faults := List.filterMap_append

theorem found_append (polls more : Polls) :
    found (polls ++ more) = polls.found ++ more.found := List.filterMap_append

variable {σ : Type} [Transport σ] {task : Task}

def Made (task : Task) : Polls → σ → σ → Prop
  | [], s, s' => s = s'
  | (act, sight) :: polls, s, s' =>
    ∃ s₁, act.perform task s = (sight, s₁) ∧ Made task polls s₁ s'

theorem Made.append {polls more : Polls} {s s₁ s' : σ} (first : Made task polls s s₁)
    (second : Made task more s₁ s') : Made task (polls ++ more) s s' := by
  induction polls generalizing s with
  | nil =>
    obtain rfl := first
    exact second
  | cons poll polls ih =>
    obtain ⟨s₂, performed, later⟩ := first
    exact ⟨s₂, performed, ih later⟩

end Polls

namespace Turn

variable {α σ : Type} [Transport σ] (task : Task) (s : σ)

def poll : Turn α → Polls
  | .still _ => []
  | .asking act _ => [(act, (act.perform task s).1)]

theorem made_poll (turn : Turn α) : (turn.poll task s).Made task s (turn.run task s).2 := by
  cases turn with
  | still value => rfl
  | asking act next => exact ⟨_, rfl, rfl⟩

end Turn

/-- A stream that keeps an account of the operations made on it. -/
structure Watched (σ : Type) where
  stream : σ
  polls : Polls

namespace Watched

variable {σ : Type}

def fresh (stream : σ) : Watched σ := ⟨stream, []⟩

def ask {α : Type} (act : Act) (reveal : α → Sight) (operation : σ → Poll α × σ) (w : Watched σ) :
    Poll α × Watched σ :=
  let (poll, stream) := operation w.stream
  (poll, ⟨stream, w.polls ++ [(act, Sight.ofPoll reveal poll)]⟩)

variable [Transport σ]

instance : Transport (Watched σ) where
  read task room := ask (.read room) .data (Transport.read task room)
  write task data := ask (.write data) .count (Transport.write task data)
  flush task := ask .flush (fun _ => .done) (Transport.flush task)
  close task := ask .close (fun _ => .done) (Transport.close task)
  release w := ⟨Transport.release w.stream, w.polls ++ [(.release, .released)]⟩

theorem perform_eq (act : Act) (task : Task) (w : Watched σ) :
    act.perform task w =
      ((act.perform task w.stream).1,
        ⟨(act.perform task w.stream).2, w.polls ++ [(act, (act.perform task w.stream).1)]⟩) := by
  cases act <;> rfl

theorem passes_stream (act : Act) (task : Task) (w : Watched σ) :
    act.Passes task stream w := by
  rw [Act.Passes, perform_eq]

theorem polls_of_made {task : Task} {polls : Polls} {w w' : Watched σ}
    (made : polls.Made task w w') : w'.polls = w.polls ++ polls := by
  induction polls generalizing w with
  | nil =>
    obtain rfl : w = w' := made
    exact (List.append_nil _).symm
  | cons poll polls ih =>
    obtain ⟨act, sight⟩ := poll
    obtain ⟨w₁, performed, later⟩ := made
    rw [perform_eq] at performed
    obtain ⟨rfl, rfl⟩ := Prod.mk.inj performed
    rw [ih later, List.append_assoc]
    rfl

end Watched

end WireScript.Wire
