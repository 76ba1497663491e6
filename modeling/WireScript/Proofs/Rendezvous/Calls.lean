import WireScript.Proofs.Rendezvous.History

set_option autoImplicit false

namespace WireScript.Rendezvous

open Wire (Act Sight Task Poll)

structure Call where
  data : Bytes
  /-- What was read, up to the first poll, since the first poll of the earliest of the calls of the
  same bytes that were given up right before this one. -/
  inherited : Bytes
  during : Bytes
deriving DecidableEq, Repr

inductive Beat
  | issue (data : Bytes) (task : Task)
  | again (task : Task)
  | read (room : Nat) (task : Task)
deriving DecidableEq, Repr

structure Errand where
  link : Link
  current : Option Call
  completed : List Call
deriving DecidableEq, Repr

namespace Errand

def start : Errand := ⟨.fresh, none, []⟩

-- The bytes of a call are all that ties it to an unfinished one before it.
def follow (previous : Option Call) (data : Bytes) : Call :=
  match previous with
  | none => ⟨data, [], []⟩
  | some c => ⟨data, if c.data = data then c.inherited ++ c.during else [], []⟩

def poll (side : Side) (e : Errand) (call : Call) (task : Task) : Errand :=
  let (seen, _, link) := e.link.perform ⟨side, .write call.data, task⟩
  match seen with
  | .pending => { e with link := link, current := some call }
  | .count _ => ⟨link, none, e.completed ++ [call]⟩
  | _ => { e with link := link, current := none }

def play (side : Side) (e : Errand) : Beat → Errand
  | .issue data task => e.poll side (follow e.current data) task
  | .again task =>
    match e.current with
    | none => e
    | some call => e.poll side call task
  | .read room task =>
    let (seen, _, link) := e.link.perform ⟨side.other, .read room, task⟩
    let found := (Act.read room).received seen
    { e with
      link := link
      current := e.current.map (fun c => { c with during := c.during ++ found }) }

def run (side : Side) (e : Errand) (beats : List Beat) : Errand := beats.foldl (play side) e

structure Attended (side : Side) (e : Errand) : Prop where
  there : ∀ any, e.link.isDropped any = false
  opened : (e.link.outbound side).writeClosed = false
  idle : e.current = none → (e.link.outbound side).offer = none
  offered : ∀ c, e.current = some c → ∃ o, (e.link.outbound side).offer = some o ∧
    o.data = c.data ∧ o.taken = c.inherited ++ c.during
  accounted : ∀ c ∈ e.completed, c.inherited ++ c.during = c.data

theorem attended_start (side : Side) : start.Attended side := by
  constructor
  · intro any
    cases any <;> rfl
  · cases side <;> rfl
  · cases side <;> simp [start, Link.fresh, Link.outbound, Pipe.fresh]
  · simp [start]
  · simp [start]

variable {side : Side} {e : Errand}

def Fits (p : Pipe) (call : Call) : Prop :=
  ((p.standing call.data).map Offer.taken).getD [] = call.inherited ++ call.during

theorem Attended.fits_current (attended : e.Attended side) {c : Call}
    (current : e.current = some c) : Fits (e.link.outbound side) c := by
  obtain ⟨o, offered, data, taken⟩ := attended.offered c current
  simp [Fits, (Pipe.standing_eq_some_iff _).2 ⟨offered, data⟩, taken]

theorem Attended.fits_follow (attended : e.Attended side) (data : Bytes) :
    Fits (e.link.outbound side) (follow e.current data) := by
  cases current : e.current with
  | none =>
    have free := attended.idle current
    simp [Fits, follow, Pipe.standing_free _ data free]
  | some c =>
    obtain ⟨o, offered, same, taken⟩ := attended.offered c current
    by_cases alike : c.data = data
    · have standing := (Pipe.standing_eq_some_iff _).2 ⟨offered, same.trans alike⟩
      simp [Fits, follow, standing, alike, taken]
    · have withdrawn : (e.link.outbound side).standing data = none := by
        rw [Pipe.standing_eq_none_iff]
        intro o' offered'
        obtain rfl := Option.some.inj (offered.symm.trans offered')
        rwa [same]
      simp [Fits, follow, withdrawn, alike]

theorem Fits.write {p : Pipe} {call : Call} (fits : Fits p call) (there : p.readClosed = false)
    (opened : p.writeClosed = false) (task : Task) (r : Pipe) :
    (sight task (.write call.data) p r = .pending ∧
      ∃ o, (p.afterWriter task (.write call.data)).offer = some o ∧ o.data = call.data ∧
        o.taken = call.inherited ++ call.during) ∨
    (∃ n, sight task (.write call.data) p r = .count n ∧
      (p.afterWriter task (.write call.data)).offer = none ∧
      call.inherited ++ call.during = call.data) := by
  -- A poll leaves the call waiting with its offer on the pipe, or done and the pipe free.
  obtain ⟨offered, write⟩ | ⟨-, shut, -⟩ | ⟨-, -, ⟨o, offered, data, -, write⟩ |
      ⟨other, nothing, write⟩ | ⟨other, -, write⟩⟩ := p.write_cases task call.data
  · have own := p.standing_eq_some_iff.2 ⟨offered, List.append_nil call.data⟩
    have whole : call.data = call.inherited ++ call.during := by simpa [Fits, own] using fits
    refine .inr ⟨call.data.length, ?_, by simp [Pipe.afterWriter, write], whole.symm⟩
    simp [sight, write, Sight.ofPoll, Poll.ok]
  · simp [there, opened] at shut
  · have own := p.standing_eq_some_iff.2 ⟨offered, data⟩
    have taken : o.taken = call.inherited ++ call.during := by simpa [Fits, own] using fits
    refine .inl ⟨by simp [sight, write, Sight.ofPoll], o, ?_, data, taken⟩
    simp [Pipe.afterWriter, write, offered]
  · have unread : [] = call.inherited ++ call.during := by simpa [Fits, other] using fits
    refine .inr ⟨0, by simp [sight, write, Sight.ofPoll, Poll.ok], ?_, ?_⟩
    · simp [Pipe.afterWriter, write]
    · rw [← unread, nothing]
  · have unread : [] = call.inherited ++ call.during := by simpa [Fits, other] using fits
    refine .inl ⟨by simp [sight, write, Sight.ofPoll], ⟨[], call.data⟩, ?_, rfl, unread⟩
    simp [Pipe.afterWriter, write]

theorem Attended.poll (attended : e.Attended side) {call : Call}
    (fits : Fits (e.link.outbound side) call) (task : Task) :
    (e.poll side call task).Attended side := by
  have there := attended.there side
  have seen := Link.sight_perform (m := ⟨side, .write call.data, task⟩) there
  have pipe := Link.outbound_perform (m := ⟨side, .write call.data, task⟩) there side
  have stays (any : Side) :
      (e.link.perform ⟨side, .write call.data, task⟩).2.2.isDropped any = false := by
    simp [Link.isDropped_perform, attended.there any]
  have opened : ((e.link.perform ⟨side, .write call.data, task⟩).2.2.outbound side).writeClosed =
      false := by simp [pipe, attended.opened]
  have present : (e.link.outbound side).readClosed = false := by
    simpa [Link.isDropped, Link.inbound] using attended.there side.other
  rw [if_pos rfl] at pipe
  simp only [Errand.poll]
  obtain ⟨waits, o, offered, data, taken⟩ | ⟨n, done, free, whole⟩ :=
    fits.write present attended.opened task (e.link.inbound side)
  · rw [seen.trans waits]
    refine ⟨stays, opened, by simp, ?_, attended.accounted⟩
    intro c current
    obtain rfl := Option.some.inj current
    exact ⟨o, pipe ▸ offered, data, taken⟩
  · rw [seen.trans done]
    refine ⟨stays, opened, fun _ => pipe ▸ free, by simp, ?_⟩
    intro c member
    obtain member | rfl := by simpa using member
    · exact attended.accounted c member
    · exact whole

theorem Attended.read (attended : e.Attended side) (room : Nat) (task : Task) :
    (e.play side (.read room task)).Attended side := by
  have there := attended.there side.other
  have seen := Link.sight_perform (m := ⟨side.other, .read room, task⟩) there
  have pipe := Link.outbound_perform (m := ⟨side.other, .read room, task⟩) there side
  rw [if_neg (Side.ne_other side).symm] at pipe
  simp only [play]
  constructor
  · intro any
    simp [Link.isDropped_perform, attended.there any]
  · simp [pipe, attended.opened]
  · intro idle
    have free := attended.idle (Option.map_eq_none_iff.1 idle)
    exact pipe ▸ Pipe.afterReader_free task free (.read room)
  · intro c current
    obtain ⟨before, earlier, rfl⟩ := Option.map_eq_some_iff.1 current
    obtain ⟨o, offered, same, taken⟩ := attended.offered before earlier
    obtain ⟨o', offered', same', taken'⟩ :=
      Pipe.afterReader_offered task offered (.read room) (e.link.outbound side.other)
    refine ⟨o', pipe ▸ offered', same'.trans same, ?_⟩
    rw [taken', taken, seen, List.append_assoc]
    cases side <;> rfl
  · exact attended.accounted

theorem Attended.play (attended : e.Attended side) (beat : Beat) :
    (e.play side beat).Attended side := by
  cases beat with
  | issue data task => exact attended.poll (attended.fits_follow data) task
  | again task =>
    cases current : e.current with
    | none => simpa [Errand.play, current] using attended
    | some call =>
      have polled := attended.poll (attended.fits_current current) task
      simpa [Errand.play, current] using polled
  | read room task => exact attended.read room task

theorem Attended.run (attended : e.Attended side) (beats : List Beat) :
    (e.run side beats).Attended side := by
  induction beats generalizing e with
  | nil => exact attended
  | cons beat beats ih => exact ih (attended.play beat)

/-- The bytes read while a call was made are its own, less those read before its first poll for
calls of the same bytes that were given up. They are all of its own if and only if there are none
such. -/
theorem answered_call_was_read (side : Side) (beats : List Beat) (call : Call)
    (answered : call ∈ (start.run side beats).completed) :
    call.inherited ++ call.during = call.data ∧
      (call.during = call.data ↔ call.inherited = []) := by
  have whole := ((attended_start side).run beats).accounted call answered
  refine ⟨whole, ?_⟩
  rw [← whole]
  exact ⟨fun same => List.self_eq_append_left.1 same, fun none => by rw [none, List.nil_append]⟩

theorem resumed_call_was_read :
    ⟨[1, 2], [1], [2]⟩ ∈ (start.run .a [.issue [1, 2] "a", .read 1 "b", .issue [1, 2] "a",
        .read 5 "b", .again "a"]).completed ∧
      ([1] ++ [2] : Bytes) = [1, 2] ∧ (([2] : Bytes) = [1, 2] ↔ ([1] : Bytes) = []) := by
  have answered : ⟨[1, 2], [1], [2]⟩ ∈ (start.run .a [.issue [1, 2] "a", .read 1 "b",
      .issue [1, 2] "a", .read 5 "b", .again "a"]).completed := by decide
  exact ⟨answered, answered_call_was_read .a _ _ answered⟩

theorem lookalike_call_answered_unread :
    ¬ ∀ call ∈ (start.run .a [.issue [1, 2] "a", .read 2 "b", .issue [1, 2] "a"]).completed,
      call.during = call.data := by
  decide

end Errand

end WireScript.Rendezvous
