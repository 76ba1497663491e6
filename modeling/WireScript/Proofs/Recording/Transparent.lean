import WireScript.Proofs.Recording.Traffic
import WireScript.Recording.Station
import WireScript.Wire.Scripted

set_option autoImplicit false

namespace WireScript

def Event.entry (e : Event) : UInt64 × Flow × Bytes := (e.seq, e.flow, e.payload)

namespace Recording

open Wire (Act LawfulTransport Sight Scripted Task Transport)

/-- What can be done with a recorded stream: operations on it or on the stream underneath, and
draining its log, through the stream itself or through any handle of the log. -/
inductive Use
  | perform (act : Act) (task : Task)
  | performInner (act : Act) (task : Task)
  | drain
  | drainLog
deriving DecidableEq, Repr

structure Course (σ : Type) where
  station : Station σ
  shown : List Sight
  recorded : List (Act × Sight)
  batches : List (List Event)

namespace Course

variable {σ : Type} [Transport σ]

def start (inner : σ) : Course σ := ⟨.start inner, [], [], []⟩

def take (c : Course σ) : Use → Course σ
  | .perform act task =>
    let (sight, station) := c.station.perform act task
    ⟨station, c.shown ++ [sight], c.recorded ++ [(act, sight)], c.batches⟩
  | .performInner act task =>
    let (sight, station) := c.station.performInner act task
    { c with station := station, shown := c.shown ++ [sight] }
  | .drain =>
    let (events, station) := c.station.drain?
    { c with station := station, batches := c.batches ++ events.toList }
  | .drainLog =>
    let (events, station) := c.station.drainLog
    { c with station := station, batches := c.batches ++ [events] }

def run (c : Course σ) (uses : List Use) : Course σ := uses.foldl take c

/-- Everything that was ever logged, in the order in which it comes out. -/
def events (c : Course σ) : List Event := c.batches.flatten ++ c.station.tap.log.events

end Course

def bare {σ : Type} [Transport σ] (s : σ) : List Use → List Sight × σ
  | [] => ([], s)
  | .perform act task :: uses | .performInner act task :: uses =>
    let (sight, s) := act.perform task s
    let (sights, s) := bare s uses
    (sight :: sights, s)
  | .drain :: uses | .drainLog :: uses => bare s uses

/-- The transfer that an operation has completed, if any. -/
def transfer? : Act → Sight → Option (Flow × Bytes)
  | .read _, .data found => if found = [] then none else some (.received, found)
  | .write data, .count n => if n = 0 then none else some (.sent, data.take n)
  | _, _ => none

def transfers (made : List (Act × Sight)) : List (Flow × Bytes) :=
  made.filterMap (fun m => transfer? m.1 m.2)

def numbered (transfers : List (Flow × Bytes)) : List (UInt64 × Flow × Bytes) :=
  transfers.mapIdx (fun k t => (UInt64.ofNat k, t))

namespace Log

theorem note_of_admits {act : Act} {sight : Sight} (log : Log) (admits : act.Admits sight) :
    log.note act sight =
      match transfer? act sight with
      | none => log
      | some (flow, bytes) =>
        { log with
          next := log.next + 1
          events := log.events ++ [⟨log.next, flow, bytes, log.clock⟩] } := by
  cases act with
  | read room =>
    cases sight with
    | data found => by_cases nothing : found = [] <;> simp [note, record, transfer?, nothing]
    | _ => rfl
  | write data =>
    cases sight with
    | count n =>
      obtain ⟨data', same, short⟩ := admits
      obtain rfl : data = data' := by simpa using same
      -- A stream that has taken something was given something.
      by_cases zero : n = 0
      · simp [note, record, transfer?, zero]
      · have content : data.take n ≠ [] := by
          intro nothing
          have none : min n data.length = 0 := by simpa using congrArg List.length nothing
          omega
        simp only [note, record, transfer?, if_neg zero, if_neg content]
    | _ => rfl
  | _ => rfl

end Log

theorem numbered_concat (made : List (Flow × Bytes)) (t : Flow × Bytes) :
    numbered (made ++ [t]) = numbered made ++ [(UInt64.ofNat made.length, t)] := by
  simp [numbered]

theorem transfers_concat (made : List (Act × Sight)) (act : Act) (sight : Sight) :
    transfers (made ++ [(act, sight)]) = transfers made ++ (transfer? act sight).toList := by
  cases done : transfer? act sight <;> simp [transfers, done]

theorem bare_cons {σ : Type} [Transport σ] (s : σ) (use : Use) (uses : List Use) :
    bare s (use :: uses) =
      ((bare s [use]).1 ++ (bare (bare s [use]).2 uses).1, (bare (bare s [use]).2 uses).2) := by
  cases use <;> rfl

namespace Course

variable {σ : Type} [Transport σ] {c : Course σ}

structure Faithful (c : Course σ) : Prop where
  stage : c.station.stage = .recorded
  next : c.station.tap.log.next = UInt64.ofNat (transfers c.recorded).length
  events : c.events.map Event.entry = numbered (transfers c.recorded)
  admits : ∀ m ∈ c.recorded, m.1.Admits m.2

omit [Transport σ] in
theorem faithful_start (inner : σ) : (start inner).Faithful := ⟨rfl, rfl, rfl, by simp [start]⟩

theorem take_perform (stage : c.station.stage = .recorded) {act : Act} (stays : act ≠ .release)
    {task : Task} {sight : Sight} {inner : σ}
    (comes : act.perform task c.station.tap.inner = (sight, inner)) :
    c.take (.perform act task) =
      ⟨⟨⟨c.station.tap.log.note act sight, inner⟩, .recorded⟩, c.shown ++ [sight],
        c.recorded ++ [(act, sight)], c.batches⟩ := by
  simp [take, Station.perform, stage, Tap.perform_eq, stays, comes]

theorem take_performInner (stage : c.station.stage = .recorded) {act : Act} {task : Task}
    {sight : Sight} {inner : σ} (comes : act.perform task c.station.tap.inner = (sight, inner)) :
    c.take (.performInner act task) =
      ⟨⟨⟨c.station.tap.log, inner⟩, .recorded⟩, c.shown ++ [sight], c.recorded, c.batches⟩ := by
  simp [take, Station.performInner, stage, comes]

theorem take_drain (stage : c.station.stage = .recorded) : c.take .drain = c.take .drainLog := by
  simp [take, Station.drain?, stage]

theorem Faithful.bare_take (faithful : c.Faithful) {use : Use}
    (stays : ∀ task, use ≠ .perform .release task) :
    (c.take use).shown = c.shown ++ (bare c.station.tap.inner [use]).1 ∧
      (c.take use).station.tap.inner = (bare c.station.tap.inner [use]).2 := by
  cases use with
  | perform act task =>
    have other : act ≠ .release := by
      intro same
      exact stays task (by rw [same])
    rw [take_perform faithful.stage other rfl]
    exact ⟨rfl, rfl⟩
  | performInner act task =>
    rw [take_performInner faithful.stage rfl]
    exact ⟨rfl, rfl⟩
  | drain =>
    rw [take_drain faithful.stage]
    exact ⟨(List.append_nil _).symm, rfl⟩
  | drainLog => exact ⟨(List.append_nil _).symm, rfl⟩

theorem Faithful.perform [LawfulTransport σ] (faithful : c.Faithful) {act : Act}
    (stays : act ≠ .release) (task : Task) : (c.take (.perform act task)).Faithful := by
  have admits := act.admits_perform task c.station.tap.inner
  rcases comes : act.perform task c.station.tap.inner with ⟨sight, inner⟩
  rw [comes] at admits
  rw [take_perform faithful.stage stays comes]
  have noted := c.station.tap.log.note_of_admits admits
  have before := faithful.events
  simp only [Course.events] at before
  refine ⟨rfl, ?_, ?_, ?_⟩
  · simp only [noted, transfers_concat]
    cases transfer? act sight with
    | none => simpa using faithful.next
    | some t => simp [faithful.next, UInt64.ofNat_add]
  · simp only [Course.events, noted, transfers_concat]
    cases transfer? act sight with
    | none => simpa using before
    | some t =>
      simp only [Option.toList_some, numbered_concat, ← before, ← faithful.next]
      simp [Event.entry]
  · intro m member
    obtain old | new := List.mem_append.1 member
    · exact faithful.admits m old
    · obtain rfl : m = (act, sight) := by simpa using new
      exact admits

theorem Faithful.drainLog (faithful : c.Faithful) : (c.take .drainLog).Faithful := by
  refine ⟨faithful.stage, faithful.next, ?_, faithful.admits⟩
  have same : (c.take .drainLog).events = c.events := by
    simp [Course.take, Station.drainLog, Log.drain, Course.events]
  rw [same]
  exact faithful.events

theorem Faithful.take [LawfulTransport σ] (faithful : c.Faithful) {use : Use}
    (stays : ∀ task, use ≠ .perform .release task) : (c.take use).Faithful := by
  cases use with
  | perform act task =>
    apply faithful.perform
    intro same
    exact stays task (by rw [same])
  | performInner act task =>
    rw [take_performInner faithful.stage rfl]
    exact ⟨rfl, faithful.next, faithful.events, faithful.admits⟩
  | drain =>
    rw [take_drain faithful.stage]
    exact faithful.drainLog
  | drainLog => exact faithful.drainLog

theorem Faithful.run [LawfulTransport σ] (faithful : c.Faithful) {uses : List Use}
    (stays : ∀ task, .perform .release task ∉ uses) :
    (c.run uses).Faithful ∧ (c.run uses).shown = c.shown ++ (bare c.station.tap.inner uses).1 ∧
      (c.run uses).station.tap.inner = (bare c.station.tap.inner uses).2 := by
  induction uses generalizing c with
  | nil => exact ⟨faithful, (List.append_nil _).symm, rfl⟩
  | cons use uses ih =>
    simp only [List.mem_cons, not_or] at stays
    have first : ∀ task, use ≠ .perform .release task := fun task => Ne.symm (stays task).1
    obtain ⟨shown, inner⟩ := faithful.bare_take first
    have later := ih (faithful.take first) (fun task => (stays task).2)
    rw [bare_cons, ← List.append_assoc, ← shown, ← inner]
    exact later

/-- A recorded stream shows and does what the stream underneath would without a recorder, whatever
else is done to that and to the log; and what comes out of the log are the transfers that were
completed on the recorded stream, in order, with their bytes and numbered from zero. -/
theorem recorder_transparent_log_exact [LawfulTransport σ] (inner : σ) (uses : List Use)
    (stays : ∀ task, .perform .release task ∉ uses) :
    ((start inner).run uses).shown = (bare inner uses).1 ∧
    ((start inner).run uses).station.inner? = some (bare inner uses).2 ∧
    ((start inner).run uses).events.map Event.entry =
      numbered (transfers ((start inner).run uses).recorded) ∧
    ∀ data n, (.write data, .count n) ∈ ((start inner).run uses).recorded →
      (data.take n).length = n := by
  obtain ⟨faithful, shown, same⟩ := (faithful_start inner).run stays
  refine ⟨shown, ?_, faithful.events, ?_⟩
  · rw [Station.inner?, faithful.stage, same]
    rfl
  · intro data n member
    obtain ⟨data', written, short⟩ := faithful.admits _ member
    obtain rfl : data = data' := by simpa using written
    rw [List.length_take, Nat.min_eq_left short]

def sampleUses : List Use :=
  [.perform (.write [1, 2, 3]) "t", .drain, .perform (.read 2) "t", .performInner (.read 1) "t",
    .perform (.write [3]) "t", .drainLog, .drain, .perform (.write [3]) "t", .perform (.read 9) "t",
    .perform (.write [3]) "t", .perform .flush "t", .perform (.read 9) "t", .perform .close "t"]

def sampleStream : Scripted :=
  .start [.give [7, 8, 9], .fail (.ofKind .timedOut)] [.give 2, .give 0, .wait] []

theorem sample_recorded :
    (bare sampleStream sampleUses).1 =
      [.count 2, .data [7, 8], .data [9], .count 0, .pending, .failed (.ofKind .timedOut), .count 1,
        .done, .data [], .done] ∧
    ((start sampleStream).run sampleUses).shown = (bare sampleStream sampleUses).1 ∧
    ((start sampleStream).run sampleUses).station.inner? =
      some (bare sampleStream sampleUses).2 ∧
    ((start sampleStream).run sampleUses).events.map Event.entry =
      [(0, .sent, [1, 2]), (1, .received, [7, 8]), (2, .sent, [3])] := by
  have same := recorder_transparent_log_exact sampleStream sampleUses (by simp [sampleUses])
  refine ⟨by decide, same.1, same.2.1, ?_⟩
  rw [same.2.2.1]
  decide

end Course

end Recording

end WireScript
