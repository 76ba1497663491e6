import WireScript.Proofs.Party.Traffic
import WireScript.Proofs.Rendezvous.Pipe
import WireScript.Rendezvous.History
import WireScript.Session.Run

set_option autoImplicit false

namespace WireScript.Session

open Party (Actor Plan)
open Rendezvous (Link Pipe Side sight)
open Wire (Act Sight Task)

structure Encounter where
  iut : Member
  link : Link

inductive Beat
  | iut
  | peer (act : Act) (task : Task)
deriving DecidableEq, Repr

namespace Encounter

def start (plan : Plan) : Encounter := ⟨.start plan, .fresh⟩

def play (side : Side) (e : Encounter) : Beat → Encounter
  | .iut =>
    if e.iut.ending.isSome then e
    else
      let (_, iut, link) := Run.stepMember side 0 Party.timersPerTurn e.iut e.link
      ⟨iut, link⟩
  | .peer act task => { e with link := (e.link.perform ⟨side.other, act, task⟩).2.2 }

def run (side : Side) (e : Encounter) (beats : List Beat) : Encounter := beats.foldl (play side) e

def transcript (e : Encounter) : Transcript := .ofEvents .iut e.iut.log.drain.1

abbrev turn (e : Encounter) : Wire.Turn (Party.Status × Actor) :=
  e.iut.actor.turn 0 Party.timersPerTurn

variable (side : Side) {e : Encounter}

theorem play_iut_ended (ended : e.iut.ending.isSome) : e.play side .iut = e := by
  simp [play, ended]

theorem play_iut_still (going : e.iut.ending = none) {result : Party.Status × Actor}
    (turn : e.turn = .still result) :
    (e.play side .iut).iut.actor = result.2 ∧ (e.play side .iut).iut.log = e.iut.log ∧
      (e.play side .iut).iut.ending = result.1.ending? ∧ (e.play side .iut).link = e.link := by
  unfold Encounter.turn at turn
  simp only [play, going, Option.isSome_none, Bool.false_eq_true, if_false, Run.stepMember,
    Actor.step_eq_run_turn, turn, Wire.Turn.run, true_and, and_true]
  cases result.1 <;> rfl

theorem play_iut_asking (going : e.iut.ending = none) {act : Act}
    {next : Sight → Party.Status × Actor} (turn : e.turn = .asking act next) :
    ∃ shows, shows = sight Run.task act (e.link.outbound side) (e.link.inbound side) ∧
      (e.play side .iut).iut.actor = (next shows).2 ∧
      (e.play side .iut).iut.log = e.iut.log.note act shows ∧
      (e.play side .iut).iut.ending = (next shows).1.ending? ∧
      (e.play side .iut).link.outbound side = (e.link.outbound side).afterWriter Run.task act := by
  refine ⟨_, rfl, ?_⟩
  unfold Encounter.turn at turn
  simp only [play, going, Option.isSome_none, Bool.false_eq_true, if_false, Run.stepMember,
    Actor.step_eq_run_turn, turn, Wire.Turn.run, Recording.Tap.perform_eq,
    Rendezvous.perform_sight, Rendezvous.outbound_perform, true_and, and_true]
  cases (next (sight Run.task act (e.link.outbound side) (e.link.inbound side))).1 <;> rfl

theorem outbound_play_peer (act : Act) (task : Task) :
    (e.play side (.peer act task)).link.outbound side = e.link.outbound side ∨
      (e.play side (.peer act task)).link.outbound side =
        (e.link.outbound side).afterReader task act := by
  -- Whatever the peer does, to the pipe that the implementation writes it is the reader.
  by_cases gone : e.link.isDropped side.other
  · simp [play, Link.perform, gone]
  · right
    simp only [play, Link.perform, gone, Bool.false_eq_true, if_false]
    cases side
    · exact Rendezvous.inbound_perform task act .b e.link
    · exact Rendezvous.inbound_perform task act .a e.link

variable {side}

structure Ready (side : Side) (e : Encounter) : Prop where
  steady : e.iut.ending = none → e.iut.actor.Steady ∧ e.iut.actor.plan.Halting
  kept : e.iut.ending = none → (e.link.outbound side).Kept e.turn.asks ∨ e.iut.actor.Halted
  ended : e.iut.ending ≠ none → e.iut.actor.Halted

theorem ready_start (side : Side) {plan : Plan} (sequential : plan.Sequential)
    (halting : plan.Halting) : (start plan).Ready side where
  steady _ := ⟨Actor.steady_start sequential, halting⟩
  kept _ := .inl (Pipe.Kept.of_free (by cases side <;> rfl) _)
  ended absent := absurd rfl absent

theorem Ready.play_peer (ready : e.Ready side) (act : Act) (task : Task) :
    (e.play side (.peer act task)).Ready side where
  steady := ready.steady
  kept going := by
    obtain kept | halted := ready.kept going
    · left
      obtain same | reads := outbound_play_peer (e := e) side act task
      · rw [same]
        exact kept
      · rw [reads]
        exact kept.afterReader task act
    · exact .inr halted
  ended := ready.ended

theorem Ready.kept_asking (ready : e.Ready side) (going : e.iut.ending = none) {act : Act}
    (asked : e.turn.asks = some act) (stays : act ≠ .release) :
    (e.link.outbound side).Kept (some act) := by
  obtain kept | halted := ready.kept going
  · rwa [asked] at kept
  · have leaves := halted.asks (ready.steady going).1 0 Party.timersPerTurn
    exact absurd (Option.some.inj (asked.symm.trans leaves)) stays

theorem Ready.play_iut_still (ready : e.Ready side) (going : e.iut.ending = none)
    {result : Party.Status × Actor} (turn : e.turn = .still result) :
    (e.play side .iut).Ready side := by
  obtain ⟨steady, halting⟩ := ready.steady going
  obtain ⟨actor, -, ending, link⟩ := Encounter.play_iut_still side going turn
  have can : e.turn.Can result := by rw [turn]; rfl
  have free : (e.link.outbound side).offer = none := by
    obtain kept | halted := ready.kept going
    · exact kept.free (by simp [turn, Wire.Turn.asks])
    · have leaves := halted.asks steady 0 Party.timersPerTurn
      rw [show e.iut.actor.turn 0 Party.timersPerTurn = .still result from turn] at leaves
      simp [Wire.Turn.asks] at leaves
  obtain ⟨leaves, -⟩ | ⟨-, onward, steady'⟩ := steady.step can
  · simp [turn, Wire.Turn.asks] at leaves
  · exact {
      steady := fun _ => by rw [actor]; exact ⟨steady', steady.plan_eq can ▸ halting⟩
      kept := fun _ => .inl (.of_free (by rw [link]; exact free) _)
      ended := by simp [ending, onward] }

theorem Ready.play_iut_asking (ready : e.Ready side) (going : e.iut.ending = none) {act : Act}
    {next : Sight → Party.Status × Actor} (turn : e.turn = .asking act next) :
    (e.play side .iut).Ready side := by
  obtain ⟨steady, halting⟩ := ready.steady going
  obtain ⟨shows, shown, actor, -, ending, outbound⟩ := Encounter.play_iut_asking side going turn
  have asked : e.turn.asks = some act := by rw [turn]; rfl
  have can : e.turn.Can (next shows) := by
    rw [turn, shown]
    exact ⟨_, Rendezvous.admits_sight _ act _ _, rfl⟩
  obtain ⟨leaves, how, through⟩ | ⟨stays, onward, steady'⟩ := steady.step can
  · obtain rfl : act = .release := by simpa [asked] using leaves
    have present : (e.play side .iut).iut.ending ≠ none := by
      simp [ending, through, Party.Status.ending?]
    exact {
      steady := fun going => absurd going present
      kept := fun going => absurd going present
      ended := fun _ => by rw [actor]; exact (steady.halted_of_release turn shows).2 }
  · have stays : act ≠ .release := by simpa [asked] using stays
    have kept := ready.kept_asking going asked stays
    refine {
      steady := fun _ => by rw [actor]; exact ⟨steady', steady.plan_eq can ▸ halting⟩
      kept := fun _ => ?_
      ended := by simp [ending, onward] }
    rw [outbound, Encounter.turn, actor]
    have proper := steady.asks asked
    by_cases waits : shows = .pending
    · rw [waits, steady.next_pending turn stays]
      left
      rw [show (e.iut.actor.turn 0 Party.timersPerTurn).asks = some act from asked]
      exact kept.waiting Run.task proper (shown ▸ waits)
    · -- Only a failure can leave the offer behind, and that ends the implementation.
      by_cases failed : ∃ e, shows = .failed e
      · obtain ⟨e, rfl⟩ := failed
        exact .inr (steady.halted_of_failed halting turn stays e)
      · left
        apply Pipe.Kept.of_free
        apply kept.moved Run.task proper (shown ▸ waits)
        exact .inr fun e fails => failed ⟨e, shown.trans fails⟩

theorem Ready.play_iut (ready : e.Ready side) (going : e.iut.ending = none) :
    (e.play side .iut).Ready side := by
  cases turn : e.turn with
  | still result => exact ready.play_iut_still going turn
  | asking act next => exact ready.play_iut_asking going turn

theorem Ready.traffic_play_iut (ready : e.Ready side) (going : e.iut.ending = none) :
    ∃ now, (e.play side .iut).iut.log.traffic .iut = e.iut.log.traffic .iut ++ now ∧
      ∀ later, (e.play side .iut).iut.actor.Yields
          ((e.play side .iut).link.outbound side).writeClosed later →
        e.iut.actor.Yields (e.link.outbound side).writeClosed (now ++ later) := by
  obtain ⟨steady, halting⟩ := ready.steady going
  cases turn : e.turn with
  | still result =>
    obtain ⟨actor, log, -, link⟩ := Encounter.play_iut_still side going turn
    refine ⟨[], by rw [log, List.append_nil], ?_⟩
    intro later yields
    rw [actor, link] at yields
    exact yields.before_still steady halting turn
  | asking act next =>
    obtain ⟨shows, shown, actor, log, -, outbound⟩ := Encounter.play_iut_asking side going turn
    refine ⟨Recording.carried .iut act shows, by rw [log, Recording.Log.traffic_note], ?_⟩
    intro later yields
    rw [actor, outbound, Pipe.afterWriter_writeClosed] at yields
    have asked : e.turn.asks = some act := by rw [turn]; rfl
    by_cases leaves : act = .release
    · subst leaves
      obtain ⟨halted, halted'⟩ := steady.halted_of_release turn shows
      rw [halted'.yields] at yields
      rw [halted.yields, yields]
      rfl
    · simp only [leaves, decide_false, Bool.or_false] at yields
      by_cases waits : shows = .pending
      · -- Only reads and writes ever have to wait, so that nothing has been closed.
        have opens : act ≠ .close := by
          rintro rfl
          simp [shown, sight] at waits
        rw [waits, steady.next_pending turn leaves] at yields
        simpa [waits, opens] using yields
      · refine yields.before_asking steady halting turn ?_ waits ?_
        · rw [shown]
          exact Rendezvous.admits_sight _ act _ _
        · intro data n write done
          subst write
          have kept := ready.kept_asking going asked leaves
          exact (kept.write_whole Run.task (steady.asks asked) (shown ▸ done)).2

theorem Ready.traffic_run (ready : e.Ready side) (beats : List Beat) :
    ∃ more, (e.run side beats).iut.log.traffic .iut = e.iut.log.traffic .iut ++ more ∧
      e.iut.actor.Yields (e.link.outbound side).writeClosed more := by
  -- From the first beat on, so that what comes later is put behind what the first beat adds.
  induction beats generalizing e with
  | nil =>
    refine ⟨[], (List.append_nil _).symm, ?_⟩
    cases ending : e.iut.ending with
    | none => exact (ready.steady ending).1.yields_nothing
    | some how => exact (ready.ended (by simp [ending])).yields.2 rfl
  | cons beat beats ih =>
    cases beat with
    | peer act task =>
      obtain ⟨more, grown, yields⟩ := ih (ready.play_peer act task)
      refine ⟨more, grown, ?_⟩
      have closed : ((e.play side (.peer act task)).link.outbound side).writeClosed =
          (e.link.outbound side).writeClosed := by
        obtain same | reads := outbound_play_peer (e := e) side act task
        · rw [same]
        · rw [reads, Pipe.afterReader_writeClosed]
      rwa [closed] at yields
    | iut =>
      cases ending : e.iut.ending with
      | some how =>
        have same : e.play side .iut = e := play_iut_ended side (by simp [ending])
        simpa [run, same] using ih ready
      | none =>
        obtain ⟨more, grown, yields⟩ := ih (ready.play_iut ending)
        obtain ⟨now, added, before⟩ := ready.traffic_play_iut ending
        refine ⟨now ++ more, ?_, before more yields⟩
        rw [← List.append_assoc, ← added]
        exact grown

theorem emits_transcript (side : Side) {plan : Plan} (sequential : plan.Sequential)
    (halting : plan.Halting) (beats : List Beat) :
    plan.Emits [] false
      (Transcript.streamOf ((start plan).run side beats).transcript.segments) := by
  obtain ⟨more, grown, yields⟩ := (ready_start side sequential halting).traffic_run beats
  have recorded : Transcript.streamOf ((start plan).run side beats).transcript.segments = more := by
    rw [transcript, Recording.Log.traffic_ofEvents_drain, grown]
    rfl
  rw [recorded]
  have opened : ((start plan).link.outbound side).writeClosed = false := by cases side <;> rfl
  rw [opened] at yields
  exact (Actor.yields_idle rfl).1 yields

end Encounter

end WireScript.Session
