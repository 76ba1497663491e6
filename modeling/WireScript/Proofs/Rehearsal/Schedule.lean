import WireScript.Proofs.Rehearsal.Scene
import WireScript.Proofs.Rendezvous.Commute

set_option autoImplicit false

namespace WireScript.Rehearsal

open Party (Actor Ending Plan)
open Rendezvous (Link Offer Pipe sight)
open Replay (Player Trailing Verdict)
open Wire (Act Growth Sight)

namespace Scene

abbrev Outlook :=
  Verdict ⊕ (Player × Actor × Option Ending × (Option Offer × Bool × Bool) ×
    (Option Offer × Bool × Bool))

def look (part : Player ⊕ Verdict) (iut : Actor) (ending : Option Ending) (forth back : Pipe) :
    Outlook :=
  match part with
  | .inr verdict => .inl verdict
  | .inl player => .inr (player, iut, ending, forth.outlook, back.outlook)

def outlook (s : Scene) : Outlook := look s.part s.iut s.ending s.link.forth s.link.back

theorem outlook_of_gist {s s' : Scene} (same : s.gist = s'.gist) : s.outlook = s'.outlook := by
  simp only [gist, Prod.mk.injEq] at same
  simp [outlook, look, Pipe.outlook, same]

theorem verdict?_eq_getLeft? (s : Scene) : s.verdict? = s.outlook.getLeft? := by
  rcases s with ⟨_ | _, _, _, _⟩ <;> rfl

theorem look_congr {part : Player ⊕ Verdict} {iut : Actor} {ending : Option Ending}
    {f f' b b' : Pipe} (forth : f.outlook = f'.outlook) (back : b.outlook = b'.outlook) :
    look part iut ending f b = look part iut ending f' b' := by
  simp [look, forth, back]

theorem outlook_withPlayer (s : Scene) (status : Replay.Status) (link : Link) :
    (s.withPlayer status link).outlook =
      look status.part s.iut s.ending link.forth link.back := by
  unfold withPlayer
  split
  · rename_i left
    simp [outlook, left]
  · rename_i left
    simp [outlook, look, left]

theorem outlook_withIut (s : Scene) (status : Party.Status) (iut : Actor) (link : Link) :
    (s.withIut status iut link).outlook =
      look s.part iut status.ending? link.forth link.back := rfl

variable {s s' : Scene} {p : Player}

theorem part_poll_over {verdict : Verdict} (through : s.part = .inr verdict) (role : Role) :
    (s.poll role).part = .inr verdict := by
  cases role with
  | player => simp [poll, through]
  | iut => rw [part_poll_iut, through]

theorem part_run_over {verdict : Verdict} (through : s.part = .inr verdict) (order : List Role) :
    (s.run order).part = .inr verdict := by
  induction order generalizing s with
  | nil => exact through
  | cons role order ih => exact ih (part_poll_over through role)

theorem verdict?_over {verdict : Verdict} (through : s.part = .inr verdict) :
    s.verdict? = some verdict := by
  simp [verdict?, through]

theorem part_of_verdict? {verdict : Verdict} (done : s.verdict? = some verdict) :
    s.part = .inr verdict := Sum.getRight?_eq_some_iff.1 done

theorem outlook_poll_player_asking (playing : s.part = .inl p) {act : Act}
    {next : Sight → Replay.Status} (turn : p.turn = .asking act next) :
    (s.poll .player).outlook =
      look (next (sight playerTask act s.link.forth s.link.back)).part s.iut s.ending
        (s.link.forth.afterWriter playerTask act) (s.link.back.afterReader playerTask act) := by
  obtain ⟨link, forth, back, after⟩ := poll_player_asking playing turn
  rw [after, outlook_withPlayer, forth, back]

theorem outlook_poll_iut_asking (going : s.ending = none) {act : Act}
    {next : Sight → Party.Status × Actor} (turn : s.iutTurn = .asking act next) :
    (s.poll .iut).outlook =
      look s.part (next (sight iutTask act s.link.back s.link.forth)).2
        (next (sight iutTask act s.link.back s.link.forth)).1.ending?
        (s.link.forth.afterReader iutTask act) (s.link.back.afterWriter iutTask act) := by
  obtain ⟨link, back, forth, after⟩ := poll_iut_asking going turn
  rw [after, outlook_withIut, forth, back]

theorem verdict?_congr (same : s.outlook = s'.outlook) : s.verdict? = s'.verdict? := by
  rw [verdict?_eq_getLeft?, verdict?_eq_getLeft?, same]

theorem playing_congr (playing : s.part = .inl p) (same : s.outlook = s'.outlook) :
    s'.part = .inl p ∧ s.iut = s'.iut ∧ s.ending = s'.ending ∧
      s.link.forth.outlook = s'.link.forth.outlook ∧
      s.link.back.outlook = s'.link.back.outlook := by
  rcases s' with ⟨p' | verdict, iut, ending, link⟩
  · simp only [outlook, look, playing, Sum.inr.injEq, Prod.mk.injEq] at same
    obtain ⟨rfl, rest⟩ := same
    exact ⟨rfl, rest⟩
  · simp [outlook, look, playing] at same

theorem outlook_poll (orderly : s.Orderly) (same : s.outlook = s'.outlook) (role : Role) :
    (s.poll role).outlook = (s'.poll role).outlook := by
  -- Once there is a verdict the outlook is that verdict. Until then both tasks and what still
  -- matters of both pipes are the same, and a poll depends on nothing else.
  cases playing : s.part with
  | inr verdict =>
    have playing' := part_of_verdict? (verdict?_congr same ▸ verdict?_over playing)
    simp [outlook, look, part_poll_over playing, part_poll_over playing']
  | inl p =>
    have tidy := orderly p playing
    obtain ⟨playing', iut, ending, forth, back⟩ := playing_congr playing same
    cases role with
    | player =>
      cases turn : p.turn with
      | still status =>
        rw [poll_player_still playing turn, poll_player_still playing' turn, outlook_withPlayer,
          outlook_withPlayer, iut, ending]
        exact look_congr forth back
      | asking act next =>
        rw [outlook_poll_player_asking playing turn, outlook_poll_player_asking playing' turn,
          Rendezvous.sight_congr playerTask act forth back tidy.there, iut, ending]
        exact look_congr (Pipe.afterWriter_congr playerTask forth act)
          (Pipe.afterReader_congr playerTask back tidy.there act)
    | iut =>
      rcases Option.eq_none_or_eq_some s.ending with going | ⟨_, ended⟩
      · have there : s.link.forth.readClosed = false := by simp [tidy.gone, going]
        have going' := ending ▸ going
        have turns : s'.iutTurn = s.iutTurn := by simp only [iutTurn, iut]
        cases turn : s.iutTurn with
        | still result =>
          rw [poll_iut_still going turn, poll_iut_still going' (turns.trans turn), outlook_withIut,
            outlook_withIut, playing, playing']
          exact look_congr forth back
        | asking act next =>
          rw [outlook_poll_iut_asking going turn, outlook_poll_iut_asking going' (turns.trans turn),
            Rendezvous.sight_congr iutTask act back forth there, playing, playing']
          exact look_congr (Pipe.afterReader_congr iutTask forth there act)
            (Pipe.afterWriter_congr iutTask back act)
      · rw [poll_iut_ended ended, poll_iut_ended (ending ▸ ended), same]

theorem outlook_run (orderly : s.Orderly) (orderly' : s'.Orderly) (same : s.outlook = s'.outlook)
    (order : List Role) : (s.run order).outlook = (s'.run order).outlook := by
  induction order generalizing s s' with
  | nil => exact same
  | cons role order ih =>
    exact ih (orderly.poll role) (orderly'.poll role) (outlook_poll orderly same role)

theorem outlook_still_after_player (going : s.ending = none) {result : Party.Status × Actor}
    (turn : s.iutTurn = .still result) (status : Replay.Status) (link : Link) :
    ((s.withPlayer status link).poll .iut).outlook =
      look status.part result.2 result.1.ending? link.forth link.back := by
  cases left : status.part with
  | inl q =>
    let after : Scene := { s with part := .inl q, link := link.collect.2 }
    rw [withPlayer_playing left]
    exact congrArg outlook (poll_iut_still (s := after) going turn)
  | inr verdict =>
    rw [outlook, part_poll_over ((part_withPlayer status link).trans left)]
    rfl

theorem outlook_asking_after_player (going : s.ending = none) {act : Act}
    {next : Sight → Party.Status × Actor} (turn : s.iutTurn = .asking act next)
    (status : Replay.Status) (link : Link) :
    ((s.withPlayer status link).poll .iut).outlook =
      look status.part (next (sight iutTask act link.back link.forth)).2
        (next (sight iutTask act link.back link.forth)).1.ending?
        (link.forth.afterReader iutTask act) (link.back.afterWriter iutTask act) := by
  cases left : status.part with
  | inl q =>
    let after : Scene := { s with part := .inl q, link := link.collect.2 }
    rw [withPlayer_playing left]
    exact outlook_poll_iut_asking (s := after) going turn
  | inr verdict =>
    rw [outlook, part_poll_over ((part_withPlayer status link).trans left)]
    rfl

theorem diamond_asking (tidy : s.Tidy p) (playing : s.part = .inl p) (going : s.ending = none)
    {x y : Act} {nx : Sight → Replay.Status} {ny : Sight → Party.Status × Actor}
    (turnp : p.turn = .asking x nx) (turni : s.iutTurn = .asking y ny) :
    (s.poll .player).outlook = s.outlook ∨ (s.poll .iut).outlook = s.outlook ∨
    ((s.poll .iut).poll .player).outlook = ((s.poll .player).poll .iut).outlook ∨
    ((s.poll .player).poll .iut).outlook = (s.poll .iut).outlook := by
  have askedx : p.turn.asks = some x := by rw [turnp]; rfl
  have askedy : s.iutTurn.asks = some y := by rw [turni]; rfl
  obtain ⟨properx, stays⟩ := tidy.sound.asks askedx
  have propery := (tidy.steady going).asks askedy
  have keptx := askedx ▸ tidy.forth
  have kepty := askedy ▸ iutAsks_going going ▸ tidy.back
  have therey : s.link.forth.readClosed = false := by simp [tidy.gone, going]
  obtain ⟨linkp, forthp, backp, afterp⟩ := poll_player_asking playing turnp
  obtain ⟨linki, backi, forthi, afteri⟩ := poll_iut_asking going turni
  obtain ⟨waits, forth, back⟩ | ⟨waits, back, forth⟩ | ⟨seenx, seeny, forth, back⟩ |
      ⟨waits, seeny, forth, back⟩ :=
    Rendezvous.diamond playerTask iutTask keptx kepty properx propery tidy.opened tidy.there
      therey stays
  · left
    rw [outlook_poll_player_asking playing turnp, waits, Player.next_pending turnp]
    simp [outlook, look, Replay.Status.part, playing, forth, back]
  · right; left
    have stays : y ≠ .release := by
      rintro rfl
      simp [sight] at waits
    rw [outlook_poll_iut_asking going turni, waits, (tidy.steady going).next_pending turni stays]
    simp [outlook, look, playing, forth, back, Party.Status.ending?, going]
  · right; right; left
    have playing' := (part_poll_iut s).trans playing
    rw [outlook_poll_player_asking playing' turnp, afterp, outlook_asking_after_player going turni,
      afteri, forthp, backp, seeny]
    simp only [withIut, Link.forth_collect, Link.back_collect, forthi, backi, seenx]
    exact look_congr forth.symm back.symm
  · right; right; right
    rw [afterp, outlook_asking_after_player going turni, outlook_poll_iut_asking going turni,
      waits, Player.next_pending turnp, forthp, backp, seeny, playing]
    exact look_congr forth back

theorem diamond (tidy : s.Tidy p) (playing : s.part = .inl p) :
    (s.poll .player).outlook = s.outlook ∨ (s.poll .iut).outlook = s.outlook ∨
    ((s.poll .iut).poll .player).outlook = ((s.poll .player).poll .iut).outlook ∨
    ((s.poll .player).poll .iut).outlook = (s.poll .iut).outlook := by
  rcases (Option.eq_none_or_eq_some s.ending).symm with ⟨_, ended⟩ | going
  · exact .inr (.inl (by rw [poll_iut_ended ended]))
  have playing' := (part_poll_iut s).trans playing
  cases turnp : p.turn with
  | still status =>
    refine .inr (.inr (.inl ?_))
    rw [poll_player_still playing' turnp, outlook_withPlayer, poll_player_still playing turnp]
    cases turni : s.iutTurn with
    | still result =>
      rw [poll_iut_still going turni, outlook_still_after_player going turni]
      rfl
    | asking act next =>
      obtain ⟨link, back, forth, after⟩ := poll_iut_asking going turni
      rw [after, outlook_asking_after_player going turni]
      simp only [withIut, Link.forth_collect, Link.back_collect, forth, back]
  | asking x nx =>
    obtain ⟨linkp, forthp, backp, afterp⟩ := poll_player_asking playing turnp
    cases turni : s.iutTurn with
    | still result =>
      refine .inr (.inr (.inl ?_))
      rw [outlook_poll_player_asking playing' turnp, afterp,
        outlook_still_after_player going turni, poll_iut_still going turni, forthp, backp]
      rfl
    | asking y ny =>
      exact diamond_asking tidy playing going turnp turni

variable {verdict : Verdict}

theorem verdict?_run_over (done : s.verdict? = some verdict) (order : List Role) :
    (s.run order).verdict? = some verdict :=
  verdict?_over (part_run_over (part_of_verdict? done) order)

theorem verdict?_run_congr (orderly : s.Orderly) (orderly' : s'.Orderly)
    (same : s.outlook = s'.outlook) (order : List Role) :
    (s.run order).verdict? = (s'.run order).verdict? :=
  verdict?_congr (outlook_run orderly orderly' same order)

theorem schedule_after_poll (orderly : s.Orderly) {order : List Role}
    (done : (s.run order).verdict? = some verdict) (role : Role) :
    ∃ order', ((s.poll role).run order').verdict? = some verdict ∧
      order'.length ≤ order.length ∧
      (order'.length < order.length ∨ order'.head? = order.head?) := by
  -- Along the schedule the poll changes places with one poll after the other, until it meets its
  -- own task or a poll that it makes void.
  induction order generalizing s with
  | nil => exact ⟨[], verdict?_run_over done [role], by simp⟩
  | cons first order ih =>
    have orderlyf := orderly.poll first
    have orderlyr := orderly.poll role
    have void (idle : (s.poll role).outlook = s.outlook) :
        ((s.poll role).run (first :: order)).verdict? = some verdict := by
      rw [verdict?_run_congr orderlyr orderly idle]
      exact done
    cases playing : s.part with
    | inr verdict' =>
      refine ⟨first :: order, void ?_, by simp⟩
      simp [outlook, look, part_poll_over playing, playing]
    | inl p =>
      by_cases same : role = first
      · subst same
        exact ⟨order, done, by simp⟩
      have diamond := Scene.diamond (orderly p playing) playing
      obtain ⟨rest, done', short, -⟩ := ih orderlyf done
      have short' : rest.length < (first :: order).length := Nat.lt_succ_of_le short
      have swap (commutes : ((s.poll role).poll first).outlook =
          ((s.poll first).poll role).outlook) :
          ((s.poll role).run (first :: rest)).verdict? = some verdict := by
        rw [run_cons, verdict?_run_congr (orderlyr.poll first) (orderlyf.poll role) commutes]
        exact done'
      -- If the first poll of the schedule does not get on, the schedule goes without it.
      have without (idle : (s.poll first).outlook = s.outlook) :
          ((s.poll role).run rest).verdict? = some verdict := by
        rw [← verdict?_run_congr (orderlyf.poll role) orderlyr (outlook_poll orderlyf idle role)]
        exact done'
      cases first with
      | player =>
        obtain rfl : role = .iut := by cases role <;> simp_all
        rcases diamond with idle | idle | commutes | lost
        · exact ⟨rest, without idle, Nat.le_of_lt short', .inl short'⟩
        · exact ⟨_, void idle, by simp⟩
        · exact ⟨_, swap commutes, by simpa using short, .inr rfl⟩
        · refine ⟨rest, ?_, Nat.le_of_lt short', .inl short'⟩
          rw [← verdict?_run_congr (orderlyf.poll .iut) orderlyr lost]
          exact done'
      | iut =>
        obtain rfl : role = .player := by cases role <;> simp_all
        rcases diamond with idle | idle | commutes | lost
        · exact ⟨_, void idle, by simp⟩
        · exact ⟨rest, without idle, Nat.le_of_lt short', .inl short'⟩
        · exact ⟨_, swap commutes.symm, by simpa using short, .inr rfl⟩
        · refine ⟨.iut :: order, ?_, by simp⟩
          rw [run_cons, verdict?_run_congr (orderlyr.poll .iut) orderlyf lost]
          exact done

theorem schedule_after_run (orderly : s.Orderly) {order : List Role}
    (done : (s.run order).verdict? = some verdict) (other : List Role) :
    ∃ order', ((s.run other).run order').verdict? = some verdict := by
  induction other generalizing s order with
  | nil => exact ⟨order, done⟩
  | cons role other ih =>
    obtain ⟨order', done', -⟩ := schedule_after_poll orderly done role
    exact ih (orderly.poll role) done'

theorem Settled.verdict? (orderly : s.Orderly) (settled : s.Settled) {order : List Role}
    (done : (s.run order).verdict? = some verdict) : s.verdict? = some verdict := by
  -- Where no poll changes anything, no schedule does.
  have same (order : List Role) : (s.run order).outlook = s.outlook := by
    induction order with
    | nil => rfl
    | cons role order ih =>
      have idle := outlook_of_gist (settled role)
      rw [run_cons, outlook_run (orderly.poll role) orderly idle, ih]
  rw [← verdict?_congr (same order)]
  exact done

theorem Settled.verdict?_of_run (orderly : s.Orderly) {order other : List Role}
    (done : (s.run order).verdict? = some verdict) (settled : (s.run other).Settled) :
    (s.run other).verdict? = some verdict := by
  obtain ⟨order', onward⟩ := schedule_after_run orderly done other
  exact settled.verdict? (orderly.run other) onward

def atTime (s : Scene) (schedule : Nat → Role) (n : Nat) : Scene :=
  s.run ((List.range n).map schedule)

theorem atTime_succ (s : Scene) (schedule : Nat → Role) (n : Nat) :
    s.atTime schedule (n + 1) = (s.atTime schedule n).poll (schedule n) := by
  simp [atTime, List.range_succ, run_append]

theorem Orderly.atTime (orderly : s.Orderly) (schedule : Nat → Role) (n : Nat) :
    (s.atTime schedule n).Orderly := orderly.run _

/-- An endless schedule that comes back to both tasks again and again. -/
def Fair (schedule : Nat → Role) : Prop := ∀ role n, ∃ m, n ≤ m ∧ schedule m = role

theorem Fair.verdict? {schedule : Nat → Role} (fair : Fair schedule) (orderly : s.Orderly)
    (limit n : Nat) {order : List Role} (short : order.length ≤ limit)
    (done : ((s.atTime schedule n).run order).verdict? = some verdict) :
    ∃ m, (s.atTime schedule m).verdict? = some verdict := by
  -- The schedule that is left gets shorter when its first task has its turn; until then it gets no
  -- longer and begins with the same task. So there are two inductions: over the length of what is
  -- left, and over the time until that turn.
  induction limit generalizing n order with
  | zero =>
    obtain rfl : order = [] := List.length_eq_zero_iff.1 (by omega)
    exact ⟨n, done⟩
  | succ limit ih =>
    cases order with
    | nil => exact ⟨n, done⟩
    | cons first order =>
      obtain ⟨m, later, turn⟩ := fair first n
      obtain ⟨delay, rfl⟩ := Nat.exists_eq_add_of_le later
      induction delay generalizing n order with
      | zero =>
        apply ih (n + 1) (Nat.le_of_succ_le_succ short)
        rw [atTime_succ, show schedule n = first from turn]
        exact done
      | succ delay wait =>
        obtain ⟨order', done', length, less | head⟩ :=
          schedule_after_poll (orderly.atTime schedule n) done (schedule n)
        · rw [← atTime_succ] at done'
          exact ih (n + 1) (by simp only [List.length_cons] at less short; omega) done'
        · rw [← atTime_succ] at done'
          obtain ⟨rest, rfl⟩ := List.head?_eq_some_iff.1 head
          exact wait (n + 1) rest (Nat.le_trans length short) done' (by omega)
            (by rw [← turn]; congr 1; omega)

/-- The verdict of a rehearsal without a timeout is the same under every schedule. If there is a
schedule under which the player is through, then it is so under every schedule that goes on until
neither task can make progress, and under every endless one that forgets neither of them. -/
theorem verdict_independent_of_schedule (growth : Growth) (name : String) (trailing : Trailing)
    (t : Transcript) (plan : Plan) (sequential : plan.Sequential) :
    (∀ (order other : List Role) (verdict verdict' : Verdict),
      ((start growth ⟨name, trailing, none⟩ t plan).run order).verdict? = some verdict →
      ((start growth ⟨name, trailing, none⟩ t plan).run other).verdict? = some verdict' →
      verdict = verdict') ∧
    (∀ (order : List Role) (verdict : Verdict),
      ((start growth ⟨name, trailing, none⟩ t plan).run order).verdict? = some verdict →
      (∀ other : List Role, ((start growth ⟨name, trailing, none⟩ t plan).run other).Settled →
        ((start growth ⟨name, trailing, none⟩ t plan).run other).verdict? = some verdict) ∧
      (∀ schedule : Nat → Role, Fair schedule →
        ∃ n, ((start growth ⟨name, trailing, none⟩ t plan).atTime schedule n).verdict? =
          some verdict)) := by
  have orderly := orderly_start growth ⟨name, trailing, none⟩ t sequential
  refine ⟨?_, ?_⟩
  · intro order other verdict verdict' done done'
    obtain ⟨order', onward⟩ := schedule_after_run orderly done other
    exact Option.some.inj (onward.symm.trans (verdict?_run_over done' order'))
  · intro order verdict done
    refine ⟨?_, ?_⟩
    · intro other settled
      exact settled.verdict?_of_run orderly done
    · intro schedule fair
      exact fair.verdict? orderly order.length 0 (Nat.le_refl _) done

def leaving : Scene :=
  start .standard ⟨"script", .ignore, none⟩ ⟨[.expect [1, 2], .inject [7], .inject [8]]⟩
    (.ofSteps false [.writeAll [1, 2], .readExact 1])

theorem verdict_of_leaving :
    (leaving.run ((List.replicate 12 [Role.player, Role.iut]).flatten)).verdict? =
        some (.error ⟨"script", 2, .stream Pipe.readerGone⟩) ∧
      ∀ other : List Role, (leaving.run other).Settled →
        (leaving.run other).verdict? = some (.error ⟨"script", 2, .stream Pipe.readerGone⟩) := by
  have done : (leaving.run ((List.replicate 12 [Role.player, Role.iut]).flatten)).verdict? =
      some (.error ⟨"script", 2, .stream Pipe.readerGone⟩) := rfl
  have sequential : (Plan.ofSteps false [.writeAll [1, 2], .readExact 1]).Sequential :=
    Plan.sequential_ofSteps _ _ (by decide)
  exact ⟨done, ((verdict_independent_of_schedule _ _ _ _ _ sequential).2 _ _ done).1⟩

end Scene

end WireScript.Rehearsal
