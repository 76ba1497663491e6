import WireScript.Proofs.Party.Traffic
import WireScript.Proofs.Rehearsal.Scene
import WireScript.Proofs.Replay.Owed
import WireScript.Proofs.Session.Encounter

set_option autoImplicit false

namespace WireScript.Rehearsal.Scene

open Party (Actor Plan)
open Rendezvous (Link Pipe Side sight sight_read_cases)
open Replay (Config Player)
open Session (Beat Encounter)
open Wire (Act Growth Sight)

structure Attuned (s : Scene) (p : Player) (rest : Traffic) : Prop where
  owes : p.Owes (Direction.toIut.mark s.link.forth.ahead ++ rest)
  yields : s.iut.Yields s.link.back.writeClosed (Direction.fromIut.mark s.link.back.ahead ++ rest)
  ended : s.ending ≠ none → s.iut.Halted

theorem attuned_start (growth : Growth) {config : Config} (ignores : config.trailing = .ignore)
    (t : Transcript) {plan : Plan}
    (emits : plan.Emits [] false (Transcript.streamOf t.segments)) :
    (start growth config t plan).Attuned (.start growth config t)
      (Transcript.streamOf t.segments) where
  owes := Player.owes_start growth ignores t
  yields := (Actor.yields_idle rfl).2 emits
  ended absent := absurd rfl absent

variable {s : Scene} {p : Player} {rest : Traffic}

theorem Attuned.nothing_of_ended (attuned : s.Attuned p rest) (ended : s.ending ≠ none) :
    rest = [] := by
  have nothing := (attuned.ended ended).yields.1 attuned.yields
  exact (List.append_eq_nil_iff.1 nothing).2

theorem Attuned.going (attuned : s.Attuned p rest) (goes : rest ≠ []) : s.ending = none := by
  cases ending : s.ending with
  | none => rfl
  | some how => exact absurd (attuned.nothing_of_ended (by simp [ending])) goes

theorem Attuned.toIut_of_closed (attuned : s.Attuned p rest) (tidy : s.Tidy p)
    (closed : s.link.back.writeClosed = true) : ∀ x ∈ rest, x.1 = .toIut := by
  by_cases going : s.ending = none
  · have yields := attuned.yields
    rw [closed] at yields
    intro x member
    exact yields.toIut_of_closed (tidy.steady going) x (List.mem_append_right _ member)
  · simp [attuned.nothing_of_ended going]

theorem Attuned.offered (attuned : s.Attuned p rest) (tidy : s.Tidy p) (goes : rest ≠ [])
    (something : s.link.back.available ≠ []) :
    ∃ more, rest = Direction.fromIut.mark s.link.back.available ++ more := by
  have present : s.link.back.offer ≠ none := by
    intro free
    exact something (Pipe.available_of_free free)
  have going := attuned.going goes
  have asked := tidy.back.data_eq present
  rw [iutAsks_going going] at asked
  obtain nothing | ⟨-, more, split⟩ := attuned.yields.of_writing (tidy.steady going) asked
  · exact absurd (List.append_eq_nil_iff.1 nothing).2 goes
  · rw [Direction.mark_append, List.append_assoc] at split
    exact ⟨more, List.append_cancel_left split⟩

theorem Attuned.injected (attuned : s.Attuned p rest) (tidy : s.Tidy p)
    (something : s.link.forth.offer ≠ none) :
    ∃ more, rest = Direction.toIut.mark s.link.forth.available ++ more := by
  have asked := tidy.forth.data_eq something
  obtain ⟨next, turn⟩ := Wire.Turn.asking_of_asks asked
  -- The player has only one offer on the channel, that of its current segment.
  obtain ⟨more, more', -, same, -⟩ | ⟨left, more, -, same, split, -⟩ | ⟨same, -⟩ :=
    attuned.owes.asking_cases turn
  · cases same
  · obtain rfl := Act.write.inj same
    rw [Direction.mark_append, List.append_assoc] at split
    exact ⟨more, List.append_cancel_left split⟩
  · cases same

theorem Attuned.read_cases (attuned : s.Attuned p rest) (tidy : s.Tidy p) {more : Bytes}
    (content : more ≠ []) {rest' : Traffic} (script : rest = Direction.fromIut.mark more ++ rest') :
    sight playerTask (.read more.length) s.link.forth s.link.back = .pending ∨
    ∃ found left, more = found ++ left ∧ found ≠ [] ∧
      sight playerTask (.read more.length) s.link.forth s.link.back = .data found := by
  have space : more.length ≠ 0 := by simpa using content
  have goes : rest ≠ [] := by simp [script, content]
  obtain ⟨found, some_found, shows⟩ | ⟨-, closed, -⟩ | ⟨-, -, waits⟩ :=
    sight_read_cases playerTask space s.link.forth s.link.back
  · right
    have available :=
      Pipe.available_afterReader playerTask (.read more.length) s.link.forth s.link.back
    rw [shows] at available
    have present : s.link.back.available ≠ [] := by simp [available, Act.received, some_found]
    obtain ⟨later, offered⟩ := attuned.offered tidy goes present
    have short : found.length ≤ more.length := by
      have admits := Rendezvous.admits_sight playerTask (.read more.length) s.link.forth s.link.back
      rw [shows] at admits
      obtain ⟨room, same, fits⟩ := admits
      cases same
      exact fits
    rw [available, Direction.mark_append, List.append_assoc, script] at offered
    obtain ⟨left, split, -⟩ := Direction.mark_prefix _ short offered.symm
    exact ⟨found, left, split, some_found, shows⟩
  · obtain ⟨b, tail, rfl⟩ := List.exists_cons_of_ne_nil content
    have wrong := attuned.toIut_of_closed tidy closed (.fromIut, b) (by simp [script])
    simp at wrong
  · exact .inl waits

theorem Attuned.write_cases (attuned : s.Attuned p rest) (tidy : s.Tidy p) {left : Bytes}
    (content : left ≠ []) (asked : p.turn.asks = some (.write left)) {rest' : Traffic}
    (script : Direction.toIut.mark s.link.forth.ahead ++ rest =
      Direction.toIut.mark left ++ rest') :
    sight playerTask (.write left) s.link.forth s.link.back = .pending ∨
    (sight playerTask (.write left) s.link.forth s.link.back = .count left.length ∧
      s.link.forth.ahead = left) := by
  have kept := tidy.forth
  rw [asked] at kept
  cases shows : sight playerTask (.write left) s.link.forth s.link.back with
  | pending => exact .inl rfl
  | count n =>
    obtain ⟨offered, rfl, -⟩ := kept.write_whole playerTask content shows
    exact .inr ⟨rfl, by simp [Pipe.ahead, offered]⟩
  | failed e =>
    -- The implementation has left and will take nothing more, but the script goes on.
    obtain ⟨gone | closed, less⟩ := kept.write_failed playerTask content shows
    · have ended : s.ending ≠ none := by
        rw [tidy.gone] at gone
        exact Option.isSome_iff_ne_none.1 gone
      have total := congrArg List.length script
      simp only [attuned.nothing_of_ended ended, List.append_nil, List.length_append,
        Direction.length_mark] at total
      omega
    · simp [tidy.opened] at closed
  | _ =>
    have admits := Rendezvous.admits_sight playerTask (.write left) s.link.forth s.link.back
    rw [shows] at admits
    simp [Act.Admits] at admits

theorem Attuned.after_player (attuned : s.Attuned p rest) (playing : s.part = .inl p) {act : Act}
    {next : Sight → Replay.Status} (turn : p.turn = .asking act next) {q : Player} {more : Traffic}
    (on : (next (sight playerTask act s.link.forth s.link.back)).part = .inl q)
    (reads : rest = Direction.fromIut.mark
      (act.received (sight playerTask act s.link.forth s.link.back)) ++ more)
    (owes : q.Owes (Direction.toIut.mark (s.link.forth.afterWriter playerTask act).ahead ++ more)) :
    (s.poll .player).part = .inl q ∧ (s.poll .player).Attuned q more := by
  obtain ⟨link, forth, back, after⟩ := poll_player_asking playing turn
  have ahead := Pipe.ahead_afterReader playerTask act s.link.forth s.link.back
  -- The implementation has still to learn of the bytes that were read from its write.
  have yields := attuned.yields
  rw [reads, ← List.append_assoc, ← Direction.mark_append, ← ahead] at yields
  rw [after, withPlayer_playing on]
  refine ⟨rfl, ?_, ?_, attuned.ended⟩
  · simpa [forth] using owes
  · simpa [back] using yields

theorem Attuned.poll_player (attuned : s.Attuned p rest) (tidy : s.Tidy p)
    (playing : s.part = .inl p) :
    (s.poll .player).part = .inr (.ok ()) ∨
    (∃ q more, q ≠ p ∧ (s.poll .player).part = .inl q ∧ (s.poll .player).Attuned q more) ∨
    (((s.poll .player).part = .inl p ∧ (s.poll .player).Attuned p rest) ∧
      ∃ act, p.turn.asks = some act ∧
        sight playerTask act s.link.forth s.link.back = .pending) := by
  cases turn : p.turn with
  | still status =>
    rw [poll_player_still playing turn]
    obtain ⟨q, on, moves, owes⟩ | through := attuned.owes.after_still turn
    · rw [withPlayer_playing on]
      exact .inr (.inl ⟨q, rest, moves, rfl, owes, attuned.yields, attuned.ended⟩)
    · exact .inl ((part_withPlayer _ _).trans through)
  | asking act next =>
    have asked : p.turn.asks = some act := by rw [turn]; rfl
    have kept := tidy.forth
    rw [asked] at kept
    have behind := kept.ahead_afterWriter playerTask s.link.back
    by_cases waits : sight playerTask act s.link.forth s.link.back = .pending
    · refine .inr (.inr ⟨attuned.after_player playing turn ?_ ?_ ?_, act, rfl, waits⟩)
      · rw [waits, Player.next_pending turn]
        rfl
      · simp [waits]
      · rw [waits, Act.sent_pending, List.nil_append] at behind
        exact behind ▸ attuned.owes
    · obtain ⟨more, rest', content, rfl, script, onward⟩ |
          ⟨left, rest', content, rfl, script, q, on, moves, owes⟩ | ⟨rfl, q, on, moves, owes⟩ :=
        attuned.owes.asking_cases turn
      · have free := Pipe.ahead_of_free (kept.free (by simp))
        rw [free, Direction.mark_nil, List.nil_append] at script
        obtain pending | ⟨found, left, rfl, some_found, shows⟩ :=
          attuned.read_cases tidy content script
        · exact absurd pending waits
        · obtain ⟨q, on, moves, owes⟩ := onward found left rfl some_found
          refine .inr (.inl ⟨q, Direction.fromIut.mark left ++ rest', moves,
            attuned.after_player playing turn (shows ▸ on) ?_ ?_⟩)
          · rw [script, shows]
            simp [Act.received]
          · simpa [Pipe.afterWriter, free] using owes
      · obtain pending | ⟨shows, all⟩ := attuned.write_cases tidy content asked script
        · exact absurd pending waits
        · rw [all] at script behind
          obtain rfl := List.append_cancel_left script
          have nowhere : (s.link.forth.afterWriter playerTask (.write left)).ahead = [] := by
            simpa [shows, Act.sent] using behind
          refine .inr (.inl ⟨q, rest, moves,
            attuned.after_player playing turn (shows ▸ on) ?_ ?_⟩)
          · simp [Act.received]
          · simpa [nowhere] using owes
      · exact .inr (.inl ⟨q, rest, moves, attuned.after_player playing turn on rfl owes⟩)

theorem Attuned.iut_read (attuned : s.Attuned p rest) (tidy : s.Tidy p) {room : Nat}
    (space : room ≠ 0) :
    sight iutTask (.read room) s.link.back s.link.forth = .pending ∨
    ∃ found more, found ≠ [] ∧ rest = Direction.toIut.mark found ++ more ∧
      sight iutTask (.read room) s.link.back s.link.forth = .data found := by
  obtain ⟨found, some_found, shows⟩ | ⟨-, closed, -⟩ | ⟨-, -, waits⟩ :=
    sight_read_cases iutTask space s.link.back s.link.forth
  · right
    have available := Pipe.available_afterReader iutTask (.read room) s.link.back s.link.forth
    rw [shows] at available
    have present : s.link.forth.offer ≠ none := by
      intro free
      simp [Pipe.available_of_free free, Act.received, some_found] at available
    obtain ⟨more, injected⟩ := attuned.injected tidy present
    rw [available, Direction.mark_append, List.append_assoc] at injected
    exact ⟨found, _, some_found, injected, shows⟩
  · simp [tidy.opened] at closed
  · exact .inl waits

theorem Attuned.iut_write_failed (attuned : s.Attuned p rest) (tidy : s.Tidy p)
    (going : s.ending = none) {data : Bytes} (content : data ≠ [])
    (asked : s.iutTurn.asks = some (.write data)) {e : Wire.Failure}
    (failed : sight iutTask (.write data) s.link.back s.link.forth = .failed e) :
    s.link.back.ahead = [] ∧ rest = [] := by
  have kept := tidy.back
  rw [iutAsks_going going, asked] at kept
  obtain ⟨gone | closed, -⟩ := kept.write_failed iutTask content failed
  · simp [tidy.there] at gone
  · obtain nothing | ⟨opened, -⟩ := attuned.yields.of_writing (tidy.steady going) asked
    · simpa using nothing
    · simp [closed] at opened

theorem Attuned.iut_carries (attuned : s.Attuned p rest) (tidy : s.Tidy p) (going : s.ending = none)
    {act : Act} (asked : s.iutTurn.asks = some act)
    (moves : sight iutTask act s.link.back s.link.forth ≠ .pending) :
    ∃ more,
      rest = Direction.toIut.mark (act.received (sight iutTask act s.link.back s.link.forth)) ++
        more ∧
      Direction.fromIut.mark s.link.back.ahead ++ rest =
        Recording.carried .iut act (sight iutTask act s.link.back s.link.forth) ++
          (Direction.fromIut.mark (s.link.back.afterWriter iutTask act).ahead ++ more) ∧
      ((∃ e, sight iutTask act s.link.back s.link.forth = .failed e) ∨
          sight iutTask act s.link.back s.link.forth = .data [] →
        Direction.fromIut.mark (s.link.back.afterWriter iutTask act).ahead ++ more = []) := by
  have proper := (tidy.steady going).asks asked
  have kept := tidy.back
  rw [iutAsks_going going, asked] at kept
  have ahead := kept.ahead_afterWriter iutTask s.link.forth
  cases act with
  | read room =>
    obtain waits | ⟨found, more, some_found, rfl, shows⟩ := attuned.iut_read tidy proper
    · exact absurd waits moves
    · have free := Pipe.ahead_of_free (kept.free (by simp))
      have free' : (s.link.back.afterWriter iutTask (.read room)).ahead = [] := free
      refine ⟨more, by rw [shows]; rfl, ?_, ?_⟩
      · simp [free, free', shows, Recording.carried, Act.sent, Act.received, Perspective.direction]
      · simp [shows, some_found]
  | write data =>
    refine ⟨rest, rfl, ?_, ?_⟩
    · rw [ahead]
      simp [Recording.carried, Act.received, Perspective.direction]
    · rintro (⟨e, failed⟩ | through)
      · obtain ⟨nowhere, rfl⟩ := attuned.iut_write_failed tidy going proper asked failed
        rw [nowhere] at ahead
        simp [(List.append_eq_nil_iff.1 ahead.symm).2]
      · have admits := Rendezvous.admits_sight iutTask (.write data) s.link.back s.link.forth
        rw [through] at admits
        simp [Act.Admits] at admits
  | flush => exact ⟨rest, rfl, rfl, by simp [sight]⟩
  | close => exact ⟨rest, rfl, rfl, by simp [sight]⟩
  | release => exact ⟨rest, rfl, rfl, by simp [sight]⟩

theorem Attuned.poll_iut_waiting (attuned : s.Attuned p rest) (tidy : s.Tidy p)
    (going : s.ending = none) {act : Act} {next : Sight → Party.Status × Actor}
    (turn : s.iutTurn = .asking act next)
    (waits : sight iutTask act s.link.back s.link.forth = .pending) :
    (s.poll .iut).Attuned p rest := by
  have asked : s.iutTurn.asks = some act := by rw [turn]; rfl
  have kept := tidy.back
  rw [iutAsks_going going, asked] at kept
  obtain ⟨link, back, forth, after⟩ := poll_iut_asking going turn
  -- Only reads and writes ever have to wait.
  have stays : act ≠ .release ∧ act ≠ .close := by
    constructor <;> (rintro rfl; simp [sight] at waits)
  have ahead := Pipe.ahead_afterReader iutTask act s.link.back s.link.forth
  have behind := kept.ahead_afterWriter iutTask s.link.forth
  rw [← forth, waits, Act.received_pending, List.append_nil] at ahead
  rw [← back, waits, Act.sent_pending, List.nil_append] at behind
  rw [after, waits, (tidy.steady going).next_pending turn stays.1]
  refine ⟨?_, ?_, fun present => absurd rfl present⟩
  · rw [withIut, Link.forth_collect, ahead]
    exact attuned.owes
  · rw [withIut, Link.back_collect, ← behind]
    simpa [back, stays] using attuned.yields

theorem Attuned.poll_iut_moving (attuned : s.Attuned p rest) (tidy : s.Tidy p)
    (going : s.ending = none) {act : Act} {next : Sight → Party.Status × Actor}
    (turn : s.iutTurn = .asking act next)
    (moves : sight iutTask act s.link.back s.link.forth ≠ .pending) :
    ∃ more, (s.poll .iut).Attuned p more := by
  have steady := tidy.steady going
  have asked : s.iutTurn.asks = some act := by rw [turn]; rfl
  have kept := tidy.back
  rw [iutAsks_going going, asked] at kept
  obtain ⟨link, back, forth, after⟩ := poll_iut_asking going turn
  have ahead := Pipe.ahead_afterReader iutTask act s.link.back s.link.forth
  rw [← forth] at ahead
  obtain ⟨more, rfl, carries, cut⟩ := attuned.iut_carries tidy going asked moves
  have admits := Rendezvous.admits_sight iutTask act s.link.back s.link.forth
  have whole (data : Bytes) (n : Nat) (write : act = .write data)
      (done : sight iutTask act s.link.back s.link.forth = .count n) : n = data.length := by
    subst write
    exact (kept.write_whole iutTask (steady.asks asked) done).2.1
  have yields := attuned.yields
  rw [carries] at yields
  have onward := yields.after_asking steady turn admits moves whole cut
  rw [← back] at onward
  rw [after]
  refine ⟨more, ?_, ?_, ?_⟩
  · rw [withIut, Link.forth_collect, ahead]
    simpa using attuned.owes
  · by_cases leaves : act = .release
    · subst leaves
      obtain ⟨-, halted⟩ := steady.halted_of_release turn
        (sight iutTask .release s.link.back s.link.forth)
      exact halted.yields.2 (halted.yields.1 onward)
    · have closed : link.back.writeClosed = (s.link.back.writeClosed || act = .close) := by
        simp [back, leaves]
      rw [withIut, Link.back_collect, closed]
      exact onward
  · intro present
    have can : s.iutTurn.Can (next (sight iutTask act s.link.back s.link.forth)) := by
      rw [turn]
      exact ⟨_, admits, rfl⟩
    obtain ⟨leaves, -⟩ | ⟨-, goes, -⟩ := steady.step can
    · obtain rfl : act = .release := by simpa [asked] using leaves
      exact (steady.halted_of_release turn _).2
    · exact absurd goes present

theorem Attuned.poll_iut (attuned : s.Attuned p rest) (tidy : s.Tidy p) :
    ∃ more, (s.poll .iut).Attuned p more := by
  rcases Option.eq_none_or_eq_some s.ending with going | ⟨ending, ended⟩
  · have steady := tidy.steady going
    cases turn : s.iutTurn with
    | still result =>
      have can : s.iutTurn.Can result := by rw [turn]; rfl
      obtain ⟨leaves, -⟩ | ⟨-, onward, -⟩ := steady.step can
      · simp [turn, Wire.Turn.asks] at leaves
      · rw [poll_iut_still going turn]
        refine ⟨rest, attuned.owes, attuned.yields.after_still steady turn, ?_⟩
        simp [withIut, onward]
    | asking act next =>
      by_cases waits : sight iutTask act s.link.back s.link.forth = .pending
      · exact ⟨rest, attuned.poll_iut_waiting tidy going turn waits⟩
      · exact attuned.poll_iut_moving tidy going turn waits
  · rw [poll_iut_ended ended]
    exact ⟨rest, attuned⟩

theorem Settled.player_offered (settled : s.Settled) (tidy : s.Tidy p) (playing : s.part = .inl p)
    {data : Bytes} (content : data ≠ []) (asked : p.turn.asks = some (.write data))
    (waits : sight playerTask (.write data) s.link.forth s.link.back = .pending) :
    s.link.forth.available ≠ [] := by
  have kept := tidy.forth
  rw [asked] at kept
  obtain ⟨something, -⟩ | ⟨free, placed⟩ := kept.write_pending playerTask content waits
  · exact something
  · -- A poll would put the offer on the channel, so that the scene could still change.
    obtain ⟨next, turn⟩ := Wire.Turn.asking_of_asks asked
    obtain ⟨link, forth, -, after⟩ := poll_player_asking playing turn
    have on : (next .pending).part = .inl p := by rw [Player.next_pending turn]; rfl
    have offer := settled.forth_offer .player
    rw [after, waits, withPlayer_playing on, Link.forth_collect, forth, free] at offer
    exact absurd offer placed

theorem Settled.iut_offered (settled : s.Settled) (tidy : s.Tidy p) (going : s.ending = none)
    {data : Bytes} (asked : s.iutTurn.asks = some (.write data))
    (waits : sight iutTask (.write data) s.link.back s.link.forth = .pending) :
    s.link.back.available ≠ [] := by
  have kept := tidy.back
  rw [iutAsks_going going, asked] at kept
  have content := (tidy.steady going).asks asked
  obtain ⟨something, -⟩ | ⟨free, placed⟩ := kept.write_pending iutTask content waits
  · exact something
  · obtain ⟨next, turn⟩ := Wire.Turn.asking_of_asks asked
    obtain ⟨link, back, -, after⟩ := poll_iut_asking going turn
    have offer := settled.back_offer .iut
    rw [after, withIut, Link.back_collect, back, free] at offer
    exact absurd offer placed

theorem Attuned.player_waits (attuned : s.Attuned p rest) (tidy : s.Tidy p)
    (playing : s.part = .inl p) (settled : s.Settled) :
    (s.link.back.available = [] ∧ ∃ b more, rest = (.fromIut, b) :: more) ∨
    (s.link.forth.available ≠ [] ∧ ∃ b more, rest = (.toIut, b) :: more) := by
  have unmoved := settled.part_eq .player
  obtain through | ⟨q, more, moves, on, -⟩ | ⟨-, act, asked, waits⟩ :=
    attuned.poll_player tidy playing
  · simp [unmoved, playing] at through
  · have same : p = q := by simpa [unmoved, playing] using on
    exact absurd same.symm moves
  · obtain ⟨next, turn⟩ := Wire.Turn.asking_of_asks asked
    obtain ⟨more, rest', content, rfl, script, -⟩ | ⟨left, rest', content, rfl, -⟩ | ⟨rfl, -⟩ :=
      attuned.owes.asking_cases turn
    · left
      have kept := tidy.forth
      rw [asked] at kept
      rw [Pipe.ahead_of_free (kept.free (by simp)), Direction.mark_nil, List.nil_append] at script
      obtain ⟨b, tail, rfl⟩ := List.exists_cons_of_ne_nil content
      have space : (b :: tail).length ≠ 0 := by simp
      obtain ⟨found, -, shows⟩ | ⟨-, -, shows⟩ | ⟨nothing, -, -⟩ :=
        sight_read_cases playerTask space s.link.forth s.link.back
      · cases shows.symm.trans waits
      · cases shows.symm.trans waits
      · exact ⟨nothing, b, _, script⟩
    · right
      have something := settled.player_offered tidy playing content asked waits
      have present : s.link.forth.offer ≠ none := by
        intro free
        exact something (Pipe.available_of_free free)
      obtain ⟨more, injected⟩ := attuned.injected tidy present
      obtain ⟨b, tail, available⟩ := List.exists_cons_of_ne_nil something
      rw [available] at injected
      exact ⟨something, b, _, injected⟩
    · simp [sight] at waits

theorem Settled.iut_waits (settled : s.Settled) (tidy : s.Tidy p) (going : s.ending = none) :
    ∃ act, s.iutTurn.asks = some act ∧ sight iutTask act s.link.back s.link.forth = .pending := by
  have steady := tidy.steady going
  have unmoved := settled.iut_eq .iut
  cases turn : s.iutTurn with
  | still result =>
    rw [poll_iut_still going turn] at unmoved
    exact absurd unmoved (steady.still_ne turn)
  | asking act next =>
    refine ⟨act, rfl, ?_⟩
    by_cases waits : sight iutTask act s.link.back s.link.forth = .pending
    · exact waits
    · obtain ⟨link, -, -, after⟩ := poll_iut_asking going turn
      rw [after] at unmoved
      have admits := Rendezvous.admits_sight iutTask act s.link.back s.link.forth
      exact absurd unmoved (steady.asking_ne turn admits waits)

theorem Attuned.not_settled (attuned : s.Attuned p rest) (tidy : s.Tidy p)
    (playing : s.part = .inl p) : ¬ s.Settled := by
  intro settled
  have waiting := attuned.player_waits tidy playing settled
  have goes : rest ≠ [] := by
    obtain ⟨-, b, more, rfl⟩ | ⟨-, b, more, rfl⟩ := waiting <;> simp
  have going := attuned.going goes
  have steady := tidy.steady going
  obtain ⟨act, asked, waits⟩ := settled.iut_waits tidy going
  cases act with
  | read room =>
    -- It would have to be fed, and the player would be feeding it.
    have kept := tidy.back
    rw [iutAsks_going going, asked] at kept
    have yields := attuned.yields
    rw [Pipe.ahead_of_free (kept.free (by simp)), Direction.mark_nil, List.nil_append] at yields
    obtain ⟨found, -, shows⟩ | ⟨-, -, shows⟩ | ⟨nothing, -, -⟩ :=
      sight_read_cases iutTask (steady.asks asked) s.link.back s.link.forth
    · cases shows.symm.trans waits
    · cases shows.symm.trans waits
    · obtain ⟨-, b, more, rfl⟩ | ⟨something, -⟩ := waiting
      · obtain none | ⟨c, more', other⟩ := yields.of_reading steady asked
        · exact goes none
        · simp at other
      · exact something nothing
  | write data =>
    -- It would be read from, because what it writes comes next.
    have something := settled.iut_offered tidy going asked waits
    obtain ⟨more, offered⟩ := attuned.offered tidy goes something
    obtain ⟨c, tail, available⟩ := List.exists_cons_of_ne_nil something
    rw [available] at offered
    obtain ⟨nothing, -⟩ | ⟨-, b, more', rfl⟩ := waiting
    · exact something nothing
    · simp at offered
  | _ => simp [sight] at waits

def InTune (s : Scene) : Prop :=
  s.part = .inr (.ok ()) ∨ ∃ p rest, s.part = .inl p ∧ s.Tidy p ∧ s.Attuned p rest

theorem InTune.poll (inTune : s.InTune) (role : Role) : (s.poll role).InTune := by
  obtain through | ⟨p, rest, playing, tidy, attuned⟩ := inTune
  · left
    cases role with
    | player => simp [Scene.poll, through]
    | iut => rw [part_poll_iut, through]
  · cases role with
    | player =>
      obtain through | ⟨q, more, -, on, attuned'⟩ | ⟨⟨on, attuned'⟩, -⟩ :=
        attuned.poll_player tidy playing
      · exact .inl through
      · exact .inr ⟨q, more, on, tidy.poll_player playing on, attuned'⟩
      · exact .inr ⟨p, rest, on, tidy.poll_player playing on, attuned'⟩
    | iut =>
      obtain ⟨more, attuned'⟩ := attuned.poll_iut tidy
      exact .inr ⟨p, more, (part_poll_iut s).trans playing, tidy.poll_iut, attuned'⟩

theorem InTune.run (inTune : s.InTune) (order : List Role) : (s.run order).InTune := by
  induction order generalizing s with
  | nil => exact inTune
  | cons role order ih => exact ih (inTune.poll role)

/-- What was recorded of an implementation, against whatever peer and up to whatever point, can be
replayed against it: no schedule makes the player fail, and the player has passed when neither of
the two can make progress. -/
theorem recorded_session_replays (growth : Growth) (plan : Plan) (sequential : plan.Sequential)
    (halting : plan.Halting) (side : Side) (beats : List Beat) (name : String)
    (order : List Role) :
    (∀ fault, ((start growth ⟨name, .ignore, none⟩
      ((Encounter.start plan).run side beats).transcript plan).run order).verdict? ≠
        some (.error fault)) ∧
    (((start growth ⟨name, .ignore, none⟩ ((Encounter.start plan).run side beats).transcript
      plan).run order).Settled →
      ((start growth ⟨name, .ignore, none⟩ ((Encounter.start plan).run side beats).transcript
        plan).run order).verdict? = some (.ok ())) := by
  have emits := Encounter.emits_transcript side sequential halting beats
  generalize ((Encounter.start plan).run side beats).transcript = t at emits ⊢
  have first : (start growth ⟨name, .ignore, none⟩ t plan).InTune :=
    .inr ⟨_, _, rfl, tidy_start _ _ t sequential, attuned_start _ rfl t emits⟩
  obtain through | ⟨p, rest, playing, tidy, attuned⟩ := first.run order
  · simp [verdict?, through]
  · refine ⟨by simp [verdict?, playing], ?_⟩
    intro settled
    exact absurd settled (attuned.not_settled tidy playing)

def echoing : Plan where
  choose entries :=
    match entries.getLast? with
    | some (.data got) => .go (.writeAll got)
    | some (.failed e) => .quit (some e)
    | _ => .go (.readExact 2)

theorem sequential_echoing : echoing.Sequential := by
  intro entries step goes
  simp only [echoing] at goes
  split at goes <;> cases goes <;> rfl

theorem halting_echoing : echoing.Halting := by
  intro entries e
  simp [echoing, Party.Choice.Final]

def forsaking : List Beat :=
  [.peer (.write [1, 2, 3]) "peer", .iut, .iut, .iut, .iut, .iut, .peer (.read 1) "peer",
    .peer (.read 8) "peer", .iut, .iut, .iut, .iut, .peer (.write [1, 2, 3]) "peer", .iut,
    .peer .release "peer", .iut, .iut]

def echoReplay : Scene :=
  (start .standard ⟨"script", .ignore, none⟩ ((Encounter.start echoing).run .a forsaking).transcript
    echoing).run (List.replicate 16 [Role.player, Role.iut]).flatten

theorem echoing_session_replays :
    ((Encounter.start echoing).run .a forsaking).transcript =
        ⟨[.inject [1, 2], .expect [1, 2], .inject [3]]⟩ ∧
      echoReplay.Settled ∧ echoReplay.verdict? = some (.ok ()) := by
  have settled : echoReplay.Settled := by
    intro role
    cases role <;> rfl
  have replays := recorded_session_replays .standard echoing sequential_echoing halting_echoing .a
    forsaking "script" (List.replicate 16 [Role.player, Role.iut]).flatten
  exact ⟨by decide, settled, replays.2 settled⟩

end WireScript.Rehearsal.Scene
