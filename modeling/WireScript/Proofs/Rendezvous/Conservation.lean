import WireScript.Proofs.Rendezvous.History

set_option autoImplicit false

namespace WireScript.Rendezvous

open Wire (Act Sight Task Poll)

inductive Fate
  | completed
  | withdrawn
deriving DecidableEq, Repr

structure Lot where
  offer : Offer
  fate : Fate
deriving DecidableEq, Repr

namespace Pipe

/-- The offer that is over once a write of `data` has seen its answer. -/
def ended (p : Pipe) (data : Bytes) (seen : Sight) : List Lot :=
  match p.offer, seen with
  | none, _ => []
  | some o, .count _ => if o.data = data then [⟨o, .completed⟩] else [⟨o, .withdrawn⟩]
  | some o, _ => if o.data = data then [] else [⟨o, .withdrawn⟩]

/-- The buffer that a write of `data` has stored: no offer of it stood before, and one does now. -/
def storing (before now : Pipe) (data : Bytes) : List Bytes :=
  if before.standing data = none ∧ now.standing data ≠ none then [data] else []

variable (p : Pipe)

theorem ended_other {data : Bytes} (other : p.standing data = none) (seen : Sight) :
    p.ended data seen = p.offer.toList.map (Lot.mk · .withdrawn) := by
  rw [standing_eq_none_iff] at other
  unfold ended
  split <;> simp_all

theorem ended_own {o : Offer} (offered : p.offer = some o) (seen : Sight)
    (waits : ∀ n, seen ≠ .count n) : p.ended o.data seen = [] := by
  unfold ended
  split <;> simp_all

theorem storing_own {o : Offer} (offered : p.offer = some o) (q : Pipe) :
    p.storing q o.data = [] := by
  simp [storing, p.standing_own offered]

theorem storing_free {q : Pipe} (free : q.offer = none) (data : Bytes) : p.storing q data = [] := by
  simp [storing, q.standing_free data free]

theorem storing_placed {q : Pipe} {data : Bytes} (other : p.standing data = none)
    (placed : q.offer = some ⟨[], data⟩) : p.storing q data = [data] := by
  have own : q.standing data = some ⟨[], data⟩ := q.standing_own placed
  simp [storing, other, own]

end Pipe

structure Ledger where
  stored : List Bytes
  past : List Lot
  answered : List (Bytes × Nat)
  delivered : Bytes
deriving DecidableEq, Repr

namespace Ledger

def empty : Ledger := ⟨[], [], [], []⟩

def noteAnswer (k : Ledger) (data : Bytes) : Sight → List (Bytes × Nat)
  | .count n => if data = [] then k.answered else k.answered ++ [(data, n)]
  | _ => k.answered

def noteWriter (k : Ledger) (before now : Pipe) (act : Act) (seen : Sight) : Ledger :=
  match act with
  | .write data =>
    { k with
      stored := k.stored ++ before.storing now data
      past := k.past ++ before.ended data seen
      answered := k.noteAnswer data seen }
  | _ => k

def noteReader (k : Ledger) (act : Act) (seen : Sight) : Ledger :=
  { k with delivered := k.delivered ++ act.received seen }

def offers (k : Ledger) (p : Pipe) : List Offer := k.past.map Lot.offer ++ p.offer.toList

structure Balanced (k : Ledger) (p : Pipe) : Prop where
  stored : k.stored = (k.offers p).map Offer.data
  delivered : k.delivered = (k.offers p).flatMap Offer.taken
  whole : ∀ lot ∈ k.past, lot.fate = .completed → lot.offer.taken = lot.offer.data
  answered : k.answered =
    (k.past.filter (fun lot => lot.fate = .completed)).map
      (fun lot => (lot.offer.data, lot.offer.data.length))
  content : ∀ o, p.offer = some o → o.data ≠ []

theorem balanced_fresh : empty.Balanced .fresh :=
  ⟨rfl, rfl, by simp [empty], rfl, by simp [Pipe.fresh]⟩

variable {k : Ledger} {p q : Pipe}

theorem Balanced.congr (balanced : k.Balanced p) (same : q.offer = p.offer) : k.Balanced q where
  stored := by rw [balanced.stored, offers, offers, same]
  delivered := by rw [balanced.delivered, offers, offers, same]
  whole := balanced.whole
  answered := balanced.answered
  content := by rw [same]; exact balanced.content

theorem Balanced.read (balanced : k.Balanced p) (task : Task) (act : Act) (r : Pipe) :
    (k.noteReader act (sight task act r p)).Balanced (p.afterReader task act) := by
  cases standing : p.offer with
  | none =>
    -- There is nothing to read, so that nothing is delivered.
    have free := Pipe.afterReader_free task standing act
    have nothing : act.received (sight task act r p) = [] := by
      simpa [Pipe.ahead, standing, free] using Pipe.ahead_afterReader task act r p
    simpa [noteReader, nothing] using balanced.congr (free.trans standing.symm)
  | some o =>
    obtain ⟨o', offered, data, taken⟩ := Pipe.afterReader_offered task standing act r
    exact {
      stored := by simp [noteReader, balanced.stored, offers, standing, offered, data]
      delivered := by simp [noteReader, balanced.delivered, offers, standing, offered, taken]
      whole := balanced.whole
      answered := balanced.answered
      content := by
        intro o'' offered''
        obtain rfl := Option.some.inj (offered.symm.trans offered'')
        rw [data]
        exact balanced.content o standing }

theorem Balanced.complete (balanced : k.Balanced p) {data : Bytes}
    (offered : p.offer = some ⟨data, []⟩) :
    ({ k with
        past := k.past ++ [⟨⟨data, []⟩, .completed⟩]
        answered := k.answered ++ [(data, data.length)] } : Ledger).Balanced
      { p with offer := none } where
  stored := by simp [balanced.stored, offers, offered]
  delivered := by simp [balanced.delivered, offers, offered]
  whole := by
    intro lot member completed
    obtain member | rfl := by simpa using member
    · exact balanced.whole lot member completed
    · simp [Offer.data]
  answered := by simp [balanced.answered, Offer.data]
  content := by simp

theorem Balanced.store (balanced : k.Balanced p) {data : Bytes} (free : p.offer = none)
    (content : data ≠ []) :
    { k with stored := k.stored ++ [data] }.Balanced { p with offer := some ⟨[], data⟩ } where
  stored := by simp [balanced.stored, offers, free, Offer.data]
  delivered := by simp [balanced.delivered, offers, free]
  whole := balanced.whole
  answered := balanced.answered
  content := by
    intro o offered
    obtain rfl := by simpa using offered
    exact content

theorem Balanced.clear (balanced : k.Balanced p) {data : Bytes} (other : p.standing data = none)
    (seen : Sight) :
    { k with past := k.past ++ p.ended data seen }.Balanced { p with offer := none } := by
  rw [Pipe.ended_other p other seen]
  exact {
    stored := by simp [balanced.stored, offers]
    delivered := by simp [balanced.delivered, offers, List.flatMap_map]
    whole := by
      intro lot member completed
      obtain member | ⟨o, -, rfl⟩ := by simpa using member
      · exact balanced.whole lot member completed
      · simp at completed
    answered := by
      have none_completed : (p.offer.toList.map (Lot.mk · .withdrawn)).filter
          (fun lot => lot.fate = .completed) = [] := by simp
      simp only [List.filter_append, none_completed, List.append_nil, balanced.answered]
    content := by simp }

theorem Balanced.write (balanced : k.Balanced p) (task : Task) (data : Bytes) (r : Pipe) :
    (k.noteWriter p (p.afterWriter task (.write data)) (.write data)
      (sight task (.write data) p r)).Balanced (p.afterWriter task (.write data)) := by
  obtain ⟨offered, write⟩ | ⟨-, -, e, write⟩ | ⟨-, -, ⟨o, offered, rfl, -, write⟩ |
      ⟨other, rfl, write⟩ | ⟨other, content, write⟩⟩ := p.write_cases task data
  · -- All of it was taken: the offer is over, and its write is told so.
    have content : data ≠ [] := by simpa [Offer.data] using balanced.content _ offered
    have ended : p.ended data (.count data.length) = [⟨⟨data, []⟩, .completed⟩] := by
      simp [Pipe.ended, offered, Offer.data]
    have shown : sight task (.write data) p r = .count data.length := by
      simp [sight, write, Sight.ofPoll, Poll.ok]
    simpa [noteWriter, noteAnswer, shown, Pipe.afterWriter, write, Pipe.storing_free, ended,
      content] using balanced.complete offered
  · -- A write that fails still withdraws the offer of another one.
    have shown : sight task (.write data) p r = .failed e := by
      simp [sight, write, Sight.ofPoll, Poll.failed]
    cases standing : p.standing data with
    | none =>
      simpa [noteWriter, noteAnswer, shown, Pipe.afterWriter, write, standing, Pipe.storing_free]
        using balanced.clear standing (.failed e)
    | some o =>
      obtain ⟨offered, rfl⟩ := p.standing_eq_some_iff.1 standing
      have ended := p.ended_own offered (.failed e) (by simp)
      have same : { p with offer := some o } = p := by rw [← offered]
      simpa [noteWriter, noteAnswer, shown, Pipe.afterWriter, write, standing, same,
        p.storing_own offered, ended] using balanced
  · have shown : sight task (.write o.data) p r = .pending := by
      simp [sight, write, Sight.ofPoll]
    have ended := p.ended_own offered .pending (by simp)
    simpa [noteWriter, noteAnswer, shown, Pipe.afterWriter, write, p.storing_own offered, ended]
      using balanced.congr (q := { p with writer := some task }) rfl
  · have shown : sight task (.write []) p r = .count 0 := by
      simp [sight, write, Sight.ofPoll, Poll.ok]
    simpa [noteWriter, noteAnswer, shown, Pipe.afterWriter, write, Pipe.storing_free]
      using balanced.clear other (.count 0)
  · have shown : sight task (.write data) p r = .pending := by
      simp [sight, write, Sight.ofPoll]
    have placed := (balanced.clear other .pending).store rfl content
    have stores : p.storing (p.afterWriter task (.write data)) data = [data] :=
      p.storing_placed other (by simp [Pipe.afterWriter, write])
    simp only [noteWriter, noteAnswer, shown, stores]
    exact placed.congr (by simp [Pipe.afterWriter, write])

theorem Balanced.noteWriter (balanced : k.Balanced p) (task : Task) (act : Act) (r : Pipe) :
    (k.noteWriter p (p.afterWriter task act) act (sight task act p r)).Balanced
      (p.afterWriter task act) := by
  cases act with
  | write data => exact balanced.write task data r
  | close | release => exact balanced.congr rfl
  | _ => exact balanced

theorem past_noteWriter (k : Ledger) (before now : Pipe) (act : Act) (seen : Sight) :
    k.past <+: (k.noteWriter before now act seen).past := by
  cases act with
  | write data => exact List.prefix_append _ _
  | _ => exact List.prefix_rfl

end Ledger

structure Books where
  link : Link
  ledger : Ledger
deriving DecidableEq, Repr

namespace Books

def start : Books := ⟨.fresh, .empty⟩

def play (writer : Side) (k : Books) (m : Move) : Books :=
  if k.link.isDropped m.side then k
  else
    let (seen, _, link) := k.link.perform m
    ⟨link,
      if m.side = writer then
        k.ledger.noteWriter (k.link.outbound writer) (link.outbound writer) m.act seen
      else k.ledger.noteReader m.act seen⟩

def run (writer : Side) (k : Books) (moves : List Move) : Books := moves.foldl (play writer) k

def Balanced (writer : Side) (k : Books) : Prop := k.ledger.Balanced (k.link.outbound writer)

theorem balanced_start (writer : Side) : start.Balanced writer := by
  cases writer <;> exact Ledger.balanced_fresh

variable {writer : Side} {k : Books} {m : Move}

theorem play_dropped (gone : k.link.isDropped m.side = true) : k.play writer m = k := by
  simp [play, gone]

theorem play_there (there : k.link.isDropped m.side = false) :
    k.play writer m =
      ⟨(k.link.perform m).2.2,
        if m.side = writer then
          k.ledger.noteWriter (k.link.outbound writer) ((k.link.perform m).2.2.outbound writer)
            m.act (k.link.perform m).1
        else k.ledger.noteReader m.act (k.link.perform m).1⟩ := by
  simp [play, there]

theorem Balanced.play (balanced : k.Balanced writer) (m : Move) :
    (k.play writer m).Balanced writer := by
  rcases Bool.eq_false_or_eq_true (k.link.isDropped m.side) with gone | there
  · rwa [play_dropped gone]
  · rw [Books.play_there there]
    simp only [Books.Balanced, Link.sight_perform there, Link.outbound_perform there]
    by_cases own : m.side = writer
    · subst own
      simp only [if_true]
      exact Ledger.Balanced.noteWriter balanced m.task m.act (k.link.inbound m.side)
    · obtain rfl := Side.eq_other_of_ne own
      simp only [own, if_false]
      exact Ledger.Balanced.read balanced m.task m.act (k.link.outbound m.side)

theorem Balanced.run (balanced : k.Balanced writer) (moves : List Move) :
    (k.run writer moves).Balanced writer := by
  induction moves generalizing k with
  | nil => exact balanced
  | cons m moves ih => exact ih (balanced.play m)

theorem link_play : (k.play writer m).link = (k.link.perform m).2.2 := by
  rcases Bool.eq_false_or_eq_true (k.link.isDropped m.side) with gone | there
  · rw [play_dropped gone, Link.perform_gone gone]
  · rw [play_there there]

theorem link_run (moves : List Move) : (k.run writer moves).link = k.link.after moves := by
  induction moves generalizing k with
  | nil => rfl
  | cons m moves ih =>
    rw [run, List.foldl_cons, ← run, ih, link_play]
    rfl

theorem past_play (writer : Side) (k : Books) (m : Move) :
    k.ledger.past <+: (k.play writer m).ledger.past := by
  rcases Bool.eq_false_or_eq_true (k.link.isDropped m.side) with gone | there
  · simp only [play_dropped gone, List.prefix_rfl]
  · rw [play_there there]
    split
    · exact Ledger.past_noteWriter ..
    · exact List.prefix_rfl

theorem past_run (writer : Side) (k : Books) (moves : List Move) :
    k.ledger.past <+: (k.run writer moves).ledger.past := by
  induction moves generalizing k with
  | nil => exact List.prefix_rfl
  | cons m moves ih => exact (past_play writer k m).trans (ih (k.play writer m))

/-- Bytes are conserved. Each buffer stored makes one offer, over or standing; what was read is what
was taken of the offers, in their order; answers belong one to one to the offers that are completed,
which were taken as a whole; and an offer that is over stays as it was. -/
theorem bytes_conserved (writer : Side) (moves later : List Move) :
    let k := (start.run writer moves).ledger
    let offers := k.past.map Lot.offer ++ ((Link.fresh.after moves).outbound writer).offer.toList
    k.stored = offers.map Offer.data ∧
      k.delivered = offers.flatMap Offer.taken ∧
      (∀ lot ∈ k.past, lot.fate = .completed → lot.offer.taken = lot.offer.data) ∧
      k.answered = (k.past.filter (fun lot => lot.fate = .completed)).map
        (fun lot => (lot.offer.data, lot.offer.data.length)) ∧
      k.past <+: (start.run writer (moves ++ later)).ledger.past := by
  intro k offers
  have balanced : k.Balanced ((Link.fresh.after moves).outbound writer) := by
    have balanced := (balanced_start writer).run moves
    rwa [Books.Balanced, link_run] at balanced
  refine ⟨balanced.stored, balanced.delivered, balanced.whole, balanced.answered, ?_⟩
  rw [run, List.foldl_append]
  exact past_run writer (start.run writer moves) later

-- Two bytes are taken of a write that is given up; the next one is taken as a whole.
example :
    (start.run .a
      [⟨.a, .write [1, 2, 3], "a"⟩, ⟨.b, .read 2, "b"⟩, ⟨.a, .write [4], "a"⟩, ⟨.b, .read 2, "b"⟩,
        ⟨.b, .release, "b"⟩, ⟨.a, .write [4], "a"⟩]).ledger =
      ⟨[[1, 2, 3], [4]], [⟨⟨[1, 2], [3]⟩, .withdrawn⟩, ⟨⟨[4], []⟩, .completed⟩], [([4], 1)],
        [1, 2, 4]⟩ := by
  decide

end Books

end WireScript.Rendezvous
