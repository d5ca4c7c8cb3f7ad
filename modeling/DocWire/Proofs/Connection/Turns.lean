import DocWire.Proofs.Connection.Standing

/-! Turns of exchanges: only one at a time holds the channel, and whoever gives it up hands it to
one that waits, which begins some time later. What becomes of the channel of a connection that is
closed meanwhile depends on how the last holder ended. -/

namespace DocWire

/-- An exchange that got hold of the channel and has not begun, and whether the connection was open
when it did. -/
structure Holder where
  sending : Sending
  wasOpen : Bool

/-- The history of a connection whose exchanges take turns: the one that is next holds the channel
already. It is noted whether the last one that held the channel of a closed connection was
interrupted, rather than carried out. -/
structure Turns where
  history : History
  next : Option Holder := none
  interrupted : Bool := false

/-- What happens to a connection whose exchanges take turns: one gets hold of the channel, begins,
or goes away before it has begun. -/
inductive Handover where
  | take (place : Nat)
  | begin
  | pass
  | happen (happening : Happening)

namespace History

variable (history : History)

/-- The history with the channel held, or free. -/
def hold (held : Bool) : History :=
  { history with line := { history.line with
      connection := { history.line.connection with inFlight := held } } }

/-- The history in which an exchange gives the channel back and is the first to get hold of it. -/
def ready (sending : Sending) : History :=
  { history with waiting := sending :: history.waiting }.hold false

end History

namespace Turns

variable (turns : Turns)

/-- Whether the last holder is one that was interrupted, after something has happened. -/
def interruption (happening : Happening) : Bool :=
  match happening, turns.history.flight with
  | .settle, some (_, .never) | .cancel, some _ => true
  | .settle, some _ => false
  | _, _ => turns.interrupted

/-- What one turn comes to; what cannot happen changes nothing. -/
def perform : Handover → Turns
  | .take place =>
    match turns.next, turns.history.flight, turns.history.waiting[place]? with
    | none, none, some sending =>
      let waiting := turns.history.waiting.eraseIdx place
      { turns with
        history := { turns.history with waiting }.hold true
        next := some ⟨sending, !turns.history.line.connection.closed⟩ }
    | _, _, _ => turns
  | .begin =>
    match turns.next with
    | none => turns
    | some holder =>
      -- The holder begins like one that gets hold of the channel at this moment.
      { turns with
        history := (turns.history.ready holder.sending).perform (.start 0)
        next := none }
  | .pass =>
    match turns.next with
    | none => turns
    | some holder =>
      { turns with
        history := turns.history.hold false
        next := none
        -- One that goes away leaves the channel of a closed connection where it was.
        interrupted := turns.history.line.connection.closed
          && (turns.interrupted || holder.wasOpen) }
  -- Nobody begins but the one whose turn it is.
  | .happen (.start _) => turns
  | .happen happening =>
    { turns with
      history := turns.history.perform happening
      interrupted := turns.interruption happening }

/-- What many turns come to. -/
def run (moves : List Handover) : Turns := moves.foldl perform turns

/-- A connection that nobody uses yet. -/
def begin (line : Line) : Turns := { history := .begin line }

/-- Whether the channel of a closed connection is still there. -/
def survives : Bool :=
  turns.interrupted || turns.history.flight.isSome || turns.next.any (·.wasOpen)

/-- To get hold of a channel that nobody holds, and to begin at once, is to start. -/
theorem take_begin {sending : Sending} {place : Nat} (free : turns.next = none)
    (idle : turns.history.flight = none)
    (waits : turns.history.waiting[place]? = some sending)
    (unheld : turns.history.line.connection.inFlight = false) :
    ((turns.perform (.take place)).perform .begin).history
      = turns.history.perform (.start place) := by
  obtain ⟨⟨line, received, waiting, flight, answers⟩, next, interrupted⟩ := turns
  obtain ⟨⟨id, description, channel, inFlight, closed, pinning, references⟩, session⟩ := line
  cases free
  cases idle
  -- The flag that the one sets and the other clears was clear before.
  cases unheld
  dsimp only at waits
  simp only [perform, History.perform, History.ready, History.hold, waits, List.getElem?_cons_zero,
    List.eraseIdx_cons_zero]
  cases channel <;> rfl

end Turns

/-- What can be told of the channel from outside: whether it is held, whether the connection is
closed, and whether the channel is there. -/
def Line.grip (line : Line) : Bool × Bool × Bool :=
  (line.connection.inFlight, line.connection.closed, line.connection.channel.isSome)

namespace Line

variable (line : Line)

/-- What can be told of the channel, one thing after another. -/
theorem of_grip {line : Line} {held closed there : Bool}
    (grip : line.grip = (held, closed, there)) :
    line.connection.inFlight = held ∧ line.connection.closed = closed ∧
      line.connection.channel.isSome = there := by
  obtain ⟨held, rest⟩ := Prod.mk.inj grip
  exact ⟨held, Prod.mk.inj rest⟩

/-- Whoever closes a connection closes its channel, unless it is held or was left there before. -/
theorem grip_close (reason : CloseReason) :
    (line.close reason).grip = (line.connection.inFlight, true,
      line.connection.channel.isSome && (line.connection.closed || line.connection.inFlight)) := by
  unfold close
  -- A connection that is closed already is left as it is.
  by_cases closed : line.connection.closed = true
  · simp [grip, closed]
  · rw [if_neg closed]
    by_cases held : line.connection.inFlight = true
    · simp [grip, connection_markClosed, held]
    · simp [grip, dropChannel, connection_markClosed, held, closed]

/-- An exchange that starts holds the channel. -/
theorem grip_start {channel : Channel} (sending : Sending)
    (there : line.connection.channel = some channel) :
    (line.start sending channel).1.grip = (true, line.connection.closed, true) := by
  cases hungUp : channel.hungUp with
  | true =>
    rw [line.start_hungUp sending hungUp]
    simp [grip, there]
  | false =>
    rw [line.start_connected sending hungUp]
    rfl

/-- An exchange that nobody waits for any more leaves the channel where it is. -/
theorem grip_abandon : line.abandon.grip = (false, true, line.connection.channel.isSome) := by
  simp [grip, abandon, connection_markClosed]

/-- An exchange that ends by itself leaves the channel of an open connection alone. -/
theorem grip_settle (sending : Sending) (ending : Ending) :
    (line.settle sending ending).2.grip = match ending with
      | .completed .. => (false, line.connection.closed, !line.connection.closed)
      | .failed .. => (false, true, false)
      | .never => (false, true, line.connection.channel.isSome) := by
  cases ending with
  | completed time response channel =>
    cases closed : line.connection.closed <;> simp [settle, grip, emit, closed]
  | failed time cause => simp [settle, grip, emit, dropChannel, connection_markClosed]
  | never => exact grip_abandon _

end Line

/-- What holds of the channel whenever somebody looks: one exchange at most has it; an open
connection has one, and nobody was interrupted over it; and one that is closed still has its channel
only as told. -/
structure Turns.Tidy (turns : Turns) : Prop where
  single : turns.next.isSome = true → turns.history.flight = none
  held : turns.history.line.connection.inFlight
    = (turns.next.isSome || turns.history.flight.isSome)
  opened : turns.history.line.connection.closed = false →
    turns.history.line.connection.channel.isSome = true ∧ turns.interrupted = false ∧
      ∀ holder ∈ turns.next, holder.wasOpen = true
  closed : turns.history.line.connection.closed = true →
    turns.history.line.connection.channel.isSome = turns.survives

namespace Turns.Tidy

variable {turns : Turns} {history : History}

/-- A connection that was just made is in order. -/
theorem begin (line : Line) (id : ConnectionId) (description : ConnectionDescription)
    (channel : Channel) :
    (Turns.begin { line with connection := .fresh id description channel }).Tidy where
  single _ := rfl
  held := rfl
  opened _ := ⟨rfl, rfl, fun _ none => by cases none⟩
  closed done := by cases done

/-- What does not touch the channel keeps it in order. -/
theorem of_same (tidy : turns.Tidy) (flight : history.flight = turns.history.flight)
    (same : history.line.grip = turns.history.line.grip) : { turns with history }.Tidy := by
  -- The grip on a line is all of it that the order speaks of.
  obtain ⟨held, closed, kept⟩ := Line.of_grip same
  refine ⟨fun next => ?_, ?_, fun still => ?_, fun done => ?_⟩
  · exact flight.trans (tidy.single next)
  · rw [held, flight]
    exact tidy.held
  · rw [kept]
    exact tidy.opened (closed ▸ still)
  · rw [kept, tidy.closed (closed ▸ done)]
    simp only [survives, flight]

/-- Whoever closes the connection leaves the channel to the one that holds it, and drops it when
nobody does. -/
theorem close (tidy : turns.Tidy) (line : Line) (same : line.grip = turns.history.line.grip)
    (reason : CloseReason) :
    { turns with history := { turns.history with line := line.close reason } }.Tidy := by
  obtain ⟨held, closed, kept⟩ := Line.of_grip same
  obtain ⟨stillHeld, done, left⟩ := Line.of_grip (line.grip_close reason)
  refine ⟨tidy.single, ?_, fun still => ?_, fun _ => ?_⟩
  · exact stillHeld.trans (held.trans tidy.held)
  · rw [done] at still
    cases still
  · show (line.close reason).connection.channel.isSome = turns.survives
    rw [left, kept, closed, held, tidy.held]
    -- A connection that was closed before keeps what it had kept.
    cases before : turns.history.line.connection.closed with
    | true => simp [tidy.closed before]
    | false =>
      obtain ⟨there, quiet, open_⟩ := tidy.opened before
      rw [there, survives, quiet]
      cases next : turns.next with
      | none => simp
      | some holder => simp [open_ holder next]

/-- Only a closed connection has no channel. -/
theorem closed_of_gone (tidy : turns.Tidy) (gone : turns.history.line.connection.channel = none) :
    turns.history.line.connection.closed = true := by
  cases before : turns.history.line.connection.closed with
  | true => rfl
  | false =>
    have there := (tidy.opened before).1
    rw [gone] at there
    cases there

/-- Whoever gets hold of the channel finds it as the one before has left it. -/
theorem take (tidy : turns.Tidy) (place : Nat) : (turns.perform (.take place)).Tidy := by
  simp only [perform]
  split
  · rename_i sending free idle waits
    refine ⟨fun _ => idle, rfl, fun still => ?_, fun closed => ?_⟩
    · -- The connection is open, and so it was when the channel was taken.
      obtain ⟨there, quiet, -⟩ := tidy.opened still
      have still : turns.history.line.connection.closed = false := still
      refine ⟨there, quiet, fun holder mine => ?_⟩
      cases mine
      simp [still]
    · have closed : turns.history.line.connection.closed = true := closed
      simpa [survives, History.hold, idle, free, closed] using tidy.closed closed
  · exact tidy

/-- A holder that goes away leaves the channel where it is. -/
theorem pass (tidy : turns.Tidy) : (turns.perform .pass).Tidy := by
  simp only [perform]
  split
  · exact tidy
  · rename_i holder next
    -- One who has yet to begin has no exchange in flight.
    have idle : turns.history.flight = none := tidy.single (by rw [next]; rfl)
    refine ⟨fun none => (by cases none), ?_, fun still => ?_, fun closed => ?_⟩
    · simp [History.hold, idle]
    · have still : turns.history.line.connection.closed = false := still
      exact ⟨(tidy.opened still).1, by simp [still], fun _ none => (by cases none)⟩
    · have closed : turns.history.line.connection.closed = true := closed
      simpa [survives, History.hold, next, idle, closed] using tidy.closed closed

/-- A holder that begins keeps the channel that it finds, and gives up its turn when it finds
none. -/
theorem start (tidy : turns.Tidy) : (turns.perform .begin).Tidy := by
  simp only [perform]
  split
  · exact tidy
  · rename_i holder next
    have idle : turns.history.flight = none := tidy.single (by rw [next]; rfl)
    cases found : turns.history.line.connection.channel with
    | none =>
      rw [(turns.history.ready holder.sending).perform_start_lost idle rfl found]
      have closed := tidy.closed_of_gone found
      -- Nobody was interrupted over a connection that has lost its channel.
      have gone : turns.survives = false := by rw [← tidy.closed closed, found]; rfl
      have quiet : turns.interrupted = false := by
        simp only [survives, Bool.or_eq_false_iff] at gone
        exact gone.1.1
      refine ⟨fun none => (by cases none), ?_, fun still => ?_, fun _ => ?_⟩
      · simp [History.ready, History.hold, idle]
      · exact absurd (closed.symm.trans still) (by simp)
      · simp [History.ready, History.hold, idle, found, survives, quiet]
    | some channel =>
      rw [(turns.history.ready holder.sending).perform_start idle rfl found]
      obtain ⟨held, closed, there⟩ := Line.of_grip
        ((turns.history.ready holder.sending).line.grip_start holder.sending found)
      refine ⟨fun none => (by cases none), held, fun still => ?_, fun _ => ?_⟩
      · obtain ⟨-, quiet, -⟩ := tidy.opened (closed.symm.trans still)
        exact ⟨there, quiet, fun _ none => (by cases none)⟩
      · simpa [survives, History.receive] using there

/-- A history whose exchange has ended is in order when the channel of an open connection is there,
and that of a closed one only if the exchange was interrupted. -/
theorem ended (tidy : turns.Tidy) {closed there interrupted : Bool}
    (flying : turns.history.flight.isSome = true) (flight : history.flight = none)
    (grip : history.line.grip = (false, closed, there))
    (opened : closed = false → there = true ∧ interrupted = false)
    (left : closed = true → there = interrupted) : { turns with history, interrupted }.Tidy := by
  obtain ⟨unheld, rfl, rfl⟩ := Line.of_grip grip
  -- While an exchange was in flight, nobody else had got hold of the channel.
  have free : turns.next = none := by
    cases next : turns.next with
    | none => rfl
    | some holder =>
      rw [tidy.single (by rw [next]; rfl)] at flying
      cases flying
  refine ⟨fun _ => flight, ?_, fun still => ?_, fun done => ?_⟩
  · simp [unheld, free, flight]
  · exact ⟨(opened still).1, (opened still).2, by simp [free]⟩
  · simp [survives, flight, free, left done]

/-- The exchange in flight has its channel. -/
theorem there_of_flying (tidy : turns.Tidy) (flying : turns.history.flight.isSome = true) :
    turns.history.line.connection.channel.isSome = true := by
  cases before : turns.history.line.connection.closed with
  | false => exact (tidy.opened before).1
  | true => simp [tidy.closed before, survives, flying]

/-- An exchange that ends by itself leaves a closed connection without its channel; one that nobody
waits for leaves the channel behind. -/
theorem settle (tidy : turns.Tidy) : (turns.perform (.happen .settle)).Tidy := by
  cases flying : turns.history.flight with
  | none =>
    simp only [perform, History.perform, interruption, flying]
    exact tidy
  | some exchange =>
    obtain ⟨sending, ending⟩ := exchange
    have some : turns.history.flight.isSome = true := by rw [flying]; rfl
    obtain ⟨line, flight⟩ := turns.history.perform_settle flying
    have grip := turns.history.line.grip_settle sending ending
    rw [← line] at grip
    simp only [perform, interruption, flying]
    -- However it ends, the turn is over; only one that nobody waits for leaves its channel behind.
    cases ending with
    | completed time response channel => exact tidy.ended some flight grip (by simp) (by simp)
    | failed time cause => exact tidy.ended some flight grip (by simp) (by simp)
    | never => exact tidy.ended some flight grip (by simp) fun _ => tidy.there_of_flying some

/-- An exchange that is cancelled leaves its channel behind. -/
theorem cancel (tidy : turns.Tidy) : (turns.perform (.happen .cancel)).Tidy := by
  -- Where nothing is in flight there is nothing to cancel.
  cases flying : turns.history.flight with
  | none =>
    simp only [perform, History.perform, interruption, flying]
    exact tidy
  | some exchange =>
    have some : turns.history.flight.isSome = true := by rw [flying]; rfl
    simp only [perform, History.perform, interruption, flying]
    exact tidy.ended some rfl turns.history.line.grip_abandon (by simp)
      fun _ => tidy.there_of_flying some

/-- What happens apart from the exchanges that take turns keeps the channel in order: only a closing
has anything to do with it. -/
theorem happen (tidy : turns.Tidy) (happening : Happening) :
    (turns.perform (.happen happening)).Tidy := by
  cases happening with
  | register request context =>
    obtain ⟨network, same, -⟩ := register_network turns.history.line request context
    refine tidy.of_same ?_ ?_
    · simp only [History.perform]
      split <;> rfl
    · simp only [History.perform]
      -- With an id or without one, the request is a matter of the network alone.
      split <;> (rename_i registered; rw [registered] at same)
      · exact (congrArg Line.grip same).trans rfl
      · exact (congrArg Line.grip same).trans rfl
  | start place => exact tidy
  | settle => exact tidy.settle
  | cancel => exact tidy.cancel
  | forgo place => exact tidy.of_same rfl rfl
  | serve deliveries =>
    refine tidy.of_same ?_ ?_ <;> simp only [History.perform] <;> split
    · rfl
    · rfl
    · rename_i found
      simp [Line.grip, History.receive, found]
    · rfl
  | close reason => exact tidy.close _ rfl reason
  | pin mode =>
    refine tidy.of_same rfl ?_
    simp only [History.perform, Line.pin]
    split <;> rfl
  | retain =>
    refine tidy.of_same ?_ ?_ <;> simp only [History.perform, Line.retain] <;>
      cases turns.history.line.connection.references.retain .connection <;> rfl
  | release =>
    show ({ turns with history := turns.history.change turns.history.line.release } : Turns).Tidy
    unfold Line.release
    cases turns.history.line.connection.references.release .connection with
    | error fault => exact tidy
    | ok released =>
      obtain ⟨last, references⟩ := released
      -- Only the last reference has anything to do with the channel.
      cases last with
      | true =>
        let connection := { turns.history.line.connection with references }
        exact tidy.close { turns.history.line with connection } rfl .lastReference
      | false => exact tidy.of_same rfl rfl
  | elsewhere change => exact tidy.of_same rfl rfl

/-- Every turn keeps the channel in order. -/
theorem perform (tidy : turns.Tidy) (turn : Handover) : (turns.perform turn).Tidy := by
  cases turn with
  | take place => exact tidy.take place
  | begin => exact tidy.start
  | pass => exact tidy.pass
  | happen happening => exact tidy.happen happening

/-- Turns keep the channel in order, however many there are and in whatever order. -/
theorem run (tidy : turns.Tidy) (moves : List Handover) : (turns.run moves).Tidy := by
  induction moves generalizing turns with
  | nil => exact tidy
  | cons turn rest ih => exact ih (tidy.perform turn)

end Turns.Tidy

namespace Turns

variable (turns : Turns)

/-- Whoever begins sends its message when the channel is there and the server has not hung up. -/
theorem sent_begin {holder : Holder} (tidy : turns.Tidy) (next : turns.next = some holder) :
    (turns.perform .begin).history.line.network.sent = turns.history.line.network.sent ++
      if turns.history.line.connection.channel.any (!·.hungUp) then
        [(turns.history.line.connection.id.number, holder.sending.bytes)]
      else [] := by
  have idle : turns.history.flight = none := tidy.single (by rw [next]; rfl)
  simp only [perform, next]
  -- The turn begins with the channel as the last holder has left it.
  cases found : turns.history.line.connection.channel with
  | none =>
    rw [(turns.history.ready holder.sending).perform_start_lost idle rfl found]
    simp [History.ready, History.hold]
  | some channel =>
    rw [(turns.history.ready holder.sending).perform_start idle rfl found]
    simp only [History.receive]
    cases hungUp : channel.hungUp with
    | true =>
      rw [Line.start_hungUp _ _ hungUp]
      simp [History.ready, History.hold, hungUp]
    | false =>
      rw [Line.start_connected _ _ hungUp]
      simp [History.ready, History.hold, Network.record, hungUp]

/-- Along every run of a connection whose exchanges take turns, from the moment when it was made:
when no exchange is in flight and the connection is closed, its channel is gone exactly when the
last exchange that held it was not interrupted and whoever holds it now did not get hold of it
while the connection was open. Whoever begins sends its message exactly when the channel is there,
be the connection closed or not, and the server has not hung up; and whoever begins as soon as it
got hold of the channel does the same as one that starts. -/
theorem channel_of_run (line : Line) (id : ConnectionId) (description : ConnectionDescription)
    (channel : Channel) (moves : List Handover) :
    let turns := (Turns.begin { line with connection := .fresh id description channel }).run moves
    let connection := turns.history.line.connection
    (turns.history.flight = none → connection.closed = true →
      (connection.channel = none ↔ turns.interrupted = false ∧
        ∀ holder ∈ turns.next, holder.wasOpen = false)) ∧
    (connection.closed = false → connection.channel.isSome = true) ∧
    (∀ holder, turns.next = some holder →
      (turns.perform .begin).history.line.network.sent = turns.history.line.network.sent ++
        if connection.channel.any (!·.hungUp) then [(connection.id.number, holder.sending.bytes)]
        else []) ∧
    ∀ place sending, turns.next = none → turns.history.flight = none →
      turns.history.waiting[place]? = some sending →
      ((turns.perform (.take place)).perform .begin).history
        = turns.history.perform (.start place) := by
  intro turns connection
  have tidy : turns.Tidy := (Tidy.begin line id description channel).run moves
  refine ⟨fun idle closed => ?_, fun still => (tidy.opened still).1, fun holder next => ?_,
    fun place sending free idle waits => turns.take_begin free idle waits ?_⟩
  · have left := tidy.closed closed
    rw [← Option.not_isSome_iff_eq_none, left]
    cases next : turns.next <;> simp [survives, idle, next]
  · exact turns.sent_begin tidy next
  · rw [tidy.held, free, idle]
    rfl

/-- An exchange that is cancelled leaves the channel of the closed connection behind, and the one
that waits sends its message over it. -/
example :
    let request := Request.killCursors { cursors := [] }
    let connection := Connection.fresh default { address := default } {}
    let turns := (Turns.begin { connection, network := {} }).run
      [.happen (.register request {}), .happen (.register request {}), .take 0, .begin,
        .happen .cancel, .take 0]
    turns.history.line.connection.closed = true ∧ turns.history.flight.isNone ∧
      turns.history.line.connection.channel.isSome ∧
      (turns.perform .begin).history.line.network.sent.length
        = turns.history.line.network.sent.length + 1 := by
  decide +kernel

end Turns

end DocWire
