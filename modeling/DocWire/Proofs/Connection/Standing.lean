import DocWire.Proofs.Connection.Answers
import DocWire.Proofs.World.Counts

/-! The standing of a connection along every history: whether it is closed, what it is dedicated to
and how many hold it. A request that cannot go out changes none of this, an exchange that fails or
is given up closes the connection, and nothing opens it again. -/

namespace DocWire

/-- A connection that was just made; its maker holds the only reference. -/
def Connection.fresh (id : ConnectionId) (description : ConnectionDescription) (channel : Channel) :
    Connection :=
  { id, description, channel := some channel }

/-- Whether a request can go out over a line: somebody holds the connection, it is open, and the
request has a form that is not too long for the server. -/
structure Line.Admits (line : Line) (request : Request) : Prop where
  held : line.connection.references.count ≠ 0
  opened : line.connection.closed = false
  fits : ∃ bytes, request.encode line.network.nextRequest = .ok bytes ∧
    bytes.length ≤ line.connection.description.messageBytes

namespace Line

variable (line : Line)

/-- A connection can be used while somebody holds it and it is open. -/
theorem ensureOpen_eq_ok :
    line.ensureOpen = .ok () ↔
      line.connection.references.count ≠ 0 ∧ line.connection.closed = false := by
  unfold ensureOpen References.ensureLive References.isReleased
  by_cases released : line.connection.references.count = 0
  · simp [released]
  · cases line.connection.closed <;> simp [released]

/-- A connection that is closed is refused, or it is one that nobody holds any more. -/
theorem ensureOpen_closed (closed : line.connection.closed = true) :
    ∃ cause, line.ensureOpen = .error cause ∧
      (cause = .lifecycle (.usedAfterRelease .connection) ∨
        cause = .closed line.connection.id) := by
  unfold ensureOpen References.ensureLive References.isReleased
  -- That nobody holds the connection is told first.
  by_cases released : line.connection.references.count = 0
  · simp [released]
  · simp [released, closed]

end Line

section Refusal

variable {line : Line} {request : Request} {context : Correlation}

/-- What a request is refused for before it goes out, if it is: nobody holds the connection or it is
closed, or the request has no bytes, or too many. -/
def Line.refusal (line : Line) (request : Request) : Except Cause Unit := do
  line.ensureOpen
  let bytes ← request.encode line.network.nextRequest
  checkLength bytes line.connection.description

/-- A request that is not refused is one that can go out. -/
theorem refusal_eq_ok : line.refusal request = .ok () ↔ line.Admits request := by
  unfold Line.refusal
  refine ⟨fun passed => ?_, fun ⟨held, opened, bytes, encoded, short⟩ => ?_⟩
  · obtain ⟨_, ready, passed⟩ := Work.except_bind_ok passed
    obtain ⟨bytes, encoded, fits⟩ := Work.except_bind_ok passed
    obtain ⟨held, opened⟩ := line.ensureOpen_eq_ok.mp ready
    refine ⟨held, opened, bytes, encoded, ?_⟩
    unfold checkLength at fits
    split at fits
    · cases fits
    · omega
  · rw [line.ensureOpen_eq_ok.mpr ⟨held, opened⟩, encoded]
    exact if_neg (Nat.not_lt.mpr short)

/-- A request gets its id for good, or else it fails with what it is refused for. -/
theorem register_fst (line : Line) (request : Request) (context : Correlation) :
    match line.refusal request with
    | .ok _ => (register request context line).1.isOk = true
    | .error cause => (register request context line).1 = .error (.ofCause cause) := by
  simp only [register, Line.refusal, Work.bind_apply, Work.get_apply]
  cases line.ensureOpen with
  | error cause => rfl
  | ok _ =>
    simp only [Exchange.check_ok, Work.set_apply]
    cases request.encode line.network.nextRequest with
    | error cause => rfl
    | ok bytes =>
      simp only [Exchange.check_ok, bind, Except.bind]
      cases checkLength bytes line.connection.description <;> rfl

/-- A request gets an id for good exactly when it can go out. -/
theorem register_isOk :
    (register request context line).1.isOk = true ↔ line.Admits request := by
  rw [← refusal_eq_ok]
  have outcome := register_fst line request context
  cases refused : line.refusal request with
  | ok _ =>
    rw [refused] at outcome
    exact iff_of_true outcome rfl
  | error cause =>
    rw [refused] at outcome
    rw [outcome]
    exact iff_of_false nofun nofun

/-- A request that gets no id is not sent at all. -/
theorem send_refused {halt : Halt} {after : Line}
    (refused : register request context line = (.error halt, after)) :
    send request context line = (.error halt, after) := by
  simp only [send, Work.bind_apply, refused]

/-- A request that cannot go out fails, with nothing sent and the connection as it was. -/
theorem send_unadmitted (refused : ¬ line.Admits request) :
    ∃ halt after, send request context line = (.error halt, after) ∧
      after.connection = line.connection ∧ after.network.sent = line.network.sent := by
  obtain ⟨network, same, quiet⟩ := register_network line request context
  rcases registered : register request context line with ⟨halt | sending, after⟩
  · rw [registered] at same
    obtain rfl : after = { line with network } := same
    exact ⟨halt, _, send_refused registered, rfl, quiet⟩
  · -- An id that was given would show that the request can go out.
    have accepted : (register request context line).1.isOk = true := by
      rw [registered]
      rfl
    exact absurd (register_isOk.mp accepted) refused

/-- Over a connection that is closed nothing is sent, and nothing at all is changed. -/
theorem send_closed (closed : line.connection.closed = true) (request : Request)
    (context : Correlation) :
    ∃ cause, send request context line = (.error (.ofCause cause), line) ∧
      (cause = .lifecycle (.usedAfterRelease .connection) ∨
        cause = .closed line.connection.id) := by
  obtain ⟨cause, refused, known⟩ := line.ensureOpen_closed closed
  refine ⟨cause, send_refused ?_, known⟩
  -- Not even an id is spent.
  simp only [register, Work.bind_apply, Work.get_apply, refused]
  rfl

end Refusal

namespace Line

variable (line : Line)

@[simp] theorem closed_markClosed (reason : CloseReason) :
    (line.markClosed reason).connection.closed = true := by
  rw [connection_markClosed]

@[simp] theorem closed_abandon : line.abandon.connection.closed = true :=
  line.closed_markClosed .exchangeCancelled

/-- A connection stays as open as it was when an exchange is completed, and is closed when it ends
in any other way. -/
theorem closed_settle (sending : Sending) (ending : Ending) :
    (line.settle sending ending).2.connection.closed =
      match ending with
      | .completed .. => line.connection.closed
      | _ => true := by
  cases ending with
  | completed time response channel => rfl
  | failed time cause => exact closed_markClosed _ _
  | never => exact closed_abandon _

@[simp] theorem closed_start (sending : Sending) (channel : Channel) :
    (line.start sending channel).1.connection.closed = line.connection.closed := by
  cases hungUp : channel.hungUp with
  | true => rw [line.start_hungUp sending hungUp]
  | false => rw [line.start_connected sending hungUp]

/-- An exchange that starts loses no channel. -/
theorem channel_start {sending : Sending} {channel : Channel}
    (gone : (line.start sending channel).1.connection.channel = none) :
    line.connection.channel = none := by
  cases hungUp : channel.hungUp with
  | true =>
    rw [line.start_hungUp sending hungUp] at gone
    exact gone
  | false =>
    -- The channel that the server has reacted on stands in its place.
    rw [line.start_connected sending hungUp] at gone
    cases gone

/-- A connection that somebody closes is closed then, whether it was before or not. -/
@[simp] theorem closed_close (reason : CloseReason) :
    (line.close reason).connection.closed = true := by
  unfold close
  split
  · assumption
  -- With or without an exchange in flight, the flag is set.
  · split <;> exact line.closed_markClosed reason

@[simp] theorem lasting_close (reason : CloseReason) :
    (line.close reason).lasting = line.lasting := by
  unfold close
  split
  · rfl
  · split <;> exact line.lasting_markClosed reason

/-- The references to a connection, and nothing else, are what is given. -/
def recounted (number : Nat) : Line :=
  { line with connection := { line.connection with references := .held number } }

/-- Whoever gives up a reference leaves one less, and the last one closes the connection. -/
theorem release_held {number : Nat}
    (held : line.connection.references = .held (number + 1)) :
    line.release = .ok (if number = 0 then (line.recounted 0).close .lastReference
      else line.recounted number) := by
  unfold release
  rw [held, References.release_held]
  -- Only the last reference claims the teardown.
  by_cases last : number = 0 <;> simp [last, recounted]

end Line

/-- What holds of every connection that is in use: the latch of its count is open as long as
somebody holds it; and it is closed when nobody does, or when its channel is gone. -/
structure Connection.Sane (connection : Connection) : Prop where
  counted : connection.references = .held connection.references.count
  released : connection.references.count = 0 → connection.closed = true
  parted : connection.channel = none → connection.closed = true

/-- A connection that was just made is in order. -/
theorem Connection.sane_fresh (id : ConnectionId) (description : ConnectionDescription)
    (channel : Channel) : (Connection.fresh id description channel).Sane where
  counted := rfl
  released none := by cases none
  parted none := by cases none

namespace Connection.Sane

variable {line after : Line}

/-- A connection stays in order when it is closed, or when it loses no channel. -/
theorem of_closed (sane : line.connection.Sane) (same : after.lasting = line.lasting)
    (closed : after.connection.closed = true) : after.connection.Sane where
  counted := by
    have counts : after.connection.references = line.connection.references :=
      congrArg Line.Lasting.references same
    rw [counts]
    exact sane.counted
  released _ := closed
  parted _ := closed

/-- A connection stays in order while it keeps its flag, its references and a channel. -/
theorem of_same (sane : line.connection.Sane)
    (references : after.connection.references = line.connection.references)
    (closed : after.connection.closed = line.connection.closed)
    (kept : after.connection.channel = none → line.connection.channel = none ∨
      line.connection.closed = true) : after.connection.Sane where
  counted := by
    rw [references]
    exact sane.counted
  -- Whoever is gone now was gone before, and then the flag was set.
  released none := by
    rw [references] at none
    rw [closed]
    exact sane.released none
  parted gone := by
    rw [closed]
    rcases kept gone with lost | done
    · exact sane.parted lost
    · exact done

end Connection.Sane

/-- An exchange over an open connection leaves it open when it is completed, and closed when it is
not. -/
theorem closed_carryOut {line : Line} {sending : Sending} {channel : Channel}
    (found : line.connection.channel = some channel) (opened : line.connection.closed = false) :
    (carryOut sending line).2.connection.closed = !(carryOut sending line).1.isOk := by
  have wasOpen : (line.start sending channel).1.connection.closed = false :=
    (line.closed_start sending channel).trans opened
  rw [carryOut_some found, Line.closed_settle]
  -- The ending that was foreseen decides.
  cases (line.start sending channel).2 with
  | completed time response rest => exact wasOpen
  | failed time cause => rfl
  | never => rfl

/-- A request that can go out, and has a channel to go out over, leaves the connection open when its
exchange is completed, and closed when it is not. -/
theorem closed_send_channel {line : Line} {request : Request} {context : Correlation}
    {channel : Channel} (found : line.connection.channel = some channel)
    (admits : line.Admits request) :
    (send request context line).2.connection.closed = !(send request context line).1.isOk := by
  obtain ⟨network, same, -⟩ := register_network line request context
  have accepted : (register request context line).1.isOk = true := register_isOk.mpr admits
  simp only [send, Work.bind_apply]
  -- A request that is admitted is registered, and that leaves the connection as it is.
  rcases registered : register request context line with ⟨halt | sending, middle⟩
  · rw [registered] at accepted
    cases accepted
  · rw [registered] at same
    have connection : middle.connection = line.connection := by
      rw [show middle = { line with network } from same]
    exact closed_carryOut (connection ▸ found) (connection ▸ admits.opened)

/-- A request that can go out over a connection in order leaves it open when its exchange is
completed, and closed when it is not. -/
theorem closed_send {line : Line} {request : Request} {context : Correlation}
    (sane : line.connection.Sane) (admits : line.Admits request) :
    (send request context line).2.connection.closed = !(send request context line).1.isOk := by
  -- The connection is open, so its channel is there.
  cases found : line.connection.channel with
  | none =>
    have closed := sane.parted found
    rw [admits.opened] at closed
    cases closed
  | some channel => exact closed_send_channel found admits

/-- How many hold a connection after something has happened to it. -/
def Happening.recount (happening : Happening) (count : Nat) : Nat :=
  match happening with
  -- Nobody takes a reference to what is gone.
  | .retain => if count = 0 then 0 else count + 1
  | .release => count - 1
  | _ => count

@[simp] theorem Happening.recount_retain (count : Nat) :
    Happening.retain.recount count = if count = 0 then 0 else count + 1 := rfl

@[simp] theorem Happening.recount_release (count : Nat) :
    Happening.release.recount count = count - 1 := rfl

/-- What a connection is dedicated to after something has happened to it. -/
def Happening.rededicate (happening : Happening) (mode : PinningMode) : PinningMode :=
  match happening with
  | .pin other => other
  | _ => mode

namespace History

/-- Whether something that happens closes the connection: an exchange in flight that is not
completed, a request to close it, or the release of the last reference. -/
def closes (history : History) : Happening → Bool
  | .settle =>
    match history.flight with
    | some (_, .completed ..) | none => false
    | some _ => true
  | .cancel => history.flight.isSome
  | .close _ => true
  | .release => history.line.connection.references.count == 1
  | _ => false

theorem closes_settle (history : History) :
    history.closes .settle = match history.flight with
      | some (_, .completed ..) | none => false
      | some _ => true := rfl

@[simp] theorem closes_cancel (history : History) :
    history.closes .cancel = history.flight.isSome := rfl

@[simp] theorem closes_release (history : History) :
    history.closes .release = (history.line.connection.references.count == 1) := rfl

/-- What one thing that happens does to the standing of a connection. -/
structure Moves (history : History) (happening : Happening) (after : History) : Prop where
  sane : after.line.connection.Sane
  closed : after.line.connection.closed
    = (history.line.connection.closed || history.closes happening)
  pinning : after.line.connection.pinning
    = happening.rededicate history.line.connection.pinning
  count : after.line.connection.references.count
    = happening.recount history.line.connection.references.count

namespace Moves

variable {history after : History} {happening : Happening}

/-- What neither closes a connection nor has to do with those who hold it leaves its standing as it
was. -/
theorem of_same (sane : history.line.connection.Sane)
    (same : after.line.lasting = history.line.lasting)
    (closed : after.line.connection.closed = history.line.connection.closed)
    (kept : after.line.connection.channel = none → history.line.connection.channel = none ∨
      history.line.connection.closed = true)
    (quiet : history.closes happening = false := by rfl)
    (pinning : ∀ mode, happening.rededicate mode = mode := by exact fun _ => rfl)
    (count : ∀ number, happening.recount number = number := by exact fun _ => rfl) :
    history.Moves happening after where
  sane := sane.of_same (congrArg Line.Lasting.references same) closed kept
  closed := by rw [closed, quiet, Bool.or_false]
  pinning := by
    rw [pinning]
    exact congrArg Line.Lasting.pinning same
  count := by
    rw [count]
    exact congrArg (·.references.count) same

/-- What closes a connection changes nothing else about its standing. -/
theorem of_closed (sane : history.line.connection.Sane)
    (same : after.line.lasting = history.line.lasting)
    (closed : after.line.connection.closed = true) (closes : history.closes happening = true)
    (pinning : ∀ mode, happening.rededicate mode = mode := by exact fun _ => rfl)
    (count : ∀ number, happening.recount number = number := by exact fun _ => rfl) :
    history.Moves happening after where
  sane := sane.of_closed same closed
  closed := by rw [closed, closes, Bool.or_true]
  pinning := by
    rw [pinning]
    exact congrArg Line.Lasting.pinning same
  count := by
    rw [count]
    exact congrArg (·.references.count) same

end Moves

variable {history : History}

/-- Whether a request gets an id or not, the standing of the connection is the same. -/
theorem moves_register (sane : history.line.connection.Sane) (request : Request)
    (context : Correlation) :
    history.Moves (.register request context) (history.perform (.register request context)) := by
  obtain ⟨network, same, -⟩ := register_network history.line request context
  have line : (history.perform (.register request context)).line
      = { history.line with network } := by
    simp only [perform]
    -- A refusal and an id leave the same line behind, but for the network.
    split <;> (rename_i registered; rw [registered] at same; exact same)
  refine .of_same sane (by rw [line]; rfl) (by rw [line]) fun gone => .inl ?_
  rw [line] at gone
  exact gone

/-- An exchange that starts leaves the standing of the connection alone. -/
theorem moves_start (sane : history.line.connection.Sane) (place : Nat) :
    history.Moves (.start place) (history.perform (.start place)) := by
  simp only [perform]
  -- Either the exchange takes the channel, or it finds none, or it is not its turn.
  split
  · rename_i sending channel idle next found
    exact .of_same sane (history.line.lasting_start sending channel)
      (history.line.closed_start sending channel) fun gone => .inl (history.line.channel_start gone)
  · exact .of_same sane rfl rfl .inl
  · exact .of_same sane rfl rfl .inl

/-- An exchange that ends leaves the connection as open as it was when it is completed, and closes
it in every other case. -/
theorem moves_settle (sane : history.line.connection.Sane) :
    history.Moves .settle (history.perform .settle) := by
  simp only [perform]
  split
  · rename_i idle
    exact .of_same sane rfl rfl .inl (by simp [closes_settle, idle])
  · rename_i sending ending flying
    have same := history.line.lasting_settle sending ending
    have closed := history.line.closed_settle sending ending
    cases ending with
    | completed time response channel =>
      refine .of_same sane same closed (fun gone => ?_) (by simp [closes_settle, flying])
      -- Only a connection that was closed meanwhile loses the channel now.
      cases wasClosed : history.line.connection.closed with
      | true => exact .inr rfl
      | false => simp [Line.settle, Line.emit, wasClosed] at gone
    | failed time cause => exact .of_closed sane same closed (by simp [closes_settle, flying])
    | never => exact .of_closed sane same closed (by simp [closes_settle, flying])

/-- An exchange that is cancelled closes the connection. -/
theorem moves_cancel (sane : history.line.connection.Sane) :
    history.Moves .cancel (history.perform .cancel) := by
  simp only [perform]
  split
  · rename_i idle
    exact .of_same sane rfl rfl .inl (by simp [idle])
  · rename_i flying
    exact .of_closed sane history.line.lasting_abandon history.line.closed_abandon
      (by simp [flying])

/-- What the server sends unasked leaves the standing of the connection alone. -/
theorem moves_serve (sane : history.line.connection.Sane) (deliveries : List Delivery) :
    history.Moves (.serve deliveries) (history.perform (.serve deliveries)) := by
  simp only [perform]
  split
  · exact .of_same sane rfl rfl fun gone => (by cases gone)
  · exact .of_same sane rfl rfl .inl

/-- A mode is all that changes when a connection is pinned. -/
theorem moves_pin (sane : history.line.connection.Sane) (mode : PinningMode) :
    history.Moves (.pin mode) (history.perform (.pin mode)) := by
  simp only [perform, Line.pin]
  split
  · -- A mode that the connection has already is not set again.
    rename_i kept
    exact ⟨sane, (Bool.or_false _).symm, kept, rfl⟩
  · exact ⟨sane.of_same rfl rfl .inl, (Bool.or_false _).symm, rfl, rfl⟩

/-- One more holds the connection, if anybody does. -/
theorem moves_retain (sane : history.line.connection.Sane) :
    history.Moves .retain (history.perform .retain) := by
  have counted := sane.counted
  simp only [perform, Line.retain]
  cases held : history.line.connection.references.count with
  | zero =>
    -- Nobody can take a reference to what is gone.
    rw [held] at counted
    rw [counted, References.retain_gone]
    exact ⟨sane, (Bool.or_false _).symm, rfl, by simp [change, held]⟩
  | succ number =>
    rw [held] at counted
    rw [counted, References.retain_held]
    refine ⟨⟨rfl, fun none => (by cases none), sane.parted⟩, (Bool.or_false _).symm, rfl, ?_⟩
    simp [change, held]

/-- One less holds the connection, and the last one closes it. -/
theorem moves_release (sane : history.line.connection.Sane) :
    history.Moves .release (history.perform .release) := by
  have counted := sane.counted
  simp only [perform]
  cases held : history.line.connection.references.count with
  | zero =>
    -- There is nothing to give up below zero.
    rw [held] at counted
    rw [Line.release, counted, References.release_gone]
    exact ⟨sane, by simp [change, held], rfl, by simp [change, held]⟩
  | succ number =>
    rw [held] at counted
    rw [history.line.release_held counted]
    by_cases last : number = 0
    · -- The flag is set when the count has reached zero.
      have same := (history.line.recounted 0).lasting_close .lastReference
      have references : (((history.line.recounted 0).close .lastReference).connection.references)
          = .held 0 := congrArg Line.Lasting.references same
      rw [if_pos last]
      refine ⟨⟨?_, fun _ => Line.closed_close .., fun _ => Line.closed_close ..⟩, ?_,
        congrArg Line.Lasting.pinning same, ?_⟩
      · simp only [change, references, References.count_held]
      · simp [change, held, last]
      · simp [change, references, held, last]
    · rw [if_neg last]
      refine ⟨⟨rfl, fun none => absurd none last, sane.parted⟩, ?_, rfl, ?_⟩
      · simp [change, held, last, Line.recounted]
      · simp [change, held, Line.recounted]

/-- Whatever happens does to the standing of the connection what it is to do, and nothing else. -/
theorem moves_perform (sane : history.line.connection.Sane) (happening : Happening) :
    history.Moves happening (history.perform happening) := by
  -- What neither closes nor counts leaves the standing the same.
  cases happening with
  | register request context => exact moves_register sane request context
  | start place => exact moves_start sane place
  | settle => exact moves_settle sane
  | cancel => exact moves_cancel sane
  | forgo place => exact .of_same sane rfl rfl .inl
  | serve deliveries => exact moves_serve sane deliveries
  | close reason =>
    exact .of_closed sane (history.line.lasting_close reason) (history.line.closed_close reason) rfl
  | pin mode => exact moves_pin sane mode
  | retain => exact moves_retain sane
  | release => exact moves_release sane
  | elsewhere change => exact .of_same sane rfl rfl .inl

/-- A connection stays in order whatever happens, and in whatever order. -/
theorem sane_run (sane : history.line.connection.Sane) (happenings : List Happening) :
    (history.run happenings).line.connection.Sane := by
  -- Each thing that happens finds the connection in order and leaves it so.
  induction happenings generalizing history with
  | nil => exact sane
  | cons happening rest ih => exact ih (moves_perform sane happening).sane

/-- A connection that is closed is closed ever after. -/
theorem closed_run (sane : history.line.connection.Sane)
    (closed : history.line.connection.closed = true) (happenings : List Happening) :
    (history.run happenings).line.connection.closed = true := by
  induction happenings generalizing history with
  | nil => exact closed
  | cons happening rest ih =>
    have moves := moves_perform sane happening
    -- The flag can be set by what happens, but never taken back.
    have still : (history.perform happening).line.connection.closed = true := by
      rw [moves.closed, closed, Bool.true_or]
    exact ih moves.sane still

/-- Along every history of a connection, from the moment when it was made: it is closed when nobody
holds it; everything that happens to it does what it is to do to its flag, its mode and its count,
and nothing else; a request that cannot go out fails with nothing sent and nothing changed; any
other that is sent by itself keeps the connection open when its exchange is completed, and closes it
when not; and once the connection is closed it stays so, and every later request is refused. -/
theorem standing_of_run (line : Line) (id : ConnectionId) (description : ConnectionDescription)
    (channel : Channel) (happenings : List Happening) :
    let history := (begin { line with connection := .fresh id description channel }).run happenings
    let connection := history.line.connection
    (connection.references.count = 0 → connection.closed = true) ∧
    (∀ happening, history.Moves happening (history.perform happening)) ∧
    (∀ request context, ¬ history.line.Admits request →
      ∃ halt after, send request context history.line = (.error halt, after) ∧
        after.connection = connection ∧ after.network.sent = history.line.network.sent) ∧
    (history.flight = none → ∀ request context, history.line.Admits request →
      let (result, after) := send request context history.line
      after.connection.closed = !result.isOk ∧ after.lasting = history.line.lasting) ∧
    (connection.closed = true ∨ connection.references.count = 0 → ∀ more request context,
      let later := (history.run more).line
      later.connection.closed = true ∧
        ∃ cause, send request context later = (.error (.ofCause cause), later) ∧
          (cause = .lifecycle (.usedAfterRelease .connection) ∨
            cause = .closed later.connection.id)) := by
  intro history connection
  have sane : connection.Sane := sane_run (Connection.sane_fresh id description channel) happenings
  refine ⟨sane.released, fun happening => moves_perform sane happening,
    fun request context refused => ?_, fun _ request context admits => ?_,
    fun done more request context => ?_⟩
  · exact send_unadmitted refused
  · exact ⟨closed_send sane admits, lasting_send request context history.line⟩
  · -- A connection that nobody holds any more has been closed by the last release.
    have closed : connection.closed = true := by
      rcases done with closed | released
      · exact closed
      · exact sane.released released
    have still := closed_run sane closed more
    exact ⟨still, send_closed still request context⟩

end History

end DocWire
