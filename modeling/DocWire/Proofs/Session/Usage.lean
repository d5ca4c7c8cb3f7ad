import DocWire.Proofs.Command.Telling
import DocWire.Proofs.Session.Course

/-! The use of sessions by commands, on connections and through bindings: whatever goes out under
the name of a session goes out while that session is open. A server session that serves again does
so for its new holder alone. -/

namespace DocWire

/-- How connections are handed out: in any way that sends nothing and leaves sessions alone. -/
structure Checkout where
  run : Server → Act Nat
  quiet : ∀ server, Work.Keeps (fun world => (world.stock, world.sent)) (run server)

namespace Source

/-- The sessions that are judged before a source gives a connection. -/
def guarded : Source → List Nat
  | server .. => []
  | session _ binding inner => (binding.sessionUse.map (·.session)).toList ++ inner.guarded

/-- A session that may be used is not closed. -/
theorem ensureUsable_session {session : Nat} {world after : World}
    (usable : Act.ensureUsable session world = (.ok (), after)) :
    (world.sessions.get session).closed = false := by
  cases closed : (world.sessions.get session).closed with
  | false => rfl
  | true =>
    simp only [Act.ensureUsable, Work.bind_apply, Work.get_apply, ClientSession.ensureUsable,
      closed, if_true] at usable
    cases usable

/-- A source may be used only while all the sessions that it is judged by are open. -/
theorem ensureUsable_ok {source : Source} {world after : World}
    (usable : source.ensureUsable world = (.ok (), after)) :
    ∀ key ∈ source.guarded, (world.sessions.get key).closed = false := by
  induction source generalizing world after with
  | server count binding selected => simp [guarded]
  | session count binding inner ih =>
    obtain ⟨_, _, live, judged⟩ := Work.bind_ok usable
    obtain rfl := Work.Keeps.same (Act.keeps_ensureLive _ _) live
    cases under : binding.sessionUse with
    | none =>
      rw [under] at judged
      simpa [guarded, under] using ih judged
    | some use =>
      rw [under] at judged
      obtain ⟨_, _, passed, rest⟩ := Work.bind_ok judged
      have looked : Work.Keeps id (Act.ensureUsable use.session) :=
        .bind .get fun _ => Act.keeps_checkLifecycle _
      obtain rfl := looked.same passed
      intro key among
      simp only [guarded, under, Option.map_some, Option.toList_some, List.cons_append,
        List.nil_append, List.mem_cons] at among
      -- The session of the binding is judged first, and then those of the source inside.
      rcases among with rfl | inside
      · exact ensureUsable_session passed
      · exact ih rest key inside

theorem silent_connection (source : Source) (checkout : Checkout) :
    Act.Silent (source.connection checkout.run) :=
  .bind source.keeps_ensureUsable fun _ => (checkout.quiet source.target).part Prod.snd

theorem stock_connection (source : Source) (checkout : Checkout) :
    Work.Keeps World.stock (source.connection checkout.run) :=
  .bind source.keeps_ensureUsable fun _ => (checkout.quiet source.target).part Prod.fst

/-- A source gives a connection only while all the sessions that it is judged by are open. -/
theorem connection_ok {source : Source} {checkout : Checkout} {world after : World}
    {connection : Nat}
    (connected : source.connection checkout.run world = (.ok connection, after)) :
    ∀ key ∈ source.guarded, (after.sessions.get key).closed = false := by
  intro key among
  have quiet := source.stock_connection checkout world
  rw [connected] at quiet
  -- The checkout that comes after the judgement leaves the sessions alone.
  have same : after.sessions = world.sessions := congrArg Prod.fst quiet
  obtain ⟨_, judged, usable, -⟩ := Work.bind_ok connected
  rw [same]
  exact ensureUsable_ok usable key among

end Source

namespace Binding

/-- A source is judged by all sessions of the binding that it was acquired from. -/
theorem guarded_finishAcquire {binding : Binding} {selected : Server} {source : Source}
    (acquired : Act.Yields (binding.finishAcquire selected) source) :
    source.guarded = binding.sessions ∧ source.sessionUse = binding.sessionUse := by
  obtain ⟨world, after, acquired⟩ := acquired
  induction binding generalizing source world after with
  | cluster count topology preference =>
    obtain ⟨_, _, -, made⟩ := Work.bind_ok acquired
    obtain ⟨_, _, -, made⟩ := Work.bind_ok made
    cases made
    exact ⟨rfl, rfl⟩
  | session count inner held owned ih =>
    obtain ⟨inside, _, lent, made⟩ := Work.bind_ok acquired
    obtain ⟨retained, _, -, made⟩ := Work.bind_ok made
    rcases retained with halt | _
    · -- What could not be retained was given back, and the failure went on.
      obtain ⟨_, _, -, made⟩ := Work.bind_ok made
      cases made
    · obtain ⟨_, _, -, made⟩ := Work.bind_ok made
      cases made
      exact ⟨congrArg (held :: ·) (ih _ _ lent).1, rfl⟩

theorem guarded_acquire {binding : Binding} {intent : Intent} {source : Source}
    (acquired : Act.Yields (binding.acquire intent) source) :
    source.guarded = binding.sessions ∧ source.sessionUse = binding.sessionUse := by
  -- Only the end of an acquisition makes a source.
  obtain ⟨world, after, acquired⟩ := acquired
  obtain ⟨_, _, -, selecting⟩ := Work.bind_ok acquired
  obtain ⟨selected, middle, -, finished⟩ := Work.bind_ok selecting
  exact guarded_finishAcquire ⟨middle, after, finished⟩

/-- The session that operations run under is the outermost one. -/
theorem session_sessionUse (binding : Binding) :
    binding.sessionUse.map (·.session) = binding.sessions.head? := by
  cases binding <;> rfl

end Binding

namespace BindingCall

variable {α : Type}

/-- What the caller of the operation calls a session, if anything. -/
def own? : BindingCall α → Option Value
  | runCommand operation _ => operation.command.get? "lsid"
  | dropUser operation => operation.command.get? "lsid"

/-- Whether the operation has a way to do without a command. -/
def drops : BindingCall α → Bool
  | runCommand .. => false
  | dropUser _ => true

/-- What the operation does before it comes to its exchange: it gets hold of a connection. -/
def approach (call : BindingCall α) (binding : Binding) (checkout : Checkout) : Act Nat :=
  if call.refused then Act.fail (.argument .emptyCommand)
  else do
    let source ← binding.acquire call.intent
    source.connection checkout.run

variable {call : BindingCall α} {binding : Binding} {checkout : Checkout} {world moment : World}

theorem silent_approach (call : BindingCall α) (binding : Binding) (checkout : Checkout) :
    Act.Silent (call.approach binding checkout) := by
  unfold approach
  split
  · exact .throw _
  · exact .bind (binding.silent_acquire _) fun source => source.silent_connection checkout

theorem closes_approach (call : BindingCall α) (binding : Binding) (checkout : Checkout) :
    Act.Closes binding.sessions (call.approach binding checkout) := by
  unfold approach
  split
  · exact .of_keeps (.throw _)
  · exact .bind (binding.closes_acquire _) fun source _ =>
      .of_keeps (source.stock_connection checkout)

/-- An operation that comes to its exchange has found all sessions of the binding open. -/
theorem approach_ok {connection : Nat}
    (reached : call.approach binding checkout world = (.ok connection, moment)) :
    ∀ key ∈ binding.sessions, (moment.sessions.get key).closed = false := by
  unfold approach at reached
  split at reached
  · cases reached
  · obtain ⟨source, middle, acquired, connected⟩ := Work.bind_ok reached
    rw [← (Binding.guarded_acquire ⟨_, _, acquired⟩).1]
    exact Source.connection_ok connected

/-- An operation under a closed session does not come to its exchange. -/
theorem approach_closed {key : Nat} (call : BindingCall α) (checkout : Checkout)
    (among : key ∈ binding.sessions) (closed : (world.sessions.get key).closed = true) :
    ∃ halt after, call.approach binding checkout world = (.error halt, after) := by
  rcases reached : call.approach binding checkout world with ⟨halt | connection, moment⟩
  · exact ⟨halt, moment, rfl⟩
  · -- What is closed stays closed, but would have been found open.
    obtain ⟨_, -, done⟩ := call.closes_approach binding checkout world
    rw [reached] at done
    have still := done.stays closed
    rw [approach_ok reached key among] at still
    cases still

/-- An operation that does not come to its exchange fails, and sends nothing more; any other sends
what is sent in the exchange, and nothing more, and ends as the exchange and the release after it
come to. -/
theorem run_cases (call : BindingCall α) (binding : Binding) (checkout : Checkout)
    (world : World) :
    (∃ halt after, call.approach binding checkout world = (.error halt, after) ∧
      (call.run binding checkout.run world).1 = .error halt ∧
      (call.run binding checkout.run world).2.sent = after.sent) ∨
    ∃ source connection moment released,
      call.approach binding checkout world = (.ok connection, moment) ∧
      source.sessionUse = binding.sessionUse ∧
      (call.run binding checkout.run world).1 = settleWith
        (call.onConnection binding (api binding world) source connection moment).1 released ∧
      (call.run binding checkout.run world).2.sent
        = (call.onConnection binding (api binding world) source connection moment).2.sent := by
  rw [run_apply]
  unfold approach
  cases call.refused with
  | true => exact .inl ⟨_, _, rfl, rfl, rfl⟩
  | false =>
    simp only [Bool.false_eq_true, if_false, Act.onBinding, Work.bind_apply]
    rcases acquired : binding.acquire call.intent world with ⟨halt | source, middle⟩
    · exact .inl ⟨halt, middle, rfl, rfl, rfl⟩
    · dsimp only
      rw [Act.withConnection_apply]
      rcases reached : source.connection checkout.run middle with ⟨halt | connection, moment⟩
      · exact .inl ⟨halt, moment, rfl, rfl, Act.silent_releaseLease none source moment⟩
      · -- The connection and the source are given back in silence.
        refine .inr ⟨source, connection, moment, _, rfl, ?_, rfl, ?_⟩
        · exact (Binding.guarded_acquire ⟨_, _, acquired⟩).2
        · exact Act.silent_releaseLease (some connection) source _

end BindingCall

/-- What has gone out since a world was what it was are requests of a kind, over one connection. -/
def World.Speaks (world : World) (connection : Nat) (after : World) (kind : Request → Prop) :
    Prop :=
  ∃ messages : List Bytes,
    after.sent = world.sent ++ messages.map (fun bytes =>
      ((world.connections.get connection).id.number, bytes)) ∧
    ∀ bytes ∈ messages, ∃ request id, request.encode id = .ok bytes ∧ kind request

namespace World.Speaks

variable {world after last : World} {connection : Nat} {kind other : Request → Prop}

/-- Who sends nothing says nothing else. -/
theorem nothing (quiet : after.sent = world.sent) : world.Speaks connection after kind :=
  ⟨[], by simpa using quiet, by simp⟩

/-- What is done in silence afterwards adds nothing. -/
theorem quietly (spoken : world.Speaks connection after kind) (quiet : last.sent = after.sent) :
    world.Speaks connection last kind := by
  obtain ⟨messages, posted, fits⟩ := spoken
  exact ⟨messages, quiet.trans posted, fits⟩

/-- Work that goes on in silence says what its first part says. -/
theorem andThen {α β : Type} {work : Act α} {next : α → Act β}
    (spoken : world.Speaks connection (work world).2 kind)
    (silent : ∀ value, Act.Silent (next value)) :
    world.Speaks connection ((work >>= next) world).2 kind := by
  refine spoken.quietly ?_
  rw [Work.bind_apply]
  rcases work world with ⟨halt | value, middle⟩
  · rfl
  · exact silent value middle

theorem mono (spoken : world.Speaks connection after kind)
    (wider : ∀ request, kind request → other request) : world.Speaks connection after other := by
  obtain ⟨messages, posted, fits⟩ := spoken
  refine ⟨messages, posted, fun bytes among => ?_⟩
  obtain ⟨request, id, encoded, fit⟩ := fits bytes among
  exact ⟨request, id, encoded, wider request fit⟩

/-- What goes out over the line of a connection goes out over the connection. -/
theorem putLine {session : Option Nat} {payload : Option Payload} {line : Line}
    (uttered : (world.line connection session payload).Utters line kind) :
    world.Speaks connection (world.putLine connection session line) kind := uttered

end World.Speaks

namespace Act

variable {α : Type} {among : List Nat}

/-- Work of which only the end is of interest. -/
theorem discard_apply (work : Act α) (world : World) :
    (do let _ ← work : Act Unit) world
      = ((work world).1.map fun _ => (), (work world).2) := by
  rw [Work.bind_apply]
  rcases work world with ⟨halt | value, after⟩ <;> rfl

/-- A command on a connection says what its session is called, and nothing else. -/
theorem speaks_command (connection : Nat) (use : Option SessionUse) (rule : NameRule)
    (call : CommandCall) (decoder : Decoder α) (world : World) :
    world.Speaks connection (command connection use rule call decoder world).2
      (·.Tells (call.command.get? "lsid") ((use.map (·.session)).map world.sessions.get)) := by
  unfold command
  cases checkNames rule call.command with
  | error cause => exact .nothing rfl
  | ok _ =>
    -- Whether there is an answer is judged when the exchange is over.
    rw [check, pure_bind]
    refine World.Speaks.andThen ?_ fun reply => ?_
    · have uttered := call.utters_run decoder (world.line connection (use.map (·.session)) none)
      rw [exchange_apply]
      exact .putLine uttered
    · cases reply with
      | none => exact .throw _
      | some reply => exact .pure _

/-- A command under a closed session fails, and sends nothing. -/
theorem command_closed {use : SessionUse} {world : World} (connection : Nat) (rule : NameRule)
    (call : CommandCall) (decoder : Decoder α)
    (closed : (world.sessions.get use.session).closed = true) :
    ∃ halt after, command connection (some use) rule call decoder world = (.error halt, after) ∧
      after.sent = world.sent := by
  unfold command
  cases checkNames rule call.command with
  | error cause => exact ⟨_, _, rfl, rfl⟩
  | ok _ =>
    simp only [check, Work.bind_apply, Work.pure_apply, exchange_apply]
    rw [call.run_closed decoder rfl closed]
    exact ⟨_, _, rfl, rfl⟩

theorem lawful_command (connection : Nat) (use : Option SessionUse) (rule : NameRule)
    (call : CommandCall) (decoder : Decoder α) :
    Lawful among (command connection use rule call decoder) := by
  refine .bind (.of_keeps (keeps_check _)) fun _ _ =>
    .bind (.exchange (call.loyal_run decoder) _ _) fun reply _ => ?_
  cases reply with
  | none => exact .of_keeps (.throw _)
  | some reply => exact .of_keeps (.pure _)

/-- A command with a payload says the same as one without. -/
theorem speaks_commandWithPayload (connection : Nat) (session : Option Nat) (rule : NameRule)
    (call : CommandCall) (decoder : Decoder α) (payload : Payload) (world : World) :
    world.Speaks connection
      (commandWithPayload connection session rule call decoder payload world).2
      (·.Tells (call.command.get? "lsid") (session.map world.sessions.get)) := by
  unfold commandWithPayload
  cases checkNames rule call.command with
  | error cause => exact .nothing rfl
  | ok _ =>
    refine World.Speaks.andThen ?_ fun _ => .pure _
    rw [onLine_apply]
    exact .putLine (call.utters_run decoder (world.line connection session (some payload)))

/-- A command with a payload fails under a closed session, and sends nothing. -/
theorem commandWithPayload_closed {session : Nat} {world : World} (connection : Nat)
    (rule : NameRule) (call : CommandCall) (decoder : Decoder α) (payload : Payload)
    (closed : (world.sessions.get session).closed = true) :
    ∃ halt after, commandWithPayload connection (some session) rule call decoder payload world
      = (.ok (.error halt, payload), after) ∧ after.sent = world.sent := by
  unfold commandWithPayload
  cases checkNames rule call.command with
  | error cause => exact ⟨_, _, rfl, rfl⟩
  | ok _ =>
    simp only [Work.bind_apply, onLine_apply]
    rw [call.run_closed decoder rfl closed]
    exact ⟨_, _, rfl, rfl⟩

theorem lawful_commandWithPayload (connection : Nat) (session : Option Nat) (rule : NameRule)
    (call : CommandCall) (decoder : Decoder α) (payload : Payload) :
    Lawful among (commandWithPayload connection session rule call decoder payload) := by
  unfold commandWithPayload
  cases checkNames rule call.command with
  | error cause => exact .of_keeps (.pure _)
  | ok _ => exact .bind (.onLine (call.loyal_run decoder) _ _ _) fun _ _ => .of_keeps (.pure _)

/-- Work on a connection under no session leaves sessions and pools alone. -/
theorem stock_exchange (connection : Nat) (work : Exchange α) :
    Work.Keeps World.stock (exchange connection none work) := by
  intro world
  rw [exchange_apply]
  rfl

/-- Whoever gives a connection and a source back closes what the source comes to close. -/
theorem closes_releaseLease (connection : Option Nat) (source : Source) :
    Closes source.sessions (releaseLease connection source) := by
  have noted (result : Except Halt Unit) : Closes source.sessions (noteRelease result) := by
    cases result with
    | ok _ => exact .of_keeps (.pure _)
    | error halt => exact .of_keeps fun _ => rfl
  have connectionEnd : Closes source.sessions (connection.forM releaseConnection) := by
    cases connection with
    | none => exact .of_keeps (.pure _)
    | some connection => exact .of_keeps (stock_exchange connection _)
  -- Of the two, the source alone may come to close a session.
  exact .bind connectionEnd.attempt fun _ _ => .bind source.closes_release.attempt fun _ _ =>
    .bind (noted _) fun _ _ => .bind (noted _) fun _ _ => .bind (.resume _) fun _ _ => .resume _

/-- Lawful work over a connection of a binding is lawful with all that comes before and after it. -/
theorem lawful_onBinding {work : Source → Nat → Act α} (binding : Binding) (intent : Intent)
    (checkout : Checkout)
    (lawful : ∀ source connection, Lawful binding.sessions (work source connection)) :
    Lawful binding.sessions (onBinding binding intent work checkout.run) := by
  refine .bind (.of_closes (binding.closes_acquire intent)) fun source lent => ?_
  -- Whatever happens on the way, what is given back closes only what the source had from the
  -- binding.
  have back (connection : Option Nat) :
      Lawful binding.sessions (attempt (releaseLease connection source)) :=
    .of_closes ((closes_releaseLease connection source).mono (Binding.sessions_acquire lent))
  have connects : Lawful binding.sessions (source.connection checkout.run) :=
    .of_keeps (source.stock_connection checkout)
  refine .bind connects.attempt fun connected _ => ?_
  rcases connected with halt | connection
  · exact .bind (back none) fun _ _ => .of_keeps (.throw _)
  · refine .bind (lawful source connection).attempt fun result _ =>
      .bind (back (some connection)) fun released _ => ?_
    rcases result with halt | value
    · exact .of_keeps (.throw _)
    · exact .bind (.resume _) fun _ _ => .of_keeps (.pure _)

end Act

namespace BindingCall

variable {α : Type}

/-- An operation over a connection says what the session of its source is called, unless it is one
that can do without commands and the server knows none for it. -/
theorem speaks_onConnection (call : BindingCall α) (binding : Binding) (api : Option ServerApi)
    (source : Source) (connection : Nat) (world : World) :
    world.Speaks connection (call.onConnection binding api source connection world).2 fun request =>
      request.Tells call.own? ((source.sessionUse.map (·.session)).map world.sessions.get) ∨
        call.drops = true ∧
          (world.connections.get connection).description.hasWriteCommands = false ∧
          request.Unstamped := by
  cases call with
  | runCommand operation decoder =>
    exact (Act.speaks_command connection _ _ _ decoder world).mono fun _ tells => .inl tells
  | dropUser operation =>
    simp only [onConnection, DropUser.onConnection, Work.bind_apply, Work.get_apply]
    cases commands : (world.connections.get connection).description.hasWriteCommands with
    | true =>
      exact ((Act.speaks_command connection _ _ _ _ world).mono fun _ tells => .inl tells).andThen
        fun _ => .pure _
    | false =>
      -- An older server keeps users as plain documents, one of which is deleted.
      refine World.Speaks.andThen ?_ fun _ => .pure _
      rw [Act.exchange_apply]
      exact (World.Speaks.putLine (operation.deletion.utters_run_legacy commands)).mono
        fun _ unstamped => .inr ⟨rfl, rfl, unstamped⟩

/-- An operation on a binding is lawful. -/
theorem lawful_run (call : BindingCall α) (binding : Binding) (checkout : Checkout) :
    Act.Lawful binding.sessions (call.run binding checkout.run) := by
  -- On a connection an operation is a command, or a write that leaves the sessions alone.
  have lawful (api : Option ServerApi) (source : Source) (connection : Nat) :
      Act.Lawful binding.sessions (call.onConnection binding api source connection) := by
    cases call with
    | runCommand operation decoder => exact Act.lawful_command _ _ _ _ _
    | dropUser operation =>
      refine .bind (.of_keeps .get) fun world _ => ?_
      dsimp only
      split
      · exact .bind (Act.lawful_command _ _ _ _ _) fun _ _ => .of_keeps (.pure _)
      · exact .bind (.of_keeps (Act.stock_exchange _ _)) fun _ _ => .of_keeps (.pure _)
  intro ledger sound within
  rw [run_apply]
  split
  · exact Act.Lawful.of_keeps (.pure ()) ledger sound within
  · exact Act.lawful_onBinding binding call.intent checkout (lawful _) ledger sound within

end BindingCall

/-- A command to run, on a connection or through a binding, with a payload or without; or merely a
connection to check out for one. -/
inductive Operation where
  | command {α : Type} (connection : Nat) (use : Option SessionUse) (rule : NameRule)
    (call : CommandCall) (decoder : Decoder α)
  | withPayload {α : Type} (connection : Nat) (session : Option Nat) (rule : NameRule)
    (call : CommandCall) (decoder : Decoder α) (payload : Payload)
  | throughBinding {α : Type} (binding : Binding) (call : BindingCall α) (checkout : Checkout)
  | checkOut (source : Source) (checkout : Checkout)

namespace Operation

/-- The sessions that the operation runs under, the outermost one first. -/
def sessions : Operation → List Nat
  | command _ use .. => (use.map (·.session)).toList
  | withPayload _ session .. => session.toList
  | throughBinding binding .. => binding.sessions
  | checkOut source _ => source.guarded

/-- What the operation does before its exchange: it gets hold of its connection. -/
def approach : Operation → Act Nat
  | command connection .. => pure connection
  | withPayload connection .. => pure connection
  | throughBinding binding call checkout => call.approach binding checkout
  | checkOut source checkout => source.connection checkout.run

/-- The whole of the operation, of which only an end without an answer is told. -/
def work : Operation → Act Unit
  | command connection use rule call decoder => do
    let _ ← Act.command connection use rule call decoder
  | withPayload connection session rule call decoder payload => do
    let ended ← Act.commandWithPayload connection session rule call decoder payload
    let _ ← Act.resume ended.1
  | throughBinding binding call checkout => do
    let _ ← call.run binding checkout.run
  | checkOut source checkout => do
    let _ ← source.connection checkout.run

/-- What the caller of the operation calls a session, if anything. -/
def own? : Operation → Option Value
  | command _ _ _ call _ => call.command.get? "lsid"
  | withPayload _ _ _ call _ _ => call.command.get? "lsid"
  | throughBinding _ call _ => call.own?
  | checkOut .. => none

/-- Whether the operation has a way to do without a command. -/
def drops : Operation → Bool
  | throughBinding _ call _ => call.drops
  | _ => false

/-- What a request tells that the operation sends over a connection, in the world of its
exchange. -/
def Tells (operation : Operation) (moment : World) (connection : Nat) (request : Request) : Prop :=
  request.Tells operation.own? (operation.sessions.head?.map moment.sessions.get) ∨
    operation.drops = true ∧
      (moment.connections.get connection).description.hasWriteCommands = false ∧
      request.Unstamped

/-- An operation that does not come to its exchange fails, and sends nothing; any other sends only
what tells of its session as it is in the exchange. -/
theorem work_cases (operation : Operation) (world : World) :
    (∃ halt after, operation.approach world = (.error halt, after) ∧
      (operation.work world).1 = .error halt ∧ (operation.work world).2.sent = world.sent) ∨
    ∃ connection moment, operation.approach world = (.ok connection, moment) ∧
      moment.sent = world.sent ∧
      moment.Speaks connection (operation.work world).2 (operation.Tells moment connection) := by
  cases operation with
  | command connection use rule call decoder =>
    have spoken := (Act.speaks_command connection use rule call decoder world).andThen
      fun _ => .pure ()
    refine .inr ⟨connection, world, rfl, rfl, spoken.mono fun request tells => .inl ?_⟩
    cases use <;> exact tells
  | withPayload connection session rule call decoder payload =>
    have spoken := (Act.speaks_commandWithPayload connection session rule call decoder payload
      world).andThen fun ended => .bind (Act.Silent.resume ended.1) fun _ => .pure ()
    refine .inr ⟨connection, world, rfl, rfl, spoken.mono fun request tells => .inl ?_⟩
    cases session <;> exact tells
  | throughBinding binding call checkout =>
    have quiet := call.silent_approach binding checkout world
    rw [work, Act.discard_apply]
    rcases call.run_cases binding checkout world with
      ⟨halt, after, failed, ended, sent⟩ |
        ⟨source, connection, moment, released, reached, under, -, sent⟩
    · rw [failed] at quiet
      refine .inl ⟨halt, after, failed, ?_, sent.trans quiet⟩
      dsimp only
      rw [ended]
      rfl
    · rw [reached] at quiet
      have spoken := call.speaks_onConnection binding (BindingCall.api binding world) source
        connection moment
      rw [under, binding.session_sessionUse] at spoken
      exact .inr ⟨connection, moment, reached, quiet, spoken.quietly sent⟩
  | checkOut source checkout =>
    have quiet := source.silent_connection checkout world
    rw [work, Act.discard_apply]
    -- Nothing comes after a checkout.
    rcases ended : source.connection checkout.run world with ⟨halt | connection, moment⟩ <;>
      rw [ended] at quiet
    · exact .inl ⟨halt, moment, ended, rfl, quiet⟩
    · exact .inr ⟨connection, moment, ended, quiet, .nothing rfl⟩

/-- Under a closed session, an operation fails and sends nothing. -/
theorem work_closed (operation : Operation) {world : World} {key : Nat}
    (among : key ∈ operation.sessions) (closed : (world.sessions.get key).closed = true) :
    (∃ halt, (operation.work world).1 = .error halt) ∧
      (operation.work world).2.sent = world.sent := by
  cases operation with
  | command connection use rule call decoder =>
    cases use with
    | none => cases among
    | some use =>
      obtain rfl : key = use.session := by simpa [sessions] using among
      obtain ⟨halt, after, failed, quiet⟩ := Act.command_closed connection rule call decoder closed
      rw [work, Act.discard_apply, failed]
      exact ⟨⟨halt, rfl⟩, quiet⟩
  | withPayload connection session rule call decoder payload =>
    cases session with
    | none => cases among
    | some session =>
      obtain rfl : key = session := by simpa [sessions] using among
      obtain ⟨halt, after, failed, quiet⟩ :=
        Act.commandWithPayload_closed connection rule call decoder payload closed
      rw [work, Work.bind_apply, failed]
      exact ⟨⟨halt, rfl⟩, quiet⟩
  | throughBinding binding call checkout =>
    -- It is found out at the checkout, before anything else.
    obtain ⟨halt, after, failed⟩ := call.approach_closed checkout among closed
    rcases work_cases (.throughBinding binding call checkout) world with
      ⟨halt, after, -, ended, quiet⟩ | ⟨connection, moment, reached, -⟩
    · exact ⟨⟨halt, ended⟩, quiet⟩
    · rw [show call.approach binding checkout world = _ from reached] at failed
      cases failed
  | checkOut source checkout =>
    rw [work, Act.discard_apply]
    rcases ended : source.connection checkout.run world with ⟨halt | connection, after⟩
    · have quiet := source.silent_connection checkout world
      rw [ended] at quiet
      exact ⟨⟨halt, rfl⟩, quiet⟩
    · -- The sessions would have been found open.
      have stock := source.stock_connection checkout world
      rw [ended] at stock
      have same : after.sessions = world.sessions := congrArg Prod.fst stock
      have usable := Source.connection_ok ended key among
      rw [same, closed] at usable
      cases usable

/-- Every ledger goes on after an operation, and in the world of its exchange. -/
theorem lawful_work (operation : Operation) : Act.Lawful operation.sessions operation.work := by
  -- What follows the exchange only hands its result on.
  cases operation with
  | command connection use rule call decoder =>
    exact .bind (Act.lawful_command connection use rule call decoder) fun _ _ => .of_keeps (.pure _)
  | withPayload connection session rule call decoder payload =>
    exact .bind (Act.lawful_commandWithPayload connection session rule call decoder payload)
      fun ended _ => .bind (.resume ended.1) fun _ _ => .of_keeps (.pure _)
  | throughBinding binding call checkout =>
    exact .bind (call.lawful_run binding checkout) fun _ _ => .of_keeps (.pure _)
  | checkOut source checkout =>
    exact .bind (.of_keeps (source.stock_connection checkout)) fun _ _ => .of_keeps (.pure _)

theorem lawful_approach (operation : Operation) :
    Act.Lawful operation.sessions operation.approach := by
  cases operation with
  | command connection => exact .of_keeps (.pure connection)
  | withPayload connection => exact .of_keeps (.pure connection)
  | throughBinding binding call checkout => exact .of_closes (call.closes_approach binding checkout)
  | checkOut source checkout => exact .of_keeps (source.stock_connection checkout)

/-- What a request of an operation says of its session, in a ledger: it goes out under the name of
an open session; or the operation runs under none, and the caller's own words are told; or it is
part of a legacy write to a server that knows no other, and tells of no session. -/
inductive Voices (operation : Operation) (ledger : Ledger) (connection : Nat) : Request → Prop where
  | stamped {request : Request} {key : Nat} (under : operation.sessions.head? = some key)
    (usable : key ∈ ledger.opened)
    (bears : request.Bears "lsid" (some (.document (ledger.lsid key)))) :
    Voices operation ledger connection request
  | alone {request : Request} (alone : operation.sessions = [])
    (bears : request.Bears "lsid" operation.own?) : Voices operation ledger connection request
  | dropping {request : Request} (drops : operation.drops = true)
    (legacy : (ledger.world.connections.get connection).description.hasWriteCommands = false)
    (unstamped : request.Unstamped) : Voices operation ledger connection request

/-- What an operation tells under sessions that were started, it says of one that is open. -/
theorem Tells.voices {operation : Operation} {ledger : Ledger} {connection : Nat}
    {request : Request} (tells : operation.Tells ledger.world connection request)
    (within : operation.sessions ⊆ ledger.started) :
    operation.Voices ledger connection request := by
  rcases tells with tells | ⟨drops, legacy, unstamped⟩
  · -- The first session of the operation is the one that it runs under.
    cases under : operation.sessions with
    | nil =>
      rw [under] at tells
      exact .alone under tells
    | cons key rest =>
      rw [under] at tells within
      obtain ⟨usable, bears⟩ := tells
      exact .stamped (by rw [under]; rfl)
        (World.mem_opened.mpr ⟨within (List.mem_cons_self ..), usable⟩) bears
  · exact .dropping drops legacy unstamped

end Operation

/-- What is asked of the library: a move of those who start and close sessions and make and give up
bindings and sources, or an operation. -/
inductive Deed where
  | move (move : Ledger.Move)
  | operate (operation : Operation)

namespace Ledger

/-- The ledger after a deed. -/
def proceed (ledger : Ledger) : Deed → Ledger
  | .move move => ledger.perform move
  | .operate operation => ledger.after operation.work

/-- Whether a deed is allowed: operations run under sessions that were started, closed or not. -/
def Allows (ledger : Ledger) : Deed → Prop
  | .move move => ledger.Permits move
  | .operate operation => operation.sessions ⊆ ledger.started

/-- The ledger after deeds, one after another. -/
def pursue (ledger : Ledger) (deeds : List Deed) : Ledger := deeds.foldl proceed ledger

/-- Whether each of the deeds is allowed when it is done. -/
def AllowsAll (ledger : Ledger) : List Deed → Prop
  | [] => True
  | deed :: rest => ledger.Allows deed ∧ (ledger.proceed deed).AllowsAll rest

variable {ledger : Ledger}

/-- A deed that is allowed keeps a ledger sound, and neither exchanges the server session of a
session nor opens a closed one. -/
theorem Sound.proceed (sound : ledger.Sound) {deed : Deed} (allowed : ledger.Allows deed) :
    (ledger.proceed deed).Sound ∧ ledger.Follows (ledger.proceed deed) := by
  cases deed with
  | move move => exact ⟨sound.perform allowed, .perform sound allowed⟩
  | operate operation =>
    have leads := operation.lawful_work ledger sound allowed
    exact ⟨leads.sound, leads.follows⟩

/-- So do all deeds that are allowed, together. -/
theorem Sound.pursue (sound : ledger.Sound) {deeds : List Deed}
    (allowed : ledger.AllowsAll deeds) :
    (ledger.pursue deeds).Sound ∧ ledger.Follows (ledger.pursue deeds) := by
  induction deeds generalizing ledger with
  | nil => exact ⟨sound, .refl ledger⟩
  | cons deed rest ih =>
    obtain ⟨still, first⟩ := sound.proceed allowed.1
    obtain ⟨ends, later⟩ := ih still allowed.2
    exact ⟨ends, first.trans later⟩

/-- Along every run of moves and operations, whoever is closed stays closed: a session that is not
open keeps its name for good, although the name may go to another, but every operation under it
fails from then on and sends nothing. Whatever else an operation sends under a session that was
started goes out under the name of an open one, which was open when the operation began, and no
other session that is open in the exchange has the same name. -/
theorem sessions_of_use {world : World} {deeds : List Deed} (empty : ∀ pool, world.idle pool = [])
    (allowed : AllowsAll { world } deeds) :
    let ledger := pursue { world } deeds
    (∀ key ∈ ledger.started, key ∉ ledger.opened → ∀ more, ledger.AllowsAll more →
      let later := ledger.pursue more
      (key ∈ later.started ∧ key ∉ later.opened ∧ later.lsid key = ledger.lsid key) ∧
      ∀ operation : Operation, key ∈ operation.sessions →
        (∃ halt, (operation.work later.world).1 = .error halt) ∧
          (operation.work later.world).2.sent = later.world.sent) ∧
    ∀ operation : Operation, operation.sessions ⊆ ledger.started →
      (operation.work ledger.world).2.sent = ledger.world.sent ∨
      ∃ connection, (operation.approach ledger.world).1 = .ok connection ∧
        let moment := ledger.after operation.approach
        moment.world.sent = ledger.world.sent ∧
        moment.world.Speaks connection (operation.work ledger.world).2
          (operation.Voices moment connection) ∧
        moment.opened ⊆ ledger.opened ∧
        (∀ key ∈ ledger.started, moment.lsid key = ledger.lsid key) ∧
        (ledger.world.Identified → (moment.opened.map moment.lsid).Nodup) := by
  intro ledger
  have sound : ledger.Sound := ((Sound.initial empty).pursue allowed).1
  refine ⟨fun key listed gone more permitted => ?_, fun operation within => ?_⟩
  · -- What is closed in the ledger is closed in all that comes after it.
    intro later
    have follows : ledger.Follows later := (sound.pursue permitted).2
    have shut : key ∉ later.opened := follows.not_mem_opened listed gone
    refine ⟨⟨follows.started listed, shut, follows.lsid_eq listed⟩, fun operation among => ?_⟩
    refine operation.work_closed among ?_
    by_contra still
    exact shut (World.mem_opened.mpr ⟨follows.started listed, by simpa using still⟩)
  · rcases operation.work_cases ledger.world with
      ⟨halt, after, -, -, quiet⟩ | ⟨connection, world, reached, quiet, spoken⟩
    · exact .inl quiet
    · -- In the world of the exchange, the ledger is as sound as before.
      have leads := operation.lawful_approach ledger sound within
      refine .inr ⟨connection, by rw [reached], ?_⟩
      intro moment
      have same : moment.world = world := congrArg Prod.snd reached
      have follows : ledger.Follows moment := leads.follows
      rw [← same] at quiet spoken
      refine ⟨quiet, spoken.mono fun _ tells => tells.voices within, fun key usable => ?_,
        fun key listed => follows.lsid_eq listed, fun identified => ?_⟩
      · by_contra gone
        exact follows.not_mem_opened (World.mem_opened.mp usable).1 gone usable
      · refine leads.sound.nodup_lsids ?_
        simpa only [World.Identified, leads.nextSession] using identified

/-- A session was closed, and its server session serves again under another one: a command under the
old session fails and sends nothing, and one under the new session goes out under the same name. -/
theorem sessions_of_use_reused :
    let connection : Connection :=
      { id := ⟨default, 1⟩, description := { address := default }, channel := some {} }
    let ledger := pursue { world := { connections := ⟨[(1, connection)]⟩ } }
      [.move (.start 0 false), .move (.close 0), .move (.start 0 false)]
    let under (key : Nat) : Operation := .command 1 (some ⟨key, false⟩) .any
      { database := "app", command := [("ping", .int32 1)] } Decoder.document
    ledger.lsid 0 = ledger.lsid 1 ∧
      (∃ halt, ((under 0).work ledger.world).1 = .error halt) ∧
      ((under 0).work ledger.world).2.sent = ledger.world.sent ∧
      ((under 1).work ledger.world).2.sent ≠ ledger.world.sent ∧
      ledger.world.Speaks 1 ((under 1).work ledger.world).2 ((under 1).Voices ledger 1) := by
  intro connection ledger under
  -- The second session has taken the server session over that the first has left.
  have opened : ledger.opened = [1] := by decide +kernel
  have listed : 0 ∈ ledger.started := by decide +kernel
  have within : (under 1).sessions ⊆ ledger.started := by decide +kernel
  have sends : ((under 1).work ledger.world).2.sent ≠ ledger.world.sent := by decide +kernel
  have allowed : AllowsAll { world := { connections := ⟨[(1, connection)]⟩ } }
      [.move (.start 0 false), .move (.close 0), .move (.start 0 false)] :=
    ⟨trivial, trivial, trivial, trivial⟩
  obtain ⟨old, new⟩ := sessions_of_use (fun _ => rfl) allowed
  obtain ⟨-, failing⟩ := old 0 listed (by rw [opened]; decide) [] trivial
  obtain ⟨failed, quiet⟩ := failing (under 0) (by decide)
  have same : ledger.world.server 0 = ledger.world.server 1 := by decide +kernel
  have renamed : ledger.lsid 0 = ledger.lsid 1 := by
    simp only [Ledger.lsid, same]
  refine ⟨renamed, failed, quiet, sends, ?_⟩
  rcases new (under 1) within with kept | ⟨number, reached, -, spoken, -⟩
  · exact absurd kept sends
  · cases reached
    exact spoken

end Ledger

end DocWire
