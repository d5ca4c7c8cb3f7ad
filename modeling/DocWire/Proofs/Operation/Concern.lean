import DocWire.Proofs.Document.Names
import DocWire.Proofs.Executor.Unanswered
import DocWire.Proofs.Session.Usage

/-! Write concerns that ask for the impossible. Every write judges its concern before it sends
anything, and so does the dropping of a user where users are plain documents. Where it is a command
of its own, nobody judges the concern, and the server is left to do so. -/

namespace DocWire

namespace WriteConcern

variable {concern : WriteConcern} {fault : ArgumentFault}

/-- A concern that asks for nothing is not refused. -/
theorem isEmpty_of_rejected (rejected : concern.validate = .error fault) :
    concern.isEmpty = false := by
  obtain ⟨members, timeout, journal⟩ := concern
  cases members with
  | none => cases rejected
  | some members => rfl

end WriteConcern

namespace Statement

variable {description : ConnectionDescription} {cause : Cause}

/-- The document that the statement stores as it is, and the rule for the names in it. -/
def stored? : Statement → Option (NameRule × Document)
  | insert document => some (.collectible, document)
  | update _ change _ _ .replacement => some (.replacement, change)
  | _ => none

/-- What is to be stored passes for its names, and yet it cannot be written as bytes. -/
def Unwritable (statement : Statement) : Prop :=
  ∃ rule document, statement.stored? = some (rule, document) ∧
    checkNames rule document = .ok () ∧ encodeFields? document = none

/-- What is wrong with a document that is to be stored is the caller's fault, except that it cannot
be written. -/
theorem blames_stored {rule : NameRule} {document : Document}
    (failed : (do checkNames rule document; checkDocument document description) = .error cause) :
    cause.blames = false ↔ checkNames rule document = .ok () ∧ encodeFields? document = none := by
  cases named : offending? rule document with
  | some name =>
    simp only [checkNames, named] at failed ⊢
    cases failed
    simp [refuse, Cause.blames]
  | none =>
    simp only [checkNames, named, true_and] at failed ⊢
    change checkDocument document description = _ at failed
    simp only [checkDocument, Document.encode] at failed
    cases written : encodeFields? document with
    | none =>
      rw [written] at failed
      cases failed
      simp [Cause.blames]
    | some elements =>
      -- A document that is too long is refused as the caller's own.
      rw [written] at failed
      simp only [bind, Except.bind] at failed
      split at failed
      · cases failed
        simp [Cause.blames]
      · cases failed

/-- What is to be stored is judged for its names first, and then for its size. -/
theorem check_stored {statement : Statement} {rule : NameRule} {document : Document}
    (stores : statement.stored? = some (rule, document)) :
    statement.check description
      = (do checkNames rule document; checkDocument document description) := by
  -- An update by operators stores no document as it is, and a deletion stores none at all.
  cases statement with
  | insert document =>
    cases stores
    rfl
  | update filter change upsert multi kind =>
    cases kind <;> cases stores
    rfl
  | delete filter multi => cases stores

/-- A statement is refused as the caller's own, unless it cannot be written. -/
theorem blames_check {statement : Statement}
    (failed : statement.check description = .error cause) :
    cause.blames = false ↔ statement.Unwritable := by
  cases stores : statement.stored? with
  | some stored =>
    obtain ⟨rule, document⟩ := stored
    rw [check_stored stores] at failed
    rw [blames_stored failed]
    simp [Unwritable, stores]
  | none =>
    -- Where nothing is stored as it is, nothing but names can be wrong.
    simp only [Unwritable, stores, reduceCtorEq, false_and, exists_false, iff_false]
    cases statement with
    | insert document => cases stores
    | delete filter multi => cases failed
    | update filter change upsert multi kind =>
      cases kind with
      | replacement => cases stores
      | operators =>
        simp only [check, checkNames] at failed
        split at failed
        · cases failed
          simp [Cause.blames]
        · cases failed

/-- A statement that is not refused can be written. -/
theorem writable_of_check {statement : Statement}
    (passed : statement.check description = .ok ()) : ¬ statement.Unwritable := by
  rintro ⟨rule, document, stores, named, bad⟩
  rw [check_stored stores, named, checkDocument, Document.encode, bad] at passed
  cases passed

end Statement

namespace Write

variable {write : Write} {fault : ArgumentFault}

/-- A write with a concern that is refused sends nothing. It fails with what is wrong with its
statement, and else with what is wrong with its concern. -/
theorem run_rejected (rejected : write.concern.validate = .error fault) (line : Line) :
    ∃ cause, write.run line = (.error (.ofCause cause), line) ∧
      (write.statement.check line.connection.description = .ok () → cause = .argument fault) ∧
      (cause.blames = false ↔ write.statement.Unwritable) := by
  have judged : write.judge line.connection.description
      = (write.statement.check line.connection.description >>= fun _ =>
          .error (.argument fault)) := by
    rw [judge, rejected]
    rfl
  rw [run_apply, judged]
  cases stated : write.statement.check line.connection.description with
  | error cause =>
    refine ⟨cause, rfl, fun passed => ?_, Statement.blames_check stated⟩
    cases passed
  | ok _ =>
    -- What is not refused can be written, and then the concern is what is wrong.
    refine ⟨.argument fault, rfl, fun _ => rfl, fun innocent => ?_,
      fun unwritable => absurd unwritable (Statement.writable_of_check stated)⟩
    cases innocent

end Write

namespace CommandCall

variable {α : Type} {call : CommandCall} {command : Command} {request : Request} {line : Line}

/-- A command that is prepared as a request that can be sent sends that request. -/
theorem run_taken (decoder : Decoder α)
    (prepared : call.prepare line = (.ok (command, request), line)) (takes : line.Takes request) :
    ∃ id bytes, request.encode id = .ok bytes ∧ (call.run decoder line).2.network.sent
      = line.network.sent ++ [(line.connection.id.number, bytes)] := by
  have quiet (response : Option Response) :
      Work.Keeps (fun line : Line => line.network.sent) (conclude decoder command response) :=
    keeps_conclude (fun _ _ => rfl) (fun _ _ => rfl) (fun _ _ => rfl) _ _ _
  -- Whatever becomes of the response, something is out.
  have posts : line.Posts (call.run decoder line).2 := by
    simp only [run, Work.bind_apply, prepared]
    rcases ended : send request call.context line with ⟨halt | response, last⟩
    · exact (send_taken takes ended).1
    · obtain ⟨bytes, posted⟩ := (send_taken takes ended).1
      exact ⟨bytes, (quiet response last).trans posted⟩
  rcases call.sent_run decoder line with same | ⟨other, made, id, bytes, again, encoded, posted⟩
  · obtain ⟨bytes, posted⟩ := posts
    rw [same] at posted
    simp at posted
  · rw [prepared] at again
    cases again
    exact ⟨id, bytes, encoded, posted⟩

end CommandCall

/-- A command whose names are not looked at sends what is sent in its exchange, and fails when that
does. -/
theorem Act.command_any {α : Type} (connection : Nat) (use : Option SessionUse) (call : CommandCall)
    (decoder : Decoder α) (world : World) :
    let ended := call.run decoder (world.line connection (use.map (·.session)) none)
    (command connection use .any call decoder world).2.sent = ended.2.network.sent ∧
      ∀ halt, ended.1 = .error halt →
        (command connection use .any call decoder world).1 = .error halt := by
  intro ended
  simp only [command, checkNames_any, check, Work.bind_apply, Work.pure_apply, exchange_apply]
  -- Every name is allowed, so the command is its exchange and nothing else.
  rcases same : call.run decoder (world.line connection (use.map (·.session)) none) with
    ⟨halt | reply, line⟩ <;> simp only [ended, same]
  · refine ⟨rfl, fun other failed => ?_⟩
    cases failed
    rfl
  · refine ⟨?_, fun other failed => ?_⟩
    · cases reply <;> rfl
    · cases failed

namespace DropUser

variable {operation : DropUser} {fault : ArgumentFault}

/-- The command that the user is dropped by. -/
def call (operation : DropUser) (api : Option ServerApi) : CommandCall :=
  { database := operation.database, command := operation.command, api, context }

/-- A concern that asks for anything is a field of the command. -/
theorem get?_command_full {concern : WriteConcern} (given : operation.concern = some concern)
    (full : concern.isEmpty = false) :
    operation.command.get? "writeConcern" = some (.document concern.toDocument) := by
  simp [command, given, Option.filter, full, Document.get?]

/-- A concern that is to be refused is a field of the command. -/
theorem get?_command (rejected : (operation.concern.getD {}).validate = .error fault) :
    operation.command.get? "writeConcern"
      = some (.document (operation.concern.getD {}).toDocument) := by
  cases given : operation.concern with
  | none =>
    rw [given] at rejected
    cases rejected
  | some concern =>
    rw [given] at rejected
    exact get?_command_full given (WriteConcern.isEmpty_of_rejected rejected)

/-- A request for the command bears the concern that the command has. -/
theorem bears_own_concern {api : Option ServerApi} {line after : Line} {command : Command}
    {request : Request}
    (prepared : (operation.call api).prepare line = (.ok (command, request), after)) :
    request.Bears "writeConcern" (operation.command.get? "writeConcern") := by
  have apart : Private "writeConcern" := by
    refine ⟨by decide, fun kind => ?_⟩
    cases kind <;> decide
  refine CommandCall.bears_own prepared apart fun among => ?_
  exact absurd ((names_stamps _ _).mem among) (by decide)

/-- A request for the command bears a concern that is to be refused. -/
theorem bears_concern {api : Option ServerApi} {line after : Line} {command : Command}
    {request : Request} (rejected : (operation.concern.getD {}).validate = .error fault)
    (prepared : (operation.call api).prepare line = (.ok (command, request), after)) :
    request.Bears "writeConcern" (some (.document (operation.concern.getD {}).toDocument)) := by
  rw [← get?_command rejected]
  exact bears_own_concern prepared

/-- Users that are plain documents are dropped by a write, which is judged before it is sent. -/
theorem onConnection_legacy (api : Option ServerApi) (source : Source) {connection : Nat}
    {world : World} (rejected : (operation.concern.getD {}).validate = .error fault)
    (legacy : (world.connections.get connection).description.hasWriteCommands = false) :
    (operation.onConnection api source connection world).1
        = .error (.ofCause (.argument fault)) ∧
      (operation.onConnection api source connection world).2.sent = world.sent := by
  have judged : operation.deletion.concern.validate = .error fault := rejected
  obtain ⟨cause, refused, first, -⟩ :=
    Write.run_rejected judged (world.line connection none none)
  obtain rfl := first rfl
  simp only [onConnection, Work.bind_apply, Work.get_apply, legacy, Bool.false_eq_true, if_false,
    Act.exchange_apply, refused, true_and]
  rfl

/-- A user that is dropped by a command is dropped in the exchange of the command. -/
theorem onConnection_command (operation : DropUser) (api : Option ServerApi) (source : Source)
    {connection : Nat} {world : World}
    (commands : (world.connections.get connection).description.hasWriteCommands = true) :
    let ended := (operation.call api).run Decoder.document
      (world.line connection (source.sessionUse.map (·.session)) none)
    (operation.onConnection api source connection world).2.sent = ended.2.network.sent ∧
      ∀ halt, ended.1 = .error halt →
        (operation.onConnection api source connection world).1 = .error halt := by
  intro ended
  obtain ⟨sent, failing⟩ := Act.command_any connection source.sessionUse (operation.call api)
    Decoder.document world
  -- Only what the command answers is passed over.
  have whole : operation.onConnection api source connection world
      = (do let _ ← Act.command connection source.sessionUse .any (operation.call api)
              Decoder.document : Act Unit) world := by
    simp only [onConnection, Work.bind_apply, Work.get_apply, commands, if_true]
    rfl
  rw [whole, Act.discard_apply]
  refine ⟨sent, fun halt failed => ?_⟩
  dsimp only
  rw [failing halt failed]
  rfl

/-- The user is dropped by a command, and the command can be sent over the line. -/
def Sendable (operation : DropUser) (api : Option ServerApi) (line : Line) : Prop :=
  line.connection.description.hasWriteCommands = true ∧
    ∃ command request, (operation.call api).prepare line = (.ok (command, request), line) ∧
      line.Takes request

section Sending

variable {api : Option ServerApi} {source : Source} {connection : Nat} {world : World}

/-- Without a command that can be sent, nothing is sent when the concern is refused: an older server
is sent a deletion, which fails for the concern, and a command fails with what is in its way. -/
theorem onConnection_unsent (rejected : (operation.concern.getD {}).validate = .error fault)
    (stuck : ¬ operation.Sendable api
      (world.line connection (source.sessionUse.map (·.session)) none)) :
    (∃ halt, (operation.onConnection api source connection world).1 = .error halt ∧
      ((world.connections.get connection).description.hasWriteCommands = true →
        (operation.call api).obstacle
          (world.line connection (source.sessionUse.map (·.session)) none) = .error halt)) ∧
      (operation.onConnection api source connection world).2.sent = world.sent := by
  cases commands : (world.connections.get connection).description.hasWriteCommands with
  | false =>
    obtain ⟨refused, still⟩ := onConnection_legacy api source rejected commands
    exact ⟨⟨_, refused, nofun⟩, still⟩
  | true =>
    obtain ⟨sent, failing⟩ := operation.onConnection_command api source commands
    cases obstructed : (operation.call api).obstacle
        (world.line connection (source.sessionUse.map (·.session)) none) with
    | ok _ =>
      -- With nothing in its way the command can be sent.
      obtain ⟨command, request, prepared, takes⟩ := CommandCall.exists_takes obstructed
      exact absurd ⟨commands, command, request, prepared, takes⟩ stuck
    | error halt =>
      obtain ⟨failed, still⟩ := CommandCall.run_obstacle obstructed Decoder.document
      exact ⟨⟨halt, failing halt failed, fun _ => rfl⟩, sent.trans still⟩

/-- A command that can be sent is sent with the concern, although the concern is to be refused. -/
theorem onConnection_sent (rejected : (operation.concern.getD {}).validate = .error fault)
    (sendable : operation.Sendable api
      (world.line connection (source.sessionUse.map (·.session)) none)) :
    ∃ (request : Request) (id : Int32) (bytes : Bytes),
      request.Bears "writeConcern" (some (.document (operation.concern.getD {}).toDocument)) ∧
      request.encode id = .ok bytes ∧
      (operation.onConnection api source connection world).2.sent
        = world.sent ++ [((world.connections.get connection).id.number, bytes)] := by
  obtain ⟨commands, command, request, prepared, takes⟩ := sendable
  obtain ⟨sent, -⟩ := operation.onConnection_command api source commands
  obtain ⟨id, bytes, encoded, posted⟩ := CommandCall.run_taken Decoder.document prepared takes
  exact ⟨request, id, bytes, bears_concern rejected prepared, encoded, sent.trans posted⟩

end Sending

end DropUser

/-- Whoever makes a new connection for everybody sends nothing, and leaves sessions alone. -/
def Checkout.connecting : Checkout where
  run := Act.connectTo
  quiet server := by
    unfold Act.connectTo
    split
    · exact .throw _
    · exact fun _ => rfl

/-- An operation that bears a write concern: a write over a connection, or a user that is dropped
through a binding. -/
inductive ConcernedCall where
  | write (connection : Nat) (write : Write)
  | dropUser (binding : Binding) (operation : DropUser) (checkout : Checkout)

namespace ConcernedCall

/-- The concern of the operation, which asks for nothing when none is given. -/
def concern : ConcernedCall → WriteConcern
  | write _ made => made.concern
  | dropUser _ operation _ => operation.concern.getD {}

/-- The whole of the operation, of which only an end without an answer is told. -/
def work : ConcernedCall → Act Unit
  | write connection made => do
    let _ ← Act.exchange connection none made.run
  | dropUser binding operation checkout => operation.run binding checkout.run

/-- What the operation does first: it gets hold of its connection. -/
def approach : ConcernedCall → Act Nat
  | write connection _ => pure connection
  | dropUser binding operation checkout =>
    (BindingCall.dropUser operation).approach binding checkout

/-- Whether the operation is a write over a connection, and not a command of its own. -/
def writes (call : ConcernedCall) (description : ConnectionDescription) : Bool :=
  match call with
  | write .. => true
  | dropUser .. => !description.hasWriteCommands

/-- What is judged before the concern of a write. -/
def judgeFirst (call : ConcernedCall) (description : ConnectionDescription) : Except Cause Unit :=
  match call with
  | write _ made => made.statement.check description
  | dropUser .. => .ok ()

/-- What is to be stored cannot be written as bytes. -/
def Unwritable : ConcernedCall → Prop
  | write _ made => made.statement.Unwritable
  | dropUser .. => False

/-- The operation is a command, which can be sent over a connection at a moment of a run. -/
def Sendable (call : ConcernedCall) (world moment : World) (connection : Nat) : Prop :=
  match call with
  | write .. => False
  | dropUser binding operation _ => operation.Sendable (BindingCall.api binding world)
    (moment.line connection (binding.sessionUse.map (·.session)) none)

/-- What is in the way of the operation at a moment of a run, where it is a command. -/
def obstacle (call : ConcernedCall) (world moment : World) (connection : Nat) :
    Except Halt Unit :=
  match call with
  | write .. => .ok ()
  | dropUser binding operation _ => (operation.call (BindingCall.api binding world)).obstacle
    (moment.line connection (binding.sessionUse.map (·.session)) none)

/-- What comes of an operation whose concern asks for the impossible. Without a connection it fails,
and nothing is sent. A write over a connection fails with what is wrong with its statement, or else
with what is wrong with the concern, and nothing is sent. A command to drop a user goes out with the
concern whenever it can be sent, and only otherwise it fails, with what is in its way and nothing
sent. -/
theorem outcome_of_rejected (call : ConcernedCall) (world : World) {fault : ArgumentFault}
    (rejected : call.concern.validate = .error fault) :
    (∃ halt after, call.approach world = (.error halt, after) ∧
      (call.work world).1 = .error halt ∧ (call.work world).2.sent = world.sent) ∨
    ∃ connection moment, call.approach world = (.ok connection, moment) ∧
      (call.writes (moment.connections.get connection).description = true → ∃ cause,
        (call.work world).1 = .error (.ofCause cause) ∧
        (call.judgeFirst (moment.connections.get connection).description = .ok () →
          cause = .argument fault) ∧
        (cause.blames = false ↔ call.Unwritable)) ∧
      (¬ call.Sendable world moment connection →
        (∃ halt, (call.work world).1 = .error halt ∧
          (call.writes (moment.connections.get connection).description = false →
            call.obstacle world moment connection = .error halt)) ∧
        (call.work world).2.sent = world.sent) ∧
      (call.Sendable world moment connection → ∃ (request : Request) (id : Int32) (bytes : Bytes),
        request.Bears "writeConcern" (some (.document call.concern.toDocument)) ∧
        request.encode id = .ok bytes ∧ (call.work world).2.sent
          = world.sent ++ [((moment.connections.get connection).id.number, bytes)]) := by
  cases call with
  | write connection made =>
    obtain ⟨cause, refused, first, blames⟩ :=
      made.run_rejected rejected (world.line connection none none)
    rw [work, Act.discard_apply, Act.exchange_apply, refused]
    exact .inr ⟨connection, world, rfl, fun _ => ⟨cause, rfl, first, blames⟩,
      fun _ => ⟨⟨_, rfl, nofun⟩, rfl⟩, False.elim⟩
  | dropUser binding operation checkout =>
    have quiet := (BindingCall.dropUser operation).silent_approach binding checkout world
    rcases (BindingCall.dropUser operation).run_cases binding checkout world with
      ⟨halt, after, failed, ended, sent⟩ |
      ⟨source, connection, moment, released, reached, under, ended, sent⟩
    · rw [failed] at quiet
      exact .inl ⟨halt, after, failed, ended, sent.trans quiet⟩
    · have plain : (BindingCall.dropUser operation).onConnection binding = operation.onConnection :=
        rfl
      rw [reached] at quiet
      rw [plain] at ended sent
      refine .inr
        ⟨connection, moment, reached, fun write => ?_, fun stuck => ?_, fun sendable => ?_⟩
      · -- An older server has the user deleted by a write.
        have legacy : (moment.connections.get connection).description.hasWriteCommands = false := by
          simpa [writes] using write
        obtain ⟨refused, -⟩ :=
          DropUser.onConnection_legacy (BindingCall.api binding world) source rejected legacy
        rw [refused] at ended
        exact ⟨.argument fault, ended, fun _ => rfl, nofun, False.elim⟩
      · rw [Sendable, ← under] at stuck
        rw [obstacle, ← under]
        obtain ⟨⟨halt, failed, inTheWay⟩, still⟩ := DropUser.onConnection_unsent rejected stuck
        rw [failed] at ended
        refine ⟨⟨halt, ended, fun command => inTheWay ?_⟩, sent.trans (still.trans quiet)⟩
        simpa [writes] using command
      · rw [Sendable, ← under] at sendable
        obtain ⟨request, id, bytes, bears, encoded, posted⟩ :=
          DropUser.onConnection_sent rejected sendable
        exact ⟨request, id, bytes, bears, encoded,
          sent.trans (posted.trans (congrArg (· ++ _) quiet))⟩

/-- A server is told to drop a user when a negative number of members has the change; it answers
that all is well, and so the operation succeeds. -/
theorem outcome_of_rejected_sent :
    let description : ServerDescription := { address := default, type := .standalone }
    let server : Server := {
      description
      connection := { address := default, type := .standalone, wireVersion := 21 } }
    let answer : Delivery := { bytes := [34, 0, 0, 0, 0, 0, 0, 0, 0, 0, 0, 0, 221, 7, 0, 0, 0, 0, 0,
      0, 0, 13, 0, 0, 0, 16, 111, 107, 0, 1, 0, 0, 0, 0] }
    let world : World := {
      network := { script := [fun _ => [answer]], patience := 10 }
      topologies := ⟨[(0, { type := .single, servers := [server] })]⟩
      counts := ⟨[(0, .held 1)]⟩
      nextKey := 1 }
    let concern : WriteConcern := { members := some (.nodes (-1)) }
    let call : ConcernedCall :=
      .dropUser (.cluster 0 0 .primary) ⟨"db", "ada", some concern⟩ .connecting
    call.concern.validate = .error .negativeNodes ∧ (call.work world).1 = .ok () ∧
      ∃ (request : Request) (id : Int32) (bytes : Bytes) (connection : Nat),
        request.Bears "writeConcern" (some (.document [("w", .int32 (-1))])) ∧
        request.encode id = .ok bytes ∧ (call.work world).2.sent = [(connection, bytes)] := by
  intro description server answer world concern call
  have rejected : call.concern.validate = .error .negativeNodes := by decide
  have succeeded : (call.work world).1.isOk = true := by decide +kernel
  have well : (call.work world).1 = .ok () := by
    cases ended : (call.work world).1 with
    | ok _ => rfl
    | error halt =>
      rw [ended] at succeeded
      cases succeeded
  refine ⟨rejected, well, ?_⟩
  rcases outcome_of_rejected call world rejected with
    ⟨halt, after, -, failed, -⟩ | ⟨connection, moment, -, -, unsent, sent⟩
  · rw [well] at failed
    cases failed
  · by_cases sendable : call.Sendable world moment connection
    · obtain ⟨request, id, bytes, bears, encoded, posted⟩ := sent sendable
      exact ⟨request, id, bytes, _, bears, encoded, posted⟩
    · -- What cannot be sent would have failed.
      obtain ⟨⟨halt, failed, -⟩, -⟩ := unsent sendable
      rw [well] at failed
      cases failed

end ConcernedCall

end DocWire
