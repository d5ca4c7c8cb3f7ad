import DocWire.Operation.Basic
import DocWire.Proofs.Command.Run

/-! Calls with a payload that is lent to them: what they leave their caller when they return, and
when they do not. -/

namespace DocWire

/-- What was sent carries the documents: it is one message, a request in its bytes. -/
def CarriedBy (kind : PayloadKind) (documents : List RawDocument) (messages : List (Nat × Bytes)) :
    Prop :=
  ∃ (connection : Nat) (request : Request) (id : Int32) (bytes : Bytes),
    messages = [(connection, bytes)] ∧ request.encode id = .ok bytes ∧
      request.Carries kind.identifier documents

/-- A call with a payload on a connection. -/
structure PayloadCall where
  {Answer : Type}
  connection : Nat
  session : Option Nat
  rule : NameRule
  command : CommandCall
  decoder : Decoder Answer

namespace PayloadCall

variable (call : PayloadCall) (payload : Payload) (world : World)

/-- What comes of the call, what the caller's payload is afterwards, and the world then. -/
def run : Except Halt (Except Halt (Option call.Answer) × Payload) × World :=
  Act.commandWithPayload call.connection call.session call.rule call.command call.decoder payload
    world

/-- Whether the call returns. -/
def Returns : Prop :=
  ∃ result left after, call.run payload world = (.ok (result, left), after) ∧ returned result = true

/-- Whether the exchange of the call is completed. -/
def completes : Bool :=
  (checkNames call.rule call.command.command).isOk &&
    call.command.completes (world.line call.connection call.session (some payload))

variable {call payload world}

/-- A command with a bad name is refused, and nothing is changed. -/
theorem run_refused {cause : Cause}
    (named : checkNames call.rule call.command.command = .error cause) :
    call.run payload world = (.ok (.error (.ofCause cause), payload), world) := by
  -- The names are judged before the payload is lent.
  unfold run Act.commandWithPayload
  rw [named]
  rfl

/-- Any other command is run with the payload, which comes back when the command returns. -/
theorem run_lent (named : checkNames call.rule call.command.command = .ok ()) :
    let ended := call.command.run call.decoder
      (world.line call.connection call.session (some payload))
    call.run payload world
      = (.ok (ended.1,
          if returned ended.1 then ended.2.payload.getD payload else .placeholder payload.kind),
        world.putLine call.connection call.session ended.2) := by
  unfold run Act.commandWithPayload
  rw [named]
  rfl

/-- Names that are allowed have no part in whether the exchange is completed. -/
theorem completes_named (named : checkNames call.rule call.command.command = .ok ()) :
    call.completes payload world
      = call.command.completes (world.line call.connection call.session (some payload)) := by
  rw [completes, named]
  rfl

/-- A call whose command returns is one that returns. -/
theorem returns_of_run (named : checkNames call.rule call.command.command = .ok ())
    (back : returned (call.command.run call.decoder
      (world.line call.connection call.session (some payload))).1 = true) :
    call.Returns payload world :=
  ⟨_, _, _, run_lent named, back⟩

/-- Any other command that returns leaves what it hands back. -/
theorem run_returned (named : checkNames call.rule call.command.command = .ok ())
    (returns : call.Returns payload world) :
    let ended := call.command.run call.decoder
      (world.line call.connection call.session (some payload))
    call.run payload world = (.ok (ended.1, ended.2.payload.getD payload),
      world.putLine call.connection call.session ended.2) := by
  -- What came of the call is what came of the command.
  obtain ⟨result, left, after, ran, back⟩ := returns
  rw [run_lent named] at ran ⊢
  cases ran
  rw [if_pos back]

/-- A call that returns without having completed its exchange leaves the payload as it was. -/
theorem run_incomplete (returns : call.Returns payload world)
    (incomplete : call.completes payload world = false) :
    ∃ result after, call.run payload world = (.ok (result, payload), after) := by
  -- Either the names were refused, or the command was run and sent nothing for good.
  cases named : checkNames call.rule call.command.command with
  | error cause => exact ⟨_, _, run_refused named⟩
  | ok _ =>
    rw [completes_named named] at incomplete
    have kept : (call.command.run call.decoder
        (world.line call.connection call.session (some payload))).2.payload = some payload :=
      CommandCall.payload_run_incomplete _ incomplete
    rw [run_returned named returns, kept]
    exact ⟨_, _, rfl⟩

/-- A call that returns after its exchange was completed has sent one message with the next batch,
and leaves the payload moved past it. -/
theorem run_complete (returns : call.Returns payload world)
    (complete : call.completes payload world = true) :
    ∃ (result : Except Halt (Option call.Answer)) (after : World) (documents : List RawDocument)
      (messages : List (Nat × Bytes)),
      call.run payload world = (.ok (result, payload.advance documents.length), after) ∧
      documents <+: payload.remaining ∧ (payload.hasMore = true → documents ≠ []) ∧
      after.network.sent = world.network.sent ++ messages ∧
      CarriedBy payload.kind documents messages := by
  cases named : checkNames call.rule call.command.command with
  | error cause => simp [completes, named, Except.isOk, Except.toBool] at complete
  | ok _ =>
    rw [completes_named named] at complete
    -- What was completed is one exchange, whose request bears the batch that is next.
    obtain ⟨body, batch, request, id, bytes, cut, carries, encoded, once, moved⟩ :=
      CommandCall.run_complete call.decoder rfl complete
    obtain ⟨field, front, some⟩ := Payload.nextBatch_ok cut
    rw [field] at carries
    rw [run_returned named returns, moved]
    exact ⟨_, _, batch.documents, [(_, bytes)], rfl, front, some, once,
      _, request, id, bytes, rfl, encoded, carries⟩

/-- The command itself never loses a document of the payload, and never goes back in it. -/
theorem handed_run (call : PayloadCall) (payload : Payload) (world : World) :
    ∃ handed, (call.command.run call.decoder
        (world.line call.connection call.session (some payload))).2.payload = some handed ∧
      handed.kind = payload.kind ∧ handed.documents = payload.documents ∧
      payload.position ≤ handed.position := by
  -- Moving past a batch keeps every document, and nothing else touches the payload.
  cases sent : call.command.completes (world.line call.connection call.session (some payload)) with
  | false =>
    exact ⟨payload, CommandCall.payload_run_incomplete _ sent, rfl, rfl, Nat.le_refl _⟩
  | true =>
    obtain ⟨_, batch, _, _, _, _, _, _, _, moved⟩ := CommandCall.run_complete call.decoder rfl sent
    exact ⟨_, moved, rfl, rfl, payload.le_advance _⟩

/-- A caller has all documents of the payload back exactly when the call returns, if there are any:
a call that is abandoned leaves an empty payload, of which nothing is left to send, although the
command still had the documents. -/
theorem documents_left_iff (call : PayloadCall) (payload : Payload) (world : World) :
    ∃ result left after, call.run payload world = (.ok (result, left), after) ∧
      (left.documents = payload.documents ↔
        returned result = true ∨ payload.documents = []) ∧
      (returned result = true → left.kind = payload.kind ∧ payload.position ≤ left.position ∧
        (call.completes payload world = false → left = payload)) ∧
      (returned result = false → left = .placeholder payload.kind ∧ left.hasMore = false ∧
        ∃ handed, (call.command.run call.decoder
            (world.line call.connection call.session (some payload))).2.payload = some handed ∧
          handed.documents = payload.documents ∧ payload.position ≤ handed.position) := by
  cases named : checkNames call.rule call.command.command with
  | error cause =>
    refine ⟨_, _, _, run_refused named, ⟨fun _ => .inl rfl, fun _ => rfl⟩,
      fun _ => ⟨rfl, Nat.le_refl _, fun _ => rfl⟩, fun abandoned => by cases abandoned⟩
  | ok _ =>
    obtain ⟨handed, has, kind, documents, position⟩ := handed_run call payload world
    refine ⟨_, _, _, run_lent named, ?_⟩
    rw [completes_named named, has]
    cases back : returned (call.command.run call.decoder
        (world.line call.connection call.session (some payload))).1 with
    | true =>
      -- The payload that the command hands back takes the place of the empty one.
      rw [if_pos rfl]
      refine ⟨⟨fun _ => .inl rfl, fun _ => documents⟩, fun _ => ⟨kind, position, fun unsent => ?_⟩,
        fun abandoned => by cases abandoned⟩
      have same := CommandCall.payload_run_incomplete call.decoder unsent
      rw [has] at same
      cases same
      rfl
    | false =>
      -- Nobody is left who could put the payload back.
      rw [if_neg (by simp)]
      have none : (Payload.placeholder payload.kind).documents = payload.documents ↔
          false = true ∨ payload.documents = [] := by
        simp [Payload.placeholder, eq_comm]
      exact ⟨none, fun returns => (by cases returns),
        fun _ => ⟨rfl, rfl, handed, rfl, documents, position⟩⟩

/-- A call that waits for a server which stays silent is abandoned, and nothing is left to send. -/
example :
    let connection : Connection := { id := ⟨default, 1⟩, description := { address := default } }
    let world : World := { connections := ⟨[(1, connection)]⟩ }
    let payload : Payload := { kind := .insert, documents := [⟨[5, 0, 0, 0, 0]⟩] }
    let command : CommandCall := { database := "app", command := [("insert", .string "items")] }
    let call : PayloadCall := ⟨1, none, .any, command, Decoder.document⟩
    (call.run payload world).1.toOption.map (fun (result, left) => (returned result, left.hasMore))
      = some (false, false) := by decide +kernel

end PayloadCall

end DocWire
