import DocWire.Proofs.Command.Bearing
import DocWire.Proofs.Write.Mandate

/-! What requests tell of sessions: a command under a session goes out only while the session is
open, and under the name of its server session; a write in the legacy dialect tells of none. -/

namespace DocWire

/-- A request tells of no session: the document of its command names none, or it has no command at
all. -/
def Request.Unstamped : Request → Prop
  | .message content => Request.Bears (.message content) "lsid" none
  | .query content => Request.Bears (.query content) "lsid" none
  | _ => True

/-- A request tells of the session that it is sent under: if there is one, it is open and is called
by its name; and if there is none, the caller's own words for one are told. -/
def Request.Tells (request : Request) (own : Option Value) : Option ClientSession → Prop
  | some session =>
    session.closed = false ∧ request.Bears "lsid" (some (.document session.server.id))
  | none => request.Bears "lsid" own

/-- What has gone out over a line, until it was what it is now, are requests of a kind. -/
def Line.Utters (line after : Line) (kind : Request → Prop) : Prop :=
  ∃ messages, line.Sends after messages ∧
    ∀ bytes ∈ messages, ∃ request id, request.encode id = .ok bytes ∧ kind request

namespace Line

variable {α β : Type} {line after : Line} {kind : Request → Prop}

/-- Who sends nothing sends nothing else. -/
theorem utters_nothing (quiet : after.network.sent = line.network.sent) :
    line.Utters after kind :=
  ⟨[], line.sends_nil quiet, by simp⟩

/-- Who sends one request of a kind sends nothing else. -/
theorem utters_one {request : Request} {id : Int32} {bytes : Bytes}
    (encoded : request.encode id = .ok bytes) (fits : kind request)
    (posted : line.Sends after [bytes]) : line.Utters after kind := by
  refine ⟨[bytes], posted, fun other among => ?_⟩
  rw [List.mem_singleton.mp among]
  exact ⟨request, id, encoded, fits⟩

/-- Who asks something sends a request that asks it, if anything. -/
theorem utters_asked {framed : Except Cause Request} {ended : Except Halt α × Line}
    (asked : Write.Asked framed line ended)
    (fits : ∀ request, framed = .ok request → kind request) : line.Utters ended.2 kind := by
  rcases asked with ⟨kept, -⟩ | ⟨request, id, bytes, formed, encoded, posted⟩
  · exact utters_nothing kept
  · exact utters_one encoded (fits request formed) posted

/-- Work sends what both its parts send, over the same connection. -/
theorem utters_bind {work : Exchange α} {next : α → Exchange β}
    (first : line.Utters (work line).2 kind)
    (same : Work.Keeps (fun line : Line => line.connection.id) work)
    (second : ∀ value (middle : Line), middle.Utters (next value middle).2 kind) :
    line.Utters ((work >>= next) line).2 kind := by
  obtain ⟨earlier, posted, fits⟩ := first
  have id := same line
  rw [Work.bind_apply]
  rcases result : work line with ⟨halt | value, middle⟩ <;> rw [result] at posted id
  · exact ⟨earlier, posted, fits⟩
  · obtain ⟨later, more, fitsToo⟩ := second value middle
    refine ⟨earlier ++ later, ?_, fun bytes among => ?_⟩
    · -- What is sent by the second part comes after what is sent by the first.
      simp only [Sends] at posted more id ⊢
      rw [more, posted, id, List.map_append, List.append_assoc]
    · exact (List.mem_append.mp among).elim (fits bytes) (fitsToo bytes)

end Line

namespace CommandCall

variable {α : Type}

/-- A command under a closed session fails before anything else. -/
theorem run_closed {session : ClientSession} {line : Line} (call : CommandCall)
    (decoder : Decoder α) (under : line.session = some session) (closed : session.closed = true) :
    call.run decoder line = (.error (.ofCause (.lifecycle .sessionUsedAfterClose)), line) := by
  simp [run, prepare, Exchange.ensureSession, under, ClientSession.ensureUsable, closed,
    Exchange.fail]

/-- A command sends nothing but requests that tell of its session. -/
theorem utters_run (call : CommandCall) (decoder : Decoder α) (line : Line) :
    line.Utters (call.run decoder line).2 (·.Tells (call.command.get? "lsid") line.session) := by
  rcases call.sent_run decoder line with kept | posted
  · exact Line.utters_nothing kept
  · obtain ⟨command, request, id, bytes, prepared, encoded, posted⟩ := posted
    cases under : line.session with
    | none => exact Line.utters_one encoded (bears_lsid_alone under prepared) posted
    | some session =>
      cases closed : session.closed with
      | true =>
        -- A command that went out was not one under a closed session.
        refine Line.utters_nothing ?_
        rw [call.run_closed decoder under closed]
      | false => exact Line.utters_one encoded ⟨closed, bears_lsid under prepared⟩ posted

end CommandCall

namespace Write

variable {write : Write} {request : Request}

/-- A legacy request has no place for a session. -/
theorem unstamped_legacyRequest (framed : write.legacyRequest = .ok request) :
    request.Unstamped := by
  cases legacyForm_of_framed framed <;> trivial

/-- The question for the last error names no session. -/
theorem unstamped_question {description : ConnectionDescription}
    (framed : write.lastErrorCommand.request description = .ok request) : request.Unstamped := by
  have bears := Command.bears_request framed private_lsid.1 (by simp [lastErrorCommand])
  have absent : Document.get? write.lastErrorCommand.body "lsid" = none := by
    -- The concern has fields of three names at most, and none of them is this.
    have apart : "lsid" ∉ Document.names write.concern.toDocument := by
      obtain ⟨members, timeout, journal⟩ := write.concern
      cases members <;> cases timeout <;> cases journal <;>
        simp [WriteConcern.toDocument, Document.names]
    rw [lastErrorCommand, WriteConcern.lastErrorCommand, Document.get?_extend_of_not_mem apart]
    rfl
  rw [absent] at bears
  cases request with
  | message content => exact bears
  | query content => exact bears
  | _ => trivial

/-- Nothing that a write sends to an older server tells of a session. -/
theorem utters_run_legacy (write : Write) {line : Line}
    (legacy : line.connection.description.hasWriteCommands = false) :
    line.Utters (write.run line).2 Request.Unstamped := by
  rw [run_apply]
  cases write.judge line.connection.description with
  | error cause => exact Line.utters_nothing rfl
  | ok _ =>
    simp only [legacy, Bool.false_eq_true, if_false]
    -- The write itself goes out first, and then the question, if it is wanted.
    refine Line.utters_bind (Line.utters_asked (write.asked_sendLegacy line) fun _ framed => ?_)
      (write.lasting_sendLegacy.part Line.Lasting.id) fun _ middle => ?_
    · exact unstamped_legacyRequest framed
    · split
      · exact Line.utters_asked (write.asked_confirmLegacy middle) fun _ framed =>
          unstamped_question framed
      · exact Line.utters_nothing rfl

end Write

end DocWire
