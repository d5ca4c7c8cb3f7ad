import DocWire.Cursor.GetMore
import DocWire.Proofs.Executor.Refusal

/-! Queries and requests for more in the legacy framing: what becomes of the reply. Its flags are
looked at before its documents, and a reply with a flag never gets to a decoder. -/

namespace DocWire

section Decoding

variable {α : Type} {decoder : Decoder α}

/-- Documents are decoded one after another, up to the first of which the decoder makes nothing. -/
theorem decodeAll_apply (documents : List RawDocument) (line : Line) :
    (∃ results, documents.map decoder = results.map .ok ∧
      Exchange.decodeAll decoder documents line = (.ok results, line)) ∨
    (∃ front document back halt, ∃ values : List α, documents = front ++ document :: back ∧
      front.map decoder = values.map .ok ∧ decoder document = .error halt ∧
      Exchange.decodeAll decoder documents line = (.error halt, line)) := by
  induction documents with
  | nil => exact .inl ⟨[], rfl, rfl⟩
  | cons document rest ih =>
    simp only [Exchange.decodeAll, Work.bind_apply, Exchange.decode]
    cases decoded : decoder document with
    | error halt => exact .inr ⟨[], document, rest, halt, [], rfl, rfl, decoded, rfl⟩
    | ok value =>
      simp only [Work.pure_apply]
      -- Whatever becomes of the others, this one comes before them.
      rcases ih with
        ⟨results, all, done⟩ | ⟨front, other, back, halt, values, same, all, wrong, ended⟩
      · refine .inl ⟨value :: results, ?_, ?_⟩
        · simp [decoded, all]
        · rw [done]
      · refine .inr ⟨document :: front, other, back, halt, value :: values, ?_, ?_, wrong, ?_⟩
        · rw [same, List.cons_append]
        · simp [decoded, all]
        · rw [ended]

end Decoding

section Failures

variable {α : Type} (line : Line) (address : Address)

/-- A failure that the server flagged is told with the whole document, if there is one. -/
theorem flaggedFailure_apply (document : RawDocument) :
    (flaggedFailure address document : Exchange α) line
      = match document.toDocument? with
        | none => (.error (.ofCause (.response .malformed)), line)
        | some found =>
          let error := CommandError.ofDocument found
          (.error (.ofCause (.command error)),
            line.emit (.serverFailure address error.code error.message)) := by
  unfold flaggedFailure RawDocument.decode
  cases document.toDocument? <;> rfl

end Failures

/-- A request that was answered went out over an open connection, and has left it open. -/
theorem closed_answered {line after : Line} {request : Request} {context : Correlation}
    {response : Option Response} (done : send request context line = (.ok response, after)) :
    after.connection.closed = false := by
  obtain ⟨id, bytes, encoded, same⟩ := outward_send done
  obtain ⟨sending, middle, registered, carried⟩ := Work.bind_ok done
  -- Only an open connection takes a request, and an exchange that ends well does not close it.
  have opened := (line.ensureOpen_eq_ok.mp (register_ok registered).2.1).2
  exact (congrArg Prod.snd same).trans opened

/-- The line after work on it, closed if that was asked for. -/
def Line.afterwards (line : Line) (closes : Bool) : Line :=
  if closes then line.close .asked else line

theorem closingAfter_apply {α : Type} (closes : Bool) (work : Exchange α) (line : Line) :
    closingAfter closes work line = ((work line).1, (work line).2.afterwards closes) := rfl

/-- What is asked for closes a connection, and so does what happened before. -/
@[simp] theorem Line.closed_afterwards (line : Line) (closes : Bool) :
    (line.afterwards closes).connection.closed = (line.connection.closed || closes) := by
  cases closes with
  | false => exact (Bool.or_false _).symm
  | true => exact (line.closed_close .asked).trans (Bool.or_true _).symm

/-- To close the connection in the end sends nothing more. -/
@[simp] theorem Line.sent_afterwards (line : Line) (closes : Bool) :
    (line.afterwards closes).network.sent = line.network.sent := by
  cases closes with
  | false => rfl
  | true => exact line.sent_close .asked

/-- To report an event is to leave the connection alone. -/
@[simp] theorem Line.connection_emit (line : Line) (event : Event) :
    (line.emit event).connection = line.connection := rfl

/-- The reply among the ways in which an exchange ends. -/
def heardReply? : Except Halt (Option Response) → Option Reply
  | .ok (some (.reply reply)) => some reply
  | _ => none

/-- An exchange in which a reply was heard ended with the reply. -/
theorem send_of_heard {line : Line} {request : Request} {context : Correlation} {reply : Reply}
    (heard : heardReply? (send request context line).1 = some reply) :
    ∃ after, send request context line = (.ok (some (.reply reply)), after) := by
  rcases ended : send request context line with ⟨result, after⟩
  rw [ended] at heard
  unfold heardReply? at heard
  -- A reply is heard only where the exchange ended with one.
  split at heard
  · rename_i found same
    obtain rfl : result = .ok (some (.reply found)) := same
    cases heard
    exact ⟨after, rfl⟩
  · cases heard

/-- A request for a batch of documents. -/
inductive Fetch where
  | query (query : Query)
  | getMore (request : GetMore)

namespace Fetch

variable {α : Type}

/-- Runs the request in the dialect of the server. -/
def run (fetch : Fetch) (decoder : Decoder α) : Exchange (Batch α) :=
  match fetch with
  | query asked => asked.run decoder
  | getMore request => request.run decoder

/-- The collection that is asked. -/
def target : Fetch → Namespace
  | query asked => asked.target
  | getMore request => request.target

/-- The cursor that is asked for; a query has none yet. -/
def cursor : Fetch → Int64
  | query _ => 0
  | getMore request => request.cursor

/-- What events say of the request. -/
def context : Fetch → Correlation
  | query asked => asked.context
  | getMore request => request.context

/-- The request in the legacy framing. -/
def legacyRequest (fetch : Fetch) (type : ServerType) : Except Cause Request :=
  match fetch with
  | query asked => asked.legacyRequest type
  | getMore request => .ok request.legacyRequest

/-- The line over which the request goes out: to go on with a cursor is told before. -/
def opening (fetch : Fetch) (line : Line) : Line :=
  match fetch with
  | query _ => line
  | getMore request =>
    line.emit (.gettingMore line.connection.id request.cursor request.target)

/-- The line once the batch is there: to have gone on with a cursor is told as well. -/
def closing (fetch : Fetch) (batch : Batch α) (line : Line) : Line :=
  match fetch with
  | query _ => line
  | getMore request =>
    line.emit (.gotMore request.cursor batch.results.length (!batch.hasMore))

/-- The request goes out in the legacy framing, and a reply comes back. -/
structure Answered (fetch : Fetch) (line : Line) (reply : Reply) (after : Line) : Prop where
  legacy : line.connection.description.hasFindCommand = false
  sent : ∃ request, fetch.legacyRequest line.connection.description.type = .ok request ∧
    send request fetch.context (fetch.opening line) = (.ok (some (.reply reply)), after)

/-- The request comes to the same end with every decoder, so that nothing is decoded. The connection
is closed only if that was asked for. -/
def Fails (fetch : Fetch) (closes : Bool) (line : Line) (cause : Cause) : Prop :=
  ∃ last, last.connection.closed = closes ∧ ∀ (α : Type) (decoder : Decoder α),
    closingAfter closes (fetch.run decoder) line = (.error (.ofCause cause), last)

/-- A request that ends in the same way with every decoder and leaves the connection open fails;
only the closing that was asked for comes after it. -/
theorem fails_of_run {fetch : Fetch} {closes : Bool} {line last : Line} {cause : Cause}
    (opened : last.connection.closed = false)
    (same : ∀ (α : Type) (decoder : Decoder α),
      fetch.run decoder line = (.error (.ofCause cause), last)) :
    fetch.Fails closes line cause := by
  refine ⟨last.afterwards closes, ?_, ?_⟩
  · rw [last.closed_afterwards, opened, Bool.false_or]
  · intro α decoder
    rw [closingAfter_apply, same]

/-- A request that fails does so with one cause. -/
theorem Fails.unique {fetch : Fetch} {closes : Bool} {line : Line} {cause other : Cause}
    (one : fetch.Fails closes line cause) (two : fetch.Fails closes line other) :
    cause = other := by
  obtain ⟨last, -, same⟩ := one
  obtain ⟨final, -, alike⟩ := two
  -- One decoder is enough to tell.
  have ended := congrArg Prod.fst ((same _ Decoder.bytes).symm.trans (alike _ Decoder.bytes))
  have halts : Halt.ofCause cause = Halt.ofCause other := Except.error.inj ended
  exact congrArg Error.cause (Halt.failed.inj halts)

namespace Answered

variable {fetch : Fetch} {closes : Bool} {line after : Line} {reply : Reply}

/-- The connection is open when the reply is there. -/
theorem opened (answered : fetch.Answered line reply after) :
    after.connection.closed = false := by
  obtain ⟨request, -, sent⟩ := answered.sent
  exact closed_answered sent

/-- The request comes to what the flags and documents of the reply come to. -/
theorem run_eq (answered : fetch.Answered line reply after) (decoder : Decoder α) :
    fetch.run decoder line
      = match classify reply decoder fetch.cursor line.connection.id.address after with
        | (.ok results, last) =>
          let batch := Batch.ofCursor fetch.target results reply.cursor line.connection.id.address
          (.ok batch, fetch.closing batch last)
        | (.error halt, last) => (.error halt, last) := by
  obtain ⟨legacy, request, framed, sent⟩ := answered
  cases fetch with
  | query asked =>
    simp only [legacyRequest, context, opening] at framed sent
    simp only [run, Query.run, Query.runLegacy, Work.bind_apply, Work.get_apply, legacy, framed,
      Exchange.check_ok, sent, expectReply, cursor, target, closing, Bool.false_eq_true, if_false]
    rcases classify reply decoder 0 line.connection.id.address after
      with ⟨_ | results, last⟩ <;> rfl
  | getMore asked =>
    -- Before the request and after the batch, an event is reported.
    cases framed
    simp only [context, opening] at sent
    simp only [run, GetMore.run, GetMore.runLegacy, Work.bind_apply, Work.get_apply, legacy,
      Exchange.emit, Work.modify_apply, Line.connection_emit, Exchange.check_ok, sent, expectReply,
      cursor, target, closing, Bool.false_eq_true, if_false]
    rcases classify reply decoder asked.cursor line.connection.id.address after
      with ⟨_ | results, last⟩ <;> rfl

/-- A reply that comes to the same failure with every decoder is one with which the request
fails. -/
theorem fails (answered : fetch.Answered line reply after) {cause : Cause} {last : Line}
    (kept : last.connection.closed = false)
    (same : ∀ (α : Type) (decoder : Decoder α),
      classify reply decoder fetch.cursor line.connection.id.address after
        = (.error (.ofCause cause), last)) : fetch.Fails closes line cause := by
  apply fails_of_run kept
  intro α decoder
  rw [answered.run_eq, same]

/-- A cursor that is gone is told as such, whatever else is in the reply. -/
theorem fails_gone (answered : fetch.Answered line reply after)
    (gone : reply.flags.cursorNotFound = true) :
    fetch.Fails closes line (.cursorNotFound ⟨fetch.cursor, line.connection.id.address⟩) := by
  apply answered.fails answered.opened
  intro α decoder
  simp only [classify, gone, if_true]
  rfl

/-- A failure without a document is the server's fault. -/
theorem fails_empty (answered : fetch.Answered line reply after)
    (there : reply.flags.cursorNotFound = false) (failure : reply.flags.queryFailure = true)
    (empty : reply.documents = []) :
    fetch.Fails closes line (.response .noFailureDocument) := by
  apply answered.fails answered.opened
  intro α decoder
  simp only [classify, there, failure, empty, Bool.false_eq_true, if_false, if_true]
  rfl

/-- A failure is told with the first document, whatever comes after it. -/
theorem fails_flagged (answered : fetch.Answered line reply after)
    (there : reply.flags.cursorNotFound = false) (failure : reply.flags.queryFailure = true)
    {first : RawDocument} {rest : List RawDocument} (begins : reply.documents = first :: rest) :
    (first.toDocument? = none → fetch.Fails closes line (.response .malformed)) ∧
    ∀ document, first.toDocument? = some document →
      fetch.Fails closes line (.command (CommandError.ofDocument document)) := by
  have flagged (α : Type) (decoder : Decoder α) (address : Address) :
      classify reply decoder fetch.cursor address after = flaggedFailure address first after := by
    simp only [classify, there, failure, begins, Bool.false_eq_true, if_false, if_true]
  refine ⟨?_, ?_⟩
  · intro broken
    apply answered.fails answered.opened
    intro α decoder
    rw [flagged, flaggedFailure_apply, broken]
  · intro document found
    let error := CommandError.ofDocument document
    let told := after.emit (.serverFailure line.connection.id.address error.code error.message)
    -- The failure is reported as an event as well, which does nothing to the connection.
    have open_told : told.connection.closed = false := answered.opened
    apply answered.fails open_told
    intro α decoder
    rw [flagged, flaggedFailure_apply, found]

/-- Without a flag, the documents are decoded up to the first failure, and the connection is left
as it was. -/
theorem decodes (answered : fetch.Answered line reply after)
    (there : reply.flags.cursorNotFound = false) (sound : reply.flags.queryFailure = false)
    (decoder : Decoder α) :
    (fetch.run decoder line).2.connection.closed = false ∧
    ((∃ results, reply.documents.map decoder = results.map .ok ∧
        (fetch.run decoder line).1
          = .ok (Batch.ofCursor fetch.target results reply.cursor line.connection.id.address)) ∨
      ∃ front document back halt, ∃ values : List α,
        reply.documents = front ++ document :: back ∧ front.map decoder = values.map .ok ∧
        decoder document = .error halt ∧ (fetch.run decoder line).1 = .error halt) := by
  have decoding : classify reply decoder fetch.cursor line.connection.id.address
      = Exchange.decodeAll decoder reply.documents := by
    simp only [classify, there, sound, Bool.false_eq_true, if_false]
  rw [answered.run_eq, decoding]
  rcases decodeAll_apply reply.documents after with
    ⟨results, all, done⟩ | ⟨front, document, back, halt, values, same, all, wrong, ended⟩
  · rw [done]
    refine ⟨?_, .inl ⟨results, all, rfl⟩⟩
    -- The batch is told as an event at most.
    cases fetch <;> exact answered.opened
  · rw [ended]
    exact ⟨answered.opened, .inr ⟨front, document, back, halt, values, same, all, wrong, rfl⟩⟩

end Answered

end Fetch

end DocWire
