import DocWire.Proofs.Connection.Numbering

/-! Answers over a connection, along every history: each is read from a frame of its own that
answers the request it is given to, and the frames follow one another. -/

namespace DocWire

/-- A request that waits to be sent, in its bytes under its id. -/
def Sending.Genuine (sending : Sending) : Prop :=
  ∃ request, Request.encode request sending.id = .ok sending.bytes ∧
    sending.answered = request.expectsResponse

/-- What an exchange will come to is written in the stream: nothing is read without a response, and
one frame with it. -/
def Ending.Foreseen (limit : Int32) (sending : Sending) (unread : Bytes) : Ending → Prop
  | .completed _ none rest => rest.unread = unread
  | .completed _ (some response) rest => sending.answered = true ∧
      ∃ whole header body, unread = whole ++ rest.unread ∧ IsFrame limit header body whole ∧
        header.answering = sending.id ∧ Response.read header body = .ok response
  | _ => True

/-- A response that is awaited comes in the next frame, and it answers the request. -/
theorem Receipt.foreseen {channel : Channel} {limit : Int32} {waiting : Waiting} {now : Nat}
    {sending : Sending} (answered : sending.answered = true) :
    ((channel.receive limit waiting now).ending sending.id).Foreseen limit sending
      channel.unread := by
  -- Only a frame that is read without a fault can complete the exchange.
  cases got : channel.receive limit waiting now with
  | never => trivial
  | failed time cause => trivial
  | frame time header body rest =>
    obtain ⟨whole, all, framed⟩ := receiveFrom_frame got
    simp only [ending, Response.answer]
    cases read : Response.read header body with
    | error cause => trivial
    | ok response =>
      by_cases answers : header.answering = sending.id
      · simp only [Bind.bind, Except.bind, answers, if_true]
        exact ⟨answered, whole, header, body, all, framed, answers, read⟩
      · simp only [Bind.bind, Except.bind, answers, if_false]
        trivial

namespace Line

variable (line : Line)

/-- A closed connection is the same but for the flag. -/
theorem connection_markClosed (reason : CloseReason) :
    (line.markClosed reason).connection = { line.connection with closed := true } := by
  unfold markClosed
  -- A flag that is set already is the flag that is wanted.
  split
  · rename_i closed
    rw [← closed]
  · rfl

/-- The flag of a closed connection leaves the stream alone. -/
theorem unread_markClosed (reason : CloseReason) :
    (line.markClosed reason).unread = line.unread := by
  rw [unread, unread, connection_markClosed]

/-- A channel that is found is what there is to read. -/
theorem unread_some {channel : Channel} (found : line.connection.channel = some channel) :
    line.unread = channel.unread := by
  rw [unread, found]
  rfl

/-- A change of a line that loses nothing of the stream as long as the connection stays open, and
bytes at the front of the stream otherwise. -/
structure Forgoes (after : Line) : Prop where
  same : after.connection.description = line.connection.description
  lost : after.unread <:+ line.unread
  kept : after.connection.closed = false →
    line.connection.closed = false ∧ after.unread = line.unread

/-- Nothing is lost while all that has to do with the stream is the same. -/
theorem Forgoes.of_stream {line after : Line}
    (same : after.connection.description = line.connection.description)
    (closed : after.connection.closed = line.connection.closed)
    (channel : after.connection.channel = line.connection.channel) : line.Forgoes after := by
  have unread : after.unread = line.unread := by rw [Line.unread, Line.unread, channel]
  exact ⟨same, unread ▸ List.suffix_rfl, fun stillOpen => ⟨closed ▸ stillOpen, unread⟩⟩

/-- Nothing is lost while the connection is the same. -/
theorem Forgoes.of_connection {line after : Line} (same : after.connection = line.connection) :
    line.Forgoes after := .of_stream (by rw [same]) (by rw [same]) (by rw [same])

/-- A connection that is closed may lose bytes at the front of the stream. -/
theorem Forgoes.of_closed {line after : Line}
    (same : after.connection.description = line.connection.description)
    (closed : after.connection.closed = true) (lost : after.unread <:+ line.unread) :
    line.Forgoes after where
  same := same
  lost := lost
  kept stillOpen := by
    rw [closed] at stillOpen
    cases stillOpen

/-- An exchange that is abandoned loses what had arrived for it. -/
theorem forgoes_abandon : line.Forgoes line.abandon := by
  refine .of_closed ?_ ?_ ?_ <;> unfold abandon <;> simp only [connection_markClosed]
  cases found : line.connection.channel with
  | none => exact List.nil_suffix
  | some channel =>
    rw [unread_some line found]
    exact channel.unread_forsake _

/-- A connection that is closed without an exchange in flight loses the whole stream. -/
theorem forgoes_close (reason : CloseReason) : line.Forgoes (line.close reason) := by
  unfold close
  -- The connection was closed before, or an exchange holds the channel, or nobody does.
  split
  · exact .of_connection rfl
  · split
    · exact .of_closed (by rw [connection_markClosed]) (by rw [connection_markClosed])
        (line.unread_markClosed reason ▸ List.suffix_rfl)
    · exact .of_closed (by simp [dropChannel, connection_markClosed])
        (by simp [dropChannel, connection_markClosed]) List.nil_suffix

/-- An exchange in flight keeps the channel of a connection that is closed meanwhile. -/
theorem close_held (reason : CloseReason) (held : line.connection.inFlight = true) :
    (line.close reason).connection.inFlight = true ∧
      (line.close reason).unread = line.unread := by
  unfold close
  split
  · exact ⟨held, rfl⟩
  · simp only [held, connection_markClosed, unread_markClosed, and_self]

/-- An exchange that is never to end is abandoned in the end. -/
theorem forgoes_settle_never (sending : Sending) :
    line.Forgoes (line.settle sending .never).2 := by
  let waited := { line with network := line.network.advance line.network.patience }
  have forgoes := waited.forgoes_abandon
  exact ⟨forgoes.same, forgoes.lost, forgoes.kept⟩

/-- An exchange that fails takes the whole stream with it. -/
theorem forgoes_settle_failed (sending : Sending) (time : Nat) (cause : Cause) :
    line.Forgoes (line.settle sending (.failed time cause)).2 := by
  refine .of_closed ?_ ?_ List.nil_suffix <;>
    simp [settle, emit, dropChannel, connection_markClosed]

/-- An exchange that is completed leaves the rest of the stream, unless the connection was closed
meanwhile. -/
theorem settle_completed (sending : Sending) (time : Nat) (response : Option Response)
    (rest : Channel) :
    let settled := (line.settle sending (.completed time response rest)).2
    settled.connection.description = line.connection.description ∧
    settled.connection.closed = line.connection.closed ∧ settled.unread <:+ rest.unread ∧
    (settled.connection.closed = false → settled.unread = rest.unread) := by
  refine ⟨rfl, rfl, ?_, fun stillOpen => ?_⟩
  -- The flag decides whether the rest goes back to the connection.
  · cases closed : line.connection.closed with
    | true => simp [settle, unread, emit, closed]
    | false => simp [settle, unread, emit, closed]
  · have wasOpen : line.connection.closed = false := stillOpen
    simp [settle, unread, emit, wasOpen]

/-- What was found on a stream that starts an exchange stays there, and what the server adds comes
after it; and how the exchange will end is written there. -/
theorem start_stream {channel : Channel} (sending : Sending)
    (found : line.connection.channel = some channel) :
    let started := line.start sending channel
    started.1.connection.description = line.connection.description ∧
    started.1.connection.closed = line.connection.closed ∧
    started.1.connection.inFlight = true ∧ line.unread <+: started.1.unread ∧
    started.2.Foreseen line.connection.description.messageLimit sending started.1.unread := by
  intro started
  -- A stream that was hung up fails the exchange before anything goes out.
  cases hungUp : channel.hungUp with
  | true =>
    have same : started = _ := line.start_hungUp sending hungUp
    rw [same]
    exact ⟨rfl, rfl, rfl, List.prefix_rfl, trivial⟩
  | false =>
    have same : started = _ := line.start_connected sending hungUp
    have more := channel.unread_deliver line.network.now (line.network.reaction sending.id)
    rw [same]
    refine ⟨rfl, rfl, rfl, ?_, ?_⟩
    · rw [unread_some line found]
      exact more
    · dsimp only
      split
      · rename_i awaited
        exact Receipt.foreseen awaited
      · rfl

end Line

/-- One more answer takes up the stream where those before it left it. -/
theorem Tiles.append {first : Nat} {answers : List Answered} {answer : Answered}
    (tiles : Tiles first answers answer.first) : Tiles first (answers ++ [answer]) answer.last := by
  -- The answers before it are walked along to the place where they end.
  induction answers generalizing first with
  | nil => exact ⟨tiles.symm, rfl⟩
  | cons earlier rest ih => exact ⟨tiles.1, ih tiles.2⟩

/-- What comes later changes nothing about what was read. -/
theorem Answered.Sound.grow {limit : Int32} {received : Bytes} {answer : Answered}
    (sound : answer.Sound limit received) (more : Bytes) :
    answer.Sound limit (received ++ more) := by
  -- The part that the answer was read from ends before the new bytes begin.
  obtain ⟨request, header, body, sent, awaited, framed, within, length, bounds⟩ := sound
  have least := bounds.1
  refine ⟨request, header, body, sent, awaited, ?_, ?_, length, bounds⟩
  · rwa [List.drop_append_of_le_length (by omega), List.take_append_of_le_length]
    rw [List.length_drop]
    omega
  · rw [List.length_append]
    omega

namespace History

/-- The history is in step with the stream: what is unread is the end of what was received, the
answers were read one after another from what came before, and no byte was left out as long as the
connection is open. -/
structure InStep (limit : Int32) (history : History) : Prop where
  bound : history.line.connection.description.messageLimit = limit
  unread : history.line.unread <:+ history.received
  waiting : ∀ sending ∈ history.waiting, sending.Genuine
  flight : ∀ sending ending, history.flight = some (sending, ending) →
    sending.Genuine ∧ history.line.connection.inFlight = true ∧
      ending.Foreseen limit sending history.line.unread
  sound : ∀ answer ∈ history.answers, answer.Sound limit history.received
  read : ∀ answer ∈ history.answers, answer.last ≤ history.position
  apart : history.answers.Pairwise fun earlier later => earlier.last ≤ later.first
  whole : history.line.connection.closed = false → Tiles 0 history.answers history.position

variable {limit : Int32} {history : History}

/-- A history stays in step when bytes are lost at the front of the stream, provided that the
connection is closed with it. -/
theorem InStep.relined (inStep : history.InStep limit) {line : Line} {waiting : List Sending}
    {flight : Option (Sending × Ending)} (forgoes : history.line.Forgoes line)
    (genuine : ∀ sending ∈ waiting, sending.Genuine)
    (foreseen : ∀ sending ending, flight = some (sending, ending) →
      sending.Genuine ∧ line.connection.inFlight = true ∧
        ending.Foreseen limit sending line.unread) :
    InStep limit { history with line, waiting, flight } where
  bound := by
    rw [← inStep.bound, ← forgoes.same]
  unread := forgoes.lost.trans inStep.unread
  waiting := genuine
  flight := foreseen
  sound := inStep.sound
  read answer member := by
    -- The position can only have moved on.
    have before := inStep.read answer member
    have shorter := forgoes.lost.length_le
    simp only [position] at before ⊢
    omega
  apart := inStep.apart
  whole stillOpen := by
    obtain ⟨wasOpen, unread⟩ := forgoes.kept stillOpen
    have whole := inStep.whole wasOpen
    simpa only [position, unread] using whole

/-- What the server adds to the end of the stream is received. -/
theorem receive_eq {line : Line} {added : Bytes}
    (grown : history.line.unread ++ added = line.unread) :
    history.receive line = { history with line, received := history.received ++ added } := by
  rw [receive, ← grown, List.drop_left]

/-- A history stays in step when the server adds to the end of the stream. -/
theorem InStep.received (inStep : history.InStep limit) (idle : history.flight = none) {line : Line}
    (same : line.connection.description = history.line.connection.description)
    (closed : line.connection.closed = history.line.connection.closed)
    (more : history.line.unread <+: line.unread) : InStep limit (history.receive line) := by
  obtain ⟨added, grown⟩ := more
  -- Bytes at the end change nothing in how many were read before.
  have position : (history.receive line).position = history.position := by
    rw [receive_eq grown]
    simp only [History.position, ← grown, List.length_append]
    omega
  rw [receive_eq grown] at position ⊢
  refine ⟨?_, ?_, inStep.waiting, fun sending ending flying => ?_, fun answer member => ?_,
    fun answer member => ?_, inStep.apart, fun stillOpen => ?_⟩
  · rw [← inStep.bound, ← same]
  · obtain ⟨front, all⟩ := inStep.unread
    exact ⟨front, by rw [← grown, ← List.append_assoc, all]⟩
  · rw [idle] at flying
    cases flying
  · exact (inStep.sound answer member).grow added
  · rw [position]
    exact inStep.read answer member
  · rw [position]
    exact inStep.whole (closed.symm.trans stillOpen)

/-- A history stays in step when the exchange in flight ends with an answer: it was read from the
very next frame. -/
theorem InStep.answer (inStep : history.InStep limit) {line : Line} {sending : Sending}
    {response : Response} {rest : Channel} {whole body : Bytes} {header : Header}
    (same : line.connection.description = history.line.connection.description)
    (closed : line.connection.closed = history.line.connection.closed)
    (lost : line.unread <:+ rest.unread)
    (kept : line.connection.closed = false → line.unread = rest.unread)
    (genuine : sending.Genuine) (awaited : sending.answered = true)
    (all : history.line.unread = whole ++ rest.unread) (framed : IsFrame limit header body whole)
    (answers : header.answering = sending.id) (read : Response.read header body = .ok response) :
    InStep limit { history with
      line
      flight := none
      answers := history.answers ++
        [⟨sending, history.position, history.received.length - rest.unread.length,
          response⟩] } := by
  obtain ⟨front, received⟩ := inStep.unread
  rw [all] at received
  have counted : history.received.length = front.length + (whole.length + rest.unread.length) := by
    rw [← received, List.length_append, List.length_append]
  have position : history.position = front.length := by
    simp only [History.position, all, List.length_append]
    omega
  have last : history.received.length - rest.unread.length = front.length + whole.length := by
    omega
  have shorter := lost.length_le
  -- In these terms the answer begins where the front ends, and takes up the whole frame.
  rw [position, last]
  refine ⟨?_, ?_, inStep.waiting, fun _ _ flying => (by cases flying), fun answer member => ?_,
    fun answer member => ?_, ?_, fun stillOpen => ?_⟩
  · rw [← inStep.bound, ← same]
  · exact lost.trans ⟨front ++ whole, by rw [List.append_assoc, received]⟩
  · rcases List.mem_append.mp member with earlier | new
    · exact inStep.sound answer earlier
    · obtain rfl := List.mem_singleton.mp new
      obtain ⟨request, sent, expects⟩ := genuine
      obtain ⟨length, bounds⟩ := framed.length
      refine ⟨request, header, body, sent, expects ▸ awaited, ?_, ?_, ?_, bounds.1, bounds.2,
        answers, read⟩
      · rwa [← received, List.drop_left, Nat.add_sub_cancel_left, List.take_left]
      · dsimp only
        omega
      · dsimp only
        omega
  · simp only [History.position]
    rcases List.mem_append.mp member with earlier | new
    · have before := inStep.read answer earlier
      omega
    · obtain rfl := List.mem_singleton.mp new
      dsimp only
      omega
  · -- All that was read before was read from the front.
    refine List.pairwise_append.mpr ⟨inStep.apart, List.pairwise_singleton _ _, ?_⟩
    intro earlier member new appended
    obtain rfl := List.mem_singleton.mp appended
    exact position ▸ inStep.read earlier member
  · -- On an open connection nothing of the rest is lost, so the next frame begins there.
    have tiles := inStep.whole (closed.symm.trans stillOpen)
    rw [position] at tiles
    have reached : history.received.length - line.unread.length = front.length + whole.length := by
      rw [kept stillOpen]
      omega
    simp only [History.position, reached]
    exact Tiles.append tiles

/-- Whether a request gets an id or not, the history stays in step. -/
theorem InStep.register (inStep : history.InStep limit) (request : Request)
    (context : Correlation) : InStep limit (history.perform (.register request context)) := by
  obtain ⟨network, same, -⟩ := register_network history.line request context
  simp only [perform]
  rcases registered : DocWire.register request context history.line with ⟨cause | sending, line⟩
  · rw [registered] at same
    obtain rfl : line = { history.line with network } := same
    exact inStep.relined (.of_connection rfl) inStep.waiting inStep.flight
  · rw [registered] at same
    obtain rfl : line = { history.line with network } := same
    -- One more sending waits, and its request has gone out and is to be answered.
    obtain ⟨-, -, sent, awaited⟩ := register_ok registered
    refine inStep.relined (.of_connection rfl) (fun one member => ?_) inStep.flight
    rcases List.mem_append.mp member with earlier | new
    · exact inStep.waiting one earlier
    · obtain rfl := List.mem_singleton.mp new
      exact ⟨request, sent, awaited⟩

/-- An exchange that takes the channel leaves the history in step. -/
theorem InStep.start (inStep : history.InStep limit) (place : Nat) :
    InStep limit (history.perform (.start place)) := by
  have fewer : ∀ sending ∈ history.waiting.eraseIdx place, sending.Genuine := fun sending member =>
    inStep.waiting sending (List.mem_of_mem_eraseIdx member)
  simp only [perform]
  -- Either the exchange takes the channel, or it finds none, or it is not its turn.
  split
  · rename_i sending channel idle next found
    obtain ⟨same, closed, held, more, foreseen⟩ := history.line.start_stream sending found
    have received := inStep.received idle same closed more
    rw [inStep.bound] at foreseen
    refine received.relined (.of_connection rfl) fewer ?_
    rintro _ _ ⟨⟩
    exact ⟨inStep.waiting sending (List.mem_of_getElem? next), held, foreseen⟩
  · exact inStep.relined (.of_connection rfl) fewer inStep.flight
  · exact inStep

/-- What the server sends unasked leaves the history in step. -/
theorem InStep.serve (inStep : history.InStep limit) (deliveries : List Delivery) :
    InStep limit (history.perform (.serve deliveries)) := by
  simp only [perform]
  split
  · rename_i channel idle found
    refine inStep.received idle rfl rfl ?_
    rw [Line.unread_some _ found]
    exact channel.unread_deliver _ _
  · exact inStep

/-- An exchange that is cancelled leaves the history in step. -/
theorem InStep.cancel (inStep : history.InStep limit) :
    InStep limit (history.perform .cancel) := by
  simp only [perform]
  split
  · exact inStep
  · exact inStep.relined history.line.forgoes_abandon inStep.waiting
      fun _ _ flying => (by cases flying)

/-- An exchange that ends as foreseen leaves the history in step. -/
theorem InStep.settle (inStep : history.InStep limit) :
    InStep limit (history.perform .settle) := by
  simp only [perform]
  split
  · exact inStep
  · rename_i sending ending flying
    obtain ⟨genuine, held, foreseen⟩ := inStep.flight sending ending flying
    -- What was foreseen when the exchange took the channel still holds.
    cases ending with
    | never =>
      exact inStep.relined (history.line.forgoes_settle_never sending) inStep.waiting
        fun _ _ flying => (by cases flying)
    | failed time cause =>
      exact inStep.relined (history.line.forgoes_settle_failed sending time cause) inStep.waiting
        fun _ _ flying => (by cases flying)
    | completed time response rest =>
      obtain ⟨same, closed, lost, kept⟩ :=
        history.line.settle_completed sending time response rest
      cases response with
      | none =>
        -- Nothing was read, so nothing is answered.
        have unread : rest.unread = history.line.unread := foreseen
        rw [unread] at lost kept
        exact inStep.relined ⟨same, lost, fun stillOpen => ⟨closed.symm.trans stillOpen,
          kept stillOpen⟩⟩ inStep.waiting fun _ _ flying => (by cases flying)
      | some response =>
        obtain ⟨awaited, whole, header, body, all, framed, answers, read⟩ := foreseen
        exact inStep.answer same closed lost kept genuine awaited all framed answers read

/-- What has nothing to do with the stream leaves the history in step. -/
theorem InStep.stream (inStep : history.InStep limit) {line : Line}
    (same : line.connection.description = history.line.connection.description)
    (closed : line.connection.closed = history.line.connection.closed)
    (channel : line.connection.channel = history.line.connection.channel)
    (held : line.connection.inFlight = history.line.connection.inFlight) :
    InStep limit { history with line } := by
  refine inStep.relined (.of_stream same closed channel) inStep.waiting
    fun sending ending flying => ?_
  have unread : line.unread = history.line.unread := by rw [Line.unread, Line.unread, channel]
  rw [unread, held]
  exact inStep.flight sending ending flying

/-- A connection that is closed leaves the history in step. -/
theorem InStep.close (inStep : history.InStep limit) (reason : CloseReason) :
    InStep limit { history with line := history.line.close reason } := by
  refine inStep.relined (history.line.forgoes_close reason) inStep.waiting
    fun sending ending flying => ?_
  obtain ⟨genuine, held, foreseen⟩ := inStep.flight sending ending flying
  obtain ⟨stillHeld, unread⟩ := history.line.close_held reason held
  exact ⟨genuine, stillHeld, unread ▸ foreseen⟩

/-- Whatever happens leaves the history in step. -/
theorem InStep.perform (inStep : history.InStep limit) (happening : Happening) :
    InStep limit (history.perform happening) := by
  cases happening with
  | register request context => exact inStep.register request context
  | start place => exact inStep.start place
  | settle => exact inStep.settle
  | cancel => exact inStep.cancel
  | forgo place =>
    exact inStep.relined (.of_connection rfl) (fun sending member =>
      inStep.waiting sending (List.mem_of_mem_eraseIdx member)) inStep.flight
  | serve deliveries => exact inStep.serve deliveries
  | close reason => exact inStep.close reason
  | pin mode =>
    simp only [History.perform, Line.pin]
    split
    · exact inStep
    · exact inStep.stream rfl rfl rfl rfl
  | retain =>
    simp only [History.perform, Line.retain]
    split
    · exact inStep
    · exact inStep.stream rfl rfl rfl rfl
  | release =>
    simp only [History.perform, Line.release]
    split
    · exact inStep
    · rename_i last references _
      have given : InStep limit { history with
          line := { history.line with
            connection := { history.line.connection with references } } } :=
        inStep.stream rfl rfl rfl rfl
      -- The last reference takes the connection with it.
      dsimp only [change]
      split
      · exact given.close _
      · exact given
  | elsewhere change => exact inStep.relined (.of_connection rfl) inStep.waiting inStep.flight

/-- A history stays in step whatever happens, and in whatever order. -/
theorem InStep.run (inStep : history.InStep limit) (happenings : List Happening) :
    InStep limit (history.run happenings) := by
  -- Each thing that happens finds the history in step and leaves it so.
  induction happenings generalizing history with
  | nil => exact inStep
  | cons happening rest ih => exact ih (inStep.perform happening)

/-- A history is in step when it begins. -/
theorem inStep_begin (line : Line) :
    InStep line.connection.description.messageLimit (begin line) where
  bound := rfl
  unread := List.suffix_rfl
  waiting _ member := by cases member
  flight _ _ flying := by cases flying
  sound _ member := by cases member
  read _ member := by cases member
  apart := .nil
  whole _ := by simp [begin, position, Tiles]

/-- A request that is sent when no exchange is in flight is registered, starts and is settled, one
right after the other; and what went out under its id is this very request. -/
theorem run_send (idle : history.flight = none) {request : Request} {context : Correlation}
    {response : Response} {after : Line}
    (done : send request context history.line = (.ok (some response), after)) :
    let next := history.run [.register request context, .start history.waiting.length, .settle]
    next.line = after ∧ ∃ answer, next.answers = history.answers ++ [answer] ∧
      answer.response = response ∧ request.expectsResponse = true ∧
      answer.sending.id = history.line.network.nextRequest ∧
      request.encode answer.sending.id = .ok answer.sending.bytes := by
  -- An answer means that the request got its id and that there was a channel.
  obtain ⟨sending, middle, registered, carried⟩ := Work.bind_ok done
  obtain ⟨id, -, encoded, answered⟩ := register_ok registered
  cases found : middle.connection.channel with
  | none =>
    rw [carryOut_none found] at carried
    cases carried
  | some channel =>
    rw [carryOut_some found] at carried
    obtain ⟨⟨time, rest, complete⟩, -⟩ := Line.settle_ok _ carried
    -- Only a request that expects a response is answered.
    obtain ⟨-, -, -, -, foreseen⟩ := middle.start_stream sending found
    rw [complete] at carried foreseen
    simp only [History.run, List.foldl_cons, List.foldl_nil, History.perform, registered, idle,
      List.getElem?_concat_length, found, receive, complete, carried]
    exact ⟨trivial, _, rfl, rfl, answered.symm.trans foreseen.1, id, encoded⟩

/-- Along every history of a connection, whatever the server sends and whenever: each answer was
read from one frame of the stream, of a length within its bounds, that answers the id of the very
request; the frames come one after another and never overlap; as long as the connection is open,
they make up all that was read, without a gap; each answer is given to a request that was
registered, and while the counter of ids does not start over, no two that are registered have the
same id; and a response to a request that is sent by itself is such an answer. -/
theorem answers_of_run (line : Line) (happenings : List Happening) :
    let history := (begin line).run happenings
    let given := (begin line).given happenings
    (∀ answer ∈ history.answers,
      answer.Sound line.connection.description.messageLimit history.received) ∧
    history.answers.Pairwise (fun earlier later => earlier.last ≤ later.first) ∧
    (history.line.connection.closed = false → Tiles 0 history.answers history.position) ∧
    (∀ answer ∈ history.answers, answer.sending ∈ given) ∧
    (∀ most, List.Forall₂ (fun most happening => happening.Spends most) most happenings →
      most.sum ≤ 2 ^ 32 → (given.map (·.id)).Nodup) ∧
    (history.flight = none → ∀ request context response after,
      send request context history.line = (.ok (some response), after) →
      let next :=
        history.run [.register request context, .start history.waiting.length, .settle]
      next.line = after ∧ ∃ answer, next.answers = history.answers ++ [answer] ∧
        answer.response = response ∧ request.expectsResponse = true ∧
        answer.sending.id = history.line.network.nextRequest ∧
        request.encode answer.sending.id = .ok answer.sending.bytes) := by
  intro history given
  have inStep := (inStep_begin line).run happenings
  refine ⟨inStep.sound, inStep.apart, inStep.whole, fun answer among => ?_,
    fun _ spends few => nodup_given spends few, fun idle _ _ _ _ done => run_send idle done⟩
  rcases knows_run (.inr (.inr ⟨answer, among, rfl⟩)) with known | given
  · -- Nobody is known when it begins.
    rcases known with waits | ⟨_, flying⟩ | ⟨_, none, _⟩
    · cases waits
    · cases flying
    · cases none
  · exact given

end History

end DocWire
