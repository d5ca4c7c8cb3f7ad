import DocWire.Operation.Basic
import DocWire.Proofs.Binding.Borrowing
import DocWire.Proofs.Command.Run
import DocWire.Proofs.Connection.Standing

/-! What operations on bindings take, they give back: whichever way an operation ends, its source is
released, its connection loses the one reference that the operation had, and nobody else's count has
changed. -/

namespace DocWire

/-- What an operation and the release after it come to: an operation that ended without an answer is
told, else a release that failed. -/
def settleWith {α : Type} (outcome : Except Halt α) (released : Except Halt Unit) :
    Except Halt α := do
  let value ← outcome
  released
  return value

/-- Whether nobody waits for the end of the work any more. -/
def isGivenUp {α : Type} : Except Halt α → Bool
  | .error .dropped => true
  | _ => false

/-- Work that was given up has no other end. -/
theorem eq_dropped_of_isGivenUp {α : Type} {result : Except Halt α}
    (given : isGivenUp result = true) : result = .error .dropped := by
  cases result with
  | ok => cases given
  | error halt =>
    cases halt with
    | failed => cases given
    | panicked => cases given
    | dropped => rfl

/-- All that holders of references can tell: the counts, and the references to each connection. -/
def World.holdings (world : World) : (Table References × Nat) × (Nat → References) :=
  (world.counted, fun number => (world.connections.get number).references)

namespace Act

variable {α : Type} {world middle last : World}

/-- Work on a connection is work on its line, which is put back. -/
theorem exchange_apply (connection : Nat) (session : Option Nat) (work : Exchange α)
    (world : World) :
    exchange connection session work world
      = ((work (world.line connection session none)).1,
        world.putLine connection session (work (world.line connection session none)).2) := by
  -- The line is put back before the end is handed on, whatever it is.
  simp only [exchange, onLine, Work.bind_apply]
  rcases work (world.line connection session none) with ⟨_ | value, line⟩ <;> rfl

/-- A connection that was worked on is what the work has made of it, and the others are the same. -/
theorem connections_putLine (world : World) (connection number : Nat) (session : Option Nat)
    (line : Line) :
    (world.putLine connection session line).connections.get number =
      if number = connection then line.connection else world.connections.get number := by
  simp only [World.putLine, Table.get, Table.get?_set]
  split <;> rfl

/-- Work on a connection leaves the counts alone. -/
theorem counted_exchange (connection : Nat) (session : Option Nat) (work : Exchange α) :
    Work.Keeps World.counted (exchange connection session work) := by
  intro world
  rw [exchange_apply]
  rfl

/-- To give up a connection leaves the counts alone. -/
theorem counted_releaseConnection (connection : Nat) :
    Work.Keeps World.counted (releaseConnection connection) := counted_exchange _ _ _

/-- Work on a connection that keeps the references to it leaves all holdings alone. -/
theorem holdings_exchange {work : Exchange α} (kept : Work.Keeps (·.connection.references) work)
    (connection : Nat) (session : Option Nat) :
    Work.Keeps World.holdings (exchange connection session work) := by
  intro world
  rw [exchange_apply]
  refine Prod.ext rfl (funext fun number => ?_)
  simp only [World.holdings, connections_putLine]
  split
  · -- The connection is put back with the references that it had.
    rename_i own
    subst own
    exact kept (world.line number session none)
  · rfl

/-- A connection that is held loses one reference when one is given up, and is closed when that was
the last. -/
theorem releaseConnection_held {connection left : Nat}
    (held : (world.connections.get connection).references = .held (left + 1)) :
    ∃ after, releaseConnection connection world = (.ok (), after) ∧
      (after.connections.get connection).references = .held left ∧
      (left = 0 → (after.connections.get connection).closed = true) := by
  have released := (world.line connection none none).release_held held
  rw [releaseConnection, changeLine, exchange_apply]
  simp only [Work.bind_apply, Work.get_apply, released, Exchange.check_ok, Work.set_apply]
  refine ⟨_, rfl, ?_⟩
  rw [connections_putLine, if_pos rfl]
  by_cases last : left = 0
  · subst last
    rw [if_pos rfl]
    -- The closing leaves the references alone, of which none are left.
    refine ⟨?_, fun _ => Line.closed_close _ _⟩
    exact congrArg Line.Lasting.references (Line.lasting_close _ _)
  · rw [if_neg last]
    exact ⟨rfl, fun none => absurd none last⟩

/-- A lease gives up the connection, if there is one, and then the source; when the source can be
given up, the end of the lease is that of the connection. -/
theorem releaseLease_apply (connection : Option Nat) {source : Source} {ended : Except Halt Unit}
    (one : connection.forM releaseConnection world = (ended, middle))
    (two : source.release middle = (.ok (), last)) :
    ∃ after, releaseLease connection source world = (ended, after) ∧
      after.counted = last.counted ∧ after.connections = last.connections := by
  -- Whatever was to be noted is a report.
  have noted (result : Except Halt Unit) (state : World) : ∃ after,
      noteRelease result state = (.ok (), after) ∧ after.counted = state.counted ∧
        after.connections = state.connections := by
    cases result with
    | ok _ => exact ⟨state, rfl, rfl, rfl⟩
    | error halt => exact ⟨_, rfl, rfl, rfl⟩
  obtain ⟨after, reported, counted, connections⟩ := noted ended last
  refine ⟨after, ?_, counted, connections⟩
  simp only [releaseLease, Work.bind_apply, attempt, one, two, reported]
  cases ended <;> rfl

/-- Work over a connection of a source ends as the checkout does when that fails, and else as the
work and the release after it come to. -/
theorem withConnection_apply (source : Source) (work : Source → Nat → Act α)
    (checkout : Server → Act Nat) (world : World) :
    withConnection source work checkout world =
      match source.connection checkout world with
      | (.error halt, leased) => (.error halt, (releaseLease none source leased).2)
      | (.ok connection, leased) =>
        let (outcome, worked) := work source connection leased
        let (released, after) := releaseLease (some connection) source worked
        (settleWith outcome released, after) := by
  unfold withConnection
  rw [Work.bind_apply, attempt]
  rcases source.connection checkout world with ⟨halt | connection, leased⟩
  · rfl
  · rcases done : work source connection leased with ⟨outcome, worked⟩
    rcases given : releaseLease (some connection) source worked with ⟨released, after⟩
    simp only [Work.bind_apply, attempt, done, given]
    -- An end without an answer is told before a release that failed.
    rcases outcome with halt | value
    · rfl
    · rcases released with halt | _ <;> rfl

/-- A check changes nothing. -/
theorem keeps_check {σ : Type} {view : World → σ} (result : Except Cause α) :
    Work.Keeps view (check result) := by
  cases result with
  | ok value => exact .pure value
  | error cause => exact .throw _

end Act

/-- To judge whether a source may be used changes nothing. -/
theorem Source.keeps_ensureUsable {τ : Type} {view : World → τ} (source : Source) :
    Work.Keeps view source.ensureUsable := by
  induction source with
  | server count binding selected => exact Act.keeps_ensureLive _ _
  | session count binding inner ih =>
    have looks (session : Nat) : Work.Keeps view (Act.ensureUsable session) :=
      .bind .get fun _ => Act.keeps_checkLifecycle _
    refine .bind (Act.keeps_ensureLive _ _) fun _ => ?_
    -- The session is looked at, and that is all.
    cases binding.sessionUse with
    | some use => exact (looks use.session).bind fun _ => ih
    | none => exact ih

/-- To check a connection out leaves the counts alone, as long as the server does. -/
theorem Source.counted_connection {checkout : Server → Act Nat}
    (apart : ∀ server, Work.Keeps World.counted (checkout server)) (source : Source) :
    Work.Keeps World.counted (source.connection checkout) :=
  .bind source.keeps_ensureUsable fun _ => apart source.target

namespace Act

variable {α : Type} {binding : Binding} {intent : Intent} {work : Source → Nat → Act α}
  {checkout : Server → Act Nat} {world after : World} {result : Except Halt α}

/-- Work over a connection of a binding gives back all that it took, whichever way it ends. -/
theorem onBinding_settled (known : binding.Known world)
    (apart : ∀ server, Work.Keeps World.counted (checkout server))
    (steady : ∀ source connection, Work.Keeps World.holdings (work source connection))
    (ended : onBinding binding intent work checkout world = (result, after)) :
    (∀ key < world.nextKey, after.refs key = world.refs key) ∧
    ((∃ halt, binding.acquire intent world = (.error halt, after) ∧ result = .error halt) ∨
    ∃ source middle, binding.acquire intent world = (.ok source, middle) ∧
      (∀ key ∈ source.keys, after.refs key = .held 0) ∧
      ((∃ halt leased, source.connection checkout middle = (.error halt, leased) ∧
        result = .error halt) ∨
      ∃ connection leased outcome worked released,
        source.connection checkout middle = (.ok connection, leased) ∧
        work source connection leased = (outcome, worked) ∧
        releaseLease (some connection) source worked = (released, after) ∧
        result = settleWith outcome released ∧
        ∀ left, (leased.connections.get connection).references = .held (left + 1) →
          released = .ok () ∧ (after.connections.get connection).references = .held left ∧
            (left = 0 → (after.connections.get connection).closed = true))) := by
  rw [onBinding, Work.bind_apply] at ended
  rcases binding.acquire_cases intent world known with
    ⟨halt, middle, failed, quiet⟩ | ⟨source, middle, acquired, lent, -⟩
  · rw [failed] at ended
    cases ended
    exact ⟨fun key _ => World.refs_of_counted quiet key, .inl ⟨halt, failed, rfl⟩⟩
  · rw [acquired] at ended
    dsimp only at ended
    rw [withConnection_apply] at ended
    have untouched := source.counted_connection apart middle
    rcases checkedOut : source.connection checkout middle with ⟨halt | connection, leased⟩ <;>
      rw [checkedOut] at ended untouched <;> dsimp only at ended untouched
    · -- Without a connection, the source is all that there is to give back.
      obtain ⟨last, given, -, gone, old⟩ := lent.back known untouched
      obtain ⟨final, lease, counted, -⟩ := releaseLease_apply none rfl given
      have refs := World.refs_of_counted counted
      rw [lease] at ended
      cases ended
      exact ⟨fun key before => (refs key).trans (old key before), .inr ⟨source, middle, acquired,
        fun key member => (refs key).trans (gone key member), .inl ⟨halt, leased, checkedOut, rfl⟩⟩⟩
    · have kept := steady source connection leased
      rcases done : work source connection leased with ⟨outcome, worked⟩
      rw [done] at ended kept
      dsimp only at ended kept
      -- Whatever comes of the connection, the counts are as they were after the acquisition.
      rcases freed : releaseConnection connection worked with ⟨released, unheld⟩
      have aside := counted_releaseConnection connection worked
      rw [freed] at aside
      have counts : unheld.counted = middle.counted :=
        aside.trans ((congrArg Prod.fst kept).trans untouched)
      obtain ⟨last, given, same, gone, old⟩ := lent.back known counts
      obtain ⟨final, lease, counted, connections⟩ :=
        releaseLease_apply (some connection) freed given
      have refs := World.refs_of_counted counted
      rw [lease] at ended
      cases ended
      refine ⟨fun key before => (refs key).trans (old key before), .inr ⟨source, middle, acquired,
        fun key member => (refs key).trans (gone key member), .inr ⟨connection, leased, outcome,
          worked, released, checkedOut, done, lease, rfl, fun left held => ?_⟩⟩⟩
      have references := congrFun (congrArg Prod.snd kept) connection
      obtain ⟨freedOnce, ok, less, closed⟩ := releaseConnection_held (references.trans held)
      rw [freed] at ok
      cases ok
      -- What was made of the connection is still there when the source has gone.
      have table : last.uncounted.connections = unheld.uncounted.connections :=
        congrArg World.connections same
      have unchanged : after.connections.get connection = unheld.connections.get connection := by
        rw [connections]
        exact congrArg (·.get connection) table
      rw [unchanged]
      exact ⟨rfl, less, closed⟩

end Act

/-- A command leaves the references to its connection alone. -/
theorem CommandCall.references_run {α : Type} (call : CommandCall) (decoder : Decoder α) :
    Work.Keeps (·.connection.references) (call.run decoder) :=
  .bind call.keeps_prepare fun _ =>
    .bind ((lasting_send _ _).part Line.Lasting.references) fun _ =>
      keeps_conclude (fun _ _ => rfl) (fun _ _ => rfl) (fun _ _ => rfl) _ _ _

/-- A write leaves the references to its connection alone. -/
theorem Write.references_run (write : Write) : Work.Keeps (·.connection.references) write.run := by
  have sends (request : Request) (context : Correlation) :
      Work.Keeps (·.connection.references) (send request context) :=
    (lasting_send request context).part Line.Lasting.references
  have replies (address : Address) (response : Response) :
      Work.Keeps (·.connection.references) (replyDocument address response) :=
    Exchange.keeps_replyDocument (fun _ _ => rfl) address response
  have command : Work.Keeps (·.connection.references) write.runCommand := by
    refine .bind .get fun _ => .bind (Exchange.keeps_check _) fun _ => .bind (sends _ _)
      fun response => ?_
    cases response with
    | none => exact .pure _
    | some response => exact .bind (replies _ _) fun _ => Exchange.keeps_check _
  have question : Work.Keeps (·.connection.references) write.confirmLegacy := by
    refine .bind .get fun _ => .bind (Exchange.keeps_check _) fun _ => .bind (sends _ _)
      fun response => ?_
    cases response with
    | none => exact .throw _
    | some response =>
      exact .bind (replies _ _) fun _ => .bind (Exchange.keeps_check _) fun _ => .pure _
  have legacy : Work.Keeps (·.connection.references) write.runLegacy := by
    refine .bind (.bind (Exchange.keeps_check _) fun _ => .bind (sends _ _) fun _ => .pure _)
      fun _ => ?_
    split
    · exact question
    · exact .pure _
  -- Which of the dialects is spoken makes no difference here.
  refine .bind .get fun _ => .bind (Exchange.keeps_check _) fun _ =>
    .bind (Exchange.keeps_check _) fun _ => ?_
  split
  · exact command
  · exact legacy

/-- An operation that finds a connection through a binding. -/
inductive BindingCall : Type → Type 1 where
  | runCommand {α : Type} (operation : RunCommand) (decoder : Decoder α) : BindingCall α
  | dropUser (operation : DropUser) : BindingCall Unit

namespace BindingCall

variable {α : Type}

/-- Whether the operation is refused before anything is acquired. -/
def refused : BindingCall α → Bool
  | runCommand operation _ => operation.command.isEmpty
  | dropUser _ => false

/-- What the operation acquires a source for. -/
def intent : BindingCall α → Intent
  | runCommand .. => .read
  | dropUser _ => .write

/-- The operation over a connection of a source. -/
def onConnection (call : BindingCall α) (binding : Binding) (api : Option ServerApi) :
    Source → Nat → Act α :=
  match call with
  | runCommand operation decoder => operation.onConnection binding.readPreference api decoder
  | dropUser operation => operation.onConnection api

/-- Runs the operation on a binding. -/
def run (call : BindingCall α) (binding : Binding) (checkout : Server → Act Nat) : Act α :=
  match call with
  | runCommand operation decoder => operation.run binding decoder checkout
  | dropUser operation => operation.run binding checkout

/-- The server interface that the operation declares. -/
def api (binding : Binding) (world : World) : Option ServerApi :=
  (world.topologies.get binding.topology).options.api

/-- An operation that is not refused runs over a connection of the binding. -/
theorem run_apply (call : BindingCall α) (binding : Binding) (checkout : Server → Act Nat)
    (world : World) :
    call.run binding checkout world =
      if call.refused then (.error (.ofCause (.argument .emptyCommand)), world)
      else
        Act.onBinding binding call.intent (call.onConnection binding (api binding world)) checkout
          world := by
  cases call with
  | runCommand operation decoder =>
    cases empty : operation.command.isEmpty <;>
      simp [run, RunCommand.run, refused, empty, Binding.api, Act.fail, intent, onConnection, api]
  | dropUser operation => simp [run, DropUser.run, refused, Binding.api, intent, onConnection, api]

/-- An operation over a connection leaves all holdings alone. -/
theorem holdings_onConnection (call : BindingCall α) (binding : Binding) (api : Option ServerApi)
    (source : Source) (connection : Nat) :
    Work.Keeps World.holdings (call.onConnection binding api source connection) := by
  have command {β : Type} (use : Option SessionUse) (rule : NameRule) (made : CommandCall)
      (decoder : Decoder β) :
      Work.Keeps World.holdings (Act.command connection use rule made decoder) := by
    -- The names are checked, the command is run, and that an answer is missing is told.
    refine .bind (Act.keeps_check _) fun _ =>
      .bind (Act.holdings_exchange (made.references_run decoder) _ _) fun reply => ?_
    cases reply with
    | none => exact .throw _
    | some reply => exact .pure reply
  cases call with
  | runCommand operation decoder => exact command _ _ _ _
  | dropUser operation =>
    refine .bind .get fun world => ?_
    dsimp only
    split
    · exact .bind (command _ _ _ _) fun _ => .pure _
    · exact .bind (Act.holdings_exchange operation.deletion.references_run _ _) fun _ => .pure _

/-- Whichever way an operation on a binding ends, all counts that there were are what they were
before; a source that was acquired is held by nobody; and the operation ends as its acquisition did,
as its checkout did, or as the work and the release after it come to: the work's own end without an
answer is told, and a release that failed only after an answer. The release does not fail for a
connection that was handed out to be held: that has one reference less, and is closed when it was
the last. -/
theorem settled_of_run (call : BindingCall α) (binding : Binding) (checkout : Server → Act Nat)
    (world after : World) (result : Except Halt α)
    (known : binding.Known world)
    (apart : ∀ server, Work.Keeps World.counted (checkout server))
    (ended : call.run binding checkout world = (result, after)) :
    (∀ key < world.nextKey, after.refs key = world.refs key) ∧
    ((call.refused = true ∧ result = .error (.ofCause (.argument .emptyCommand)) ∧
      after = world) ∨
    (∃ halt, binding.acquire call.intent world = (.error halt, after) ∧ result = .error halt) ∨
    ∃ source middle, binding.acquire call.intent world = (.ok source, middle) ∧
      (∀ key ∈ source.keys, after.refs key = .held 0) ∧
      ((∃ halt leased, source.connection checkout middle = (.error halt, leased) ∧
        result = .error halt) ∨
      ∃ connection leased outcome worked released,
        source.connection checkout middle = (.ok connection, leased) ∧
        call.onConnection binding (api binding world) source connection leased = (outcome, worked) ∧
        Act.releaseLease (some connection) source worked = (released, after) ∧
        result = settleWith outcome released ∧
        ∀ left, (leased.connections.get connection).references = .held (left + 1) →
          released = .ok () ∧ (after.connections.get connection).references = .held left ∧
            (left = 0 → (after.connections.get connection).closed = true))) := by
  rw [run_apply] at ended
  -- Only a command without a name is refused before anything is acquired.
  cases refuses : call.refused with
  | true =>
    rw [refuses, if_pos rfl] at ended
    cases ended
    exact ⟨fun _ _ => rfl, .inl ⟨rfl, rfl, rfl⟩⟩
  | false =>
    rw [refuses, if_neg (by simp)] at ended
    obtain ⟨counts, outcome⟩ :=
      Act.onBinding_settled known apart (call.holdings_onConnection binding _) ended
    exact ⟨counts, .inr outcome⟩

/-- A server that makes a new connection for everybody leaves the counts alone. -/
theorem counted_connectTo (server : Server) : Work.Keeps World.counted (Act.connectTo server) := by
  unfold Act.connectTo
  split
  · exact .throw _
  · exact fun _ => rfl

/-- A command under the session of a binding to a cluster that waits in vain for a silent server is
given up; nobody holds the source or the connection that it had, and both bindings are held as they
were. -/
theorem settled_of_run_silent :
    let address : Address := default
    let server : Server := {
      description := { address, type := .standalone }
      connection := { address, type := .standalone } }
    let world : World := {
      network := { patience := 10 }
      sessions := ⟨[(0, { server := ⟨0⟩, pool := 0, causal := false })]⟩
      topologies := ⟨[(0, { type := .single, servers := [server] })]⟩
      counts := ⟨[(0, .held 1), (1, .held 1)]⟩
      nextKey := 2 }
    let binding : Binding := .session 1 (.cluster 0 0 .primary) 0 true
    let call : BindingCall Decoded := .runCommand ⟨"db", [("ping", .int32 1)]⟩ Decoder.document
    ∃ (after : World) (source : Source) (connection : Nat),
      call.run binding Act.connectTo world = (.error .dropped, after) ∧
      after.refs 0 = .held 1 ∧ after.refs 1 = .held 1 ∧
      (∀ key ∈ source.keys, after.refs key = .held 0) ∧
      (after.connections.get connection).references = .held 0 ∧
      (after.connections.get connection).closed = true := by
  intro address server world binding call
  have known : binding.Known world := by
    unfold Binding.Known
    decide +kernel
  have dropped : isGivenUp (call.run binding Act.connectTo world).1 = true := by decide +kernel
  let checkout : Act Nat := do (← binding.acquire .read).connection Act.connectTo
  have lent : (checkout world).1.toOption.map
      (fun connection => ((checkout world).2.connections.get connection).references) =
        some (.held 1) := by decide +kernel
  -- The acquisition and the checkout succeed, so the call gets as far as its connection.
  rcases ended : call.run binding Act.connectTo world with ⟨result, after⟩
  rw [ended] at dropped
  obtain ⟨counts, ⟨refused, -⟩ | ⟨halt, failed, -⟩ | ⟨source, middle, acquired, gone, outcome⟩⟩ :=
    settled_of_run call binding Act.connectTo world after result known counted_connectTo ended
  · cases refused
  · have halted : checkout world = (.error halt, after) := by
      simp only [checkout, Work.bind_apply, show binding.acquire .read world = _ from failed]
    rw [halted] at lent
    cases lent
  · have went : checkout world = source.connection Act.connectTo middle := by
      simp only [checkout, Work.bind_apply, show binding.acquire .read world = _ from acquired]
    rw [went] at lent
    rcases outcome with ⟨halt, leased, failed, -⟩ |
      ⟨connection, leased, outcome, worked, released, checkedOut, -, -, -, lease⟩
    · rw [failed] at lent
      cases lent
    · rw [checkedOut] at lent
      obtain ⟨-, none, closed⟩ := lease 0 (Option.some.inj lent)
      refine ⟨after, source, connection, ?_, counts 0 (by decide), counts 1 (by decide), gone, none,
        closed rfl⟩
      rw [show result = _ from eq_dropped_of_isGivenUp dropped]

end BindingCall

end DocWire
