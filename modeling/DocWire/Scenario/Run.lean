import DocWire.Scenario.Step

/-! Running a scenario: its steps in order, in one world, each reported with what was sent and with
the named objects that changed. -/

namespace DocWire

/-- The world of a scenario, and what it has named. -/
structure Stage where
  world : World := {}
  named : List (String × Named) := []
  standings : List (String × Standing) := []
deriving Inhabited

/-- Work on the stage. -/
abbrev Play := ExceptT Halt (StateM Stage)

/-- How long a step waits, in milliseconds. -/
def stepPatience : Nat := 3600000

/-- Whether a call that finds nothing left to read sees the end of the stream. -/
def Calling.blocks : Calling → Bool
  | .awaited => false
  | .blocking | .background => true

/-- Names an object; one of the same name is forgotten. -/
def nameObject (name : String) (object : Named) : List (String × Named) → List (String × Named)
  | [] => [(name, object)]
  | (other, old) :: rest =>
    if other = name then (name, object) :: rest else (other, old) :: nameObject name object rest

namespace Play

/-- Works on the world. -/
def act {α : Type} (work : Act α) : Play α := fun stage =>
  let (result, world) := work stage.world
  (result, { stage with world })

/-- Gives an object a name. -/
def name (name : String) (object : Named) : Play Unit :=
  modify fun stage => { stage with named := nameObject name object stage.named }

/-- Forgets a name. -/
def forget (name : String) : Play Unit :=
  -- The object itself stays in the world.
  modify fun stage => { stage with named := stage.named.filter (·.1 != name) }

/-- The object with a name; work on what is not there never ends. -/
def object (name : String) : Play Named := do
  match (← get).named.find? (·.1 == name) with
  | some (_, object) => return object
  | none => throw .dropped

/-- The connection with a name. -/
def connection (name : String) : Play Nat := do
  match ← object name with
  | .connection number => return number
  | _ => throw .dropped

/-- The payload with a name. -/
def payload (name : String) : Play Payload := do
  match ← object name with
  | .payload payload => return payload
  | _ => throw .dropped

/-- The pool with a name. -/
def pool (name : String) : Play Nat := do
  match ← object name with
  | .pool key => return key
  | _ => throw .dropped

/-- The session with a name. -/
def session (name : String) : Play Nat := do
  match ← object name with
  | .session key => return key
  | _ => throw .dropped

/-- The server session with a name. -/
def serverSession (name : String) : Play ServerSession := do
  match ← object name with
  | .serverSession session => return session
  | _ => throw .dropped

/-- The topology with a name. -/
def topology (name : String) : Play Nat := do
  match ← object name with
  | .topology key => return key
  | _ => throw .dropped

/-- The binding with a name. -/
def binding (name : String) : Play Binding := do
  match ← object name with
  | .binding binding => return binding
  | _ => throw .dropped

/-- The source with a name. -/
def source (name : String) : Play Source := do
  match ← object name with
  | .source source => return source
  | _ => throw .dropped

/-- The session that operations run under. -/
def sessionUse : ContextName → Play (Option SessionUse)
  | .absent => return none
  | .session name implicit => return some ⟨← session name, implicit⟩
  | .source name => return (← source name).sessionUse
  | .binding name => return (← binding name).sessionUse

/-- What is known of the session that operations run under. -/
def reportUse (use : Option SessionUse) : Play ContextReport := do
  let world := (← get).world
  return {
    session := use.map fun use => world.sessions.get use.session
    implicit := (use.map (·.implicit)).getD false }

/-- What is known of a binding. -/
def reportBinding (binding : Binding) : Play BindingReport := do
  let api ← act binding.api
  let context ← reportUse binding.sessionUse
  return { preference := binding.readPreference, api, context }

/-- Makes calls in a way: blocking calls do not wait for what nobody will send. -/
def calling (calling : Calling) : Play Unit :=
  modify fun stage =>
    let network := { stage.world.network with blocking := calling.blocks }
    { stage with world := { stage.world with network } }

/-- Works on the connection of a use, as its executor or as a method of the connection. -/
def onConnection {α : Type} (use : ConnectionUse) (work : Exchange α) : Play α := do
  let connection ← connection use.name
  calling use.via.calling
  -- A method leaves the connection open; only an executor may close it.
  let work := closingAfter (use.closes && !use.via.method) work
  act (Act.exchange connection none
    (if use.via.calling = .background then apart work else work))

/-- The call of a command step. -/
def commandCall (use : ConnectionUse) (step : CommandStep) : CommandCall where
  database := step.database
  command := step.command
  readPreference := step.readPreference
  api := step.api
  responseExpected := step.responseExpected
  context := use.context

/-- Runs a command as an executor of its own, which hands the payload back when it returns. -/
def executeCommand (use : ConnectionUse) (step : CommandStep) : Play (Option Decoded) := do
  let connection ← connection use.name
  let session := (← sessionUse step.session).map (·.session)
  let payload ← step.payload.mapM payload
  calling use.via.calling
  let work := closingAfter use.closes ((commandCall use step).run step.decoder)
  let work := if use.via.calling = .background then apart work else work
  let (result, handed) ← act (Act.onLine connection session payload work)
  match step.payload, handed with
  | some name, some payload =>
    -- The payload comes back with its new position even from a command that failed.
    if returned result then Play.name name (.payload payload)
  | _, _ => pure ()
  act (Act.resume result)

/-- Runs a command as a method of the connection, without a payload. -/
def callCommand (use : ConnectionUse) (step : CommandStep) : Play Decoded := do
  let connection ← connection use.name
  let session ← sessionUse step.session
  calling use.via.calling
  act (Act.command connection session step.rule
    -- A method always waits for the answer.
    { commandCall use step with responseExpected := true } step.decoder)

/-- Runs a command as a method of the connection, with a payload that is named anew afterwards. -/
def callWithPayload (use : ConnectionUse) (step : CommandStep) (name : String) :
    Play (Option Decoded) := do
  let connection ← connection use.name
  let session := (← sessionUse step.session).map (·.session)
  let lent ← payload name
  calling use.via.calling
  let (result, left) ← act (Act.commandWithPayload connection session step.rule
    (commandCall use step) step.decoder lent)
  Play.name name (.payload left)
  act (Act.resume result)

/-- Runs a command in the way that the step asks for. -/
def runCommand (use : ConnectionUse) (step : CommandStep) : Play (Option Decoded) :=
  if !use.via.method then executeCommand use step
  else
    match step.payload with
    | some name => callWithPayload use step name
    | none => return some (← callCommand use step)

/-- Takes one more reference to a named object. -/
def retain (name : String) : Play Unit := do
  match ← object name with
  | .connection number => act (Act.retainConnection number)
  | .binding binding => act binding.retain
  | .source source => act source.retain
  | _ => throw .dropped

/-- Gives a reference to a named object up. -/
def release (name : String) : Play Unit := do
  match ← object name with
  | .connection number => act (Act.releaseConnection number)
  | .binding binding => act binding.release
  | .source source => act source.release
  | _ => throw .dropped

/-- How many references to a named object are held. -/
def count (name : String) : Play Nat := do
  match ← object name with
  | .connection number => return ((← get).world.connections.get number).references.count
  | .binding binding => act (Act.countOf binding.count)
  | .source source => act (Act.countOf source.count)
  | _ => throw .dropped

/-- Moves the times of a session on. -/
def advance (use : Option SessionUse) (cluster : Option Document) (operation : Option Timestamp) :
    Play Unit := do
  -- The document is read whether or not there is a session to move on.
  let time ← match cluster with
    | none => pure none
    | some document =>
      match ClusterTime.ofValue? (Value.document document) with
      | some time => pure (some time)
      | none => throw (.ofCause .undecodable)
  match use with
  | none => pure ()
  | some use => modify fun stage =>
    let session := stage.world.sessions.get use.session
    let session := match time with
      | some time => session.advanceClusterTime time
      | none => session
    let session := match operation with
      | some moment => session.advanceOperationTime moment
      | none => session
    let sessions := stage.world.sessions.set use.session session
    { stage with world := { stage.world with sessions } }

/-- The address of a connection. -/
def addressOf (connection : Nat) : Play Address :=
  return ((← get).world.connections.get connection).id.address

/-- Makes the calls on a source in order, up to the first that fails. -/
def callSource (source : Source) : List CountCall → Play Unit
  | [] => pure ()
  | .retain :: rest => do
    act source.retain
    callSource source rest
  | .release :: rest => do
    act source.release
    callSource source rest

end Play

/-- One early call in the body of an operation. -/
def EarlyCall.perform (source : Source) (connection : Nat) : EarlyCall → Act Unit
  | releaseConnection => Act.releaseConnection connection
  | releaseSource => source.release
  | retainConnection => Act.retainConnection connection
  | retainSource => source.retain
  | close => Act.closeConnection connection

/-- The body of an operation: a note of what it was given, early calls, a command, and its end. -/
def operationBody (early : List EarlyCall) (ping : Bool) (ending : BodyEnd) (source : Source)
    (connection : Nat) : Act Answer := do
  -- The note is taken before the early calls, and lost if any of them fails.
  let held := (← get).connections.get connection
  let note := Answer.note (← Act.countOf source.count) held.references.count held.closed
  early.forM (·.perform source connection)
  if ping then
    let _ ← Act.command connection none .any (pingCall 1) Decoder.document
  match ending with
  | .noted => return note
  | .failing => Act.fail (.argument (.apiVersion "bad"))
  | .waiting => Act.dropWork

/-- Does what a step asks for. -/
def Play.perform : Action → Play Answer
  | .connect name description hungUp => do
    let number ← Play.act (Act.connect description hungUp)
    Play.name name (.connection number)
    return .connection ((← get).world.connections.get number).id
  | .close name => do
    Play.act (Act.closeConnection (← Play.connection name))
    return .nothing
  | .pin name mode => do
    Play.act (Act.modifyLine (← Play.connection name) (·.pin mode))
    return .nothing
  | .retained name other => do
    let number ← Play.connection name
    Play.act (Act.retainConnection number)
    Play.name other (.connection number)
    return .nothing
  | .write use task => do
    -- A method has no way to be given a concern.
    let task := if use.via.method then { task with concern := {} } else task
    return .write (← Play.onConnection use task.run)
  | .command use step => return .reply (← Play.runCommand use step)
  | .query use asked decoder => return .batch (← Play.onConnection use (asked.run decoder))
  | .getMore use request decoder => return .batch (← Play.onConnection use (request.run decoder))
  | .killCursors use request => do
    Play.onConnection use request.run
    return .nothing
  | .payload name kind documents => do
    let payload ← Play.act (Act.check (Payload.ofDocuments kind documents))
    Play.name name (.payload payload)
    return .identifier kind.identifier
  | .overlap name steps cancelAfter closes => do
    let number ← Play.connection name
    let work := DocWire.overlap steps cancelAfter closes
    return .overlap (← Play.act (Act.exchange number none work))
  | .retain name => do
    Play.retain name
    return .nothing
  | .release name => do
    Play.release name
    return .nothing
  | .count name => return .count (← Play.count name)
  | .pool name => do
    Play.name name (.pool (← Play.act Act.createPool))
    return .nothing
  | .session name pool causal => do
    let key ← Play.act (Act.startSession (← Play.pool pool) causal)
    Play.name name (.session key)
    return .serverSession ((← get).world.sessions.get key).server
  | .checkOut name pool => do
    let session ← Play.act (Act.checkOut (← Play.pool pool))
    Play.name name (.serverSession session)
    return .serverSession session
  | .checkIn pool name => do
    Play.act (Act.checkIn (← Play.pool pool) (← Play.serverSession name))
    Play.forget name
    return .nothing
  | .closeSession name => do
    Play.act (Act.closeSession (← Play.session name))
    return .nothing
  | .context context => return .context (← Play.reportUse (← Play.sessionUse context))
  | .advance context cluster operation => do
    let use ← Play.sessionUse context
    Play.advance use cluster operation
    return .context (← Play.reportUse use)
  | .topology name type options => do
    let key ← Play.act Act.freshKey
    modify fun stage =>
      let topologies := stage.world.topologies.set key { type, options }
      { stage with world := { stage.world with topologies } }
    Play.name name (.topology key)
    return .timeout options.timeout
  | .publish name change => do
    Play.act (Act.publish (← Play.topology name) change)
    return .nothing
  | .describe name => do
    let key ← Play.topology name
    return .cluster ((← get).world.topologies.get key).description
  | .select name criteria later => do
    let key ← Play.topology name
    let now := (← get).world.network.now
    let publications := later.toList.map fun (after, server) => (now + after, .upsert server)
    let servers ← Play.act (Act.selectAmong key criteria publications)
    -- The answer lists all that were found, not the one that was settled on.
    let _ ← Play.act (Act.settleOn criteria servers)
    let texts := servers.map (·.description.address.text)
    return .selected (texts.mergeSort fun a b => a ≤ b)
  | .clusterBinding name topology preference => do
    let binding ← Play.act (Binding.toCluster (← Play.topology topology) preference)
    Play.name name (.binding binding)
    return .binding (← Play.reportBinding binding)
  | .sessionBinding name inner choice => do
    let inner ← Play.binding inner
    let (binding, owned) ← match choice with
      | .fresh pool => do
        pure (← Play.act (inner.underOwnSession (← Play.pool pool)), true)
      | .given session owned => do
        pure (← Play.act (inner.underSession (← Play.session session) owned), owned)
    Play.name name (.binding binding)
    return .sessionBinding (← Play.reportBinding binding) owned
  | .bindingInfo name => return .binding (← Play.reportBinding (← Play.binding name))
  | .source name binding intent => do
    let source ← Play.act ((← Play.binding binding).acquire intent)
    Play.name name (.source source)
    return .source source.description
  | .heldSource binding intent connection calls => do
    Play.calling .blocking
    let source ← Play.act ((← Play.binding binding).acquire intent)
    -- The count is taken before any call on the source.
    let held ← Play.act (Act.countOf source.count)
    let answer := Answer.heldSource source.description held source.sessionUse.isSome
    match connection with
    | none => pure ()
    | some name => Play.name name (.connection (← Play.act source.connection))
    Play.callSource source calls
    return answer
  | .checkout name source => do
    let number ← Play.act (← Play.source source).connection
    Play.name name (.connection number)
    return .address (← Play.addressOf number)
  | .runCommand binding operation decoder calling => do
    Play.calling calling
    return .decoded (← Play.act (operation.run (← Play.binding binding) decoder))
  | .dropUser binding operation calling => do
    Play.calling calling
    Play.act (operation.run (← Play.binding binding))
    return .nothing
  | .withConnection binding intent early ping ending => do
    let binding ← Play.binding binding
    Play.act (Act.onBinding binding intent (operationBody early ping ending))

/-- What can be seen of an object. -/
def World.standing? (world : World) : Named → Option Standing
  | .connection number =>
    let connection := world.connections.get number
    some (.connection connection.references.count connection.closed connection.pinning)
  | .payload held =>
    let length := held.documents.length
    some (.payload held.position length held.hasMore (length == 0))
  | .pool key => some (.pool (world.pools.get key).idle.length)
  | .serverSession _ => none
  | .session key => some (.session (world.sessions.get key).closed)
  | .topology _ => none
  | .binding (.cluster count _ _) => some (.counted (world.counts.get count).count)
  | .binding (.session count inner session _) =>
    some (.sessionBinding (world.counts.get count).count (world.counts.get inner.count).count
      (world.sessions.get session).closed)
  | .source source => some (.counted (world.counts.get source.count).count)

namespace Stage

/-- What can be seen of all named objects. -/
def look (stage : Stage) : List (String × Standing) :=
  stage.named.filterMap fun (name, object) =>
    (stage.world.standing? object).map fun standing => (name, standing)

/-- The stage before a step. -/
def prepare (stage : Stage) (script : List Reaction) : Stage :=
  let network := stage.world.network
  -- The clock goes on from step to step, everything else begins anew.
  let network := { network with
    patience := network.now + stepPatience
    blocking := false
    script := script.map (·.behaviour)
    sent := []
    events := [] }
  { stage with world := { stage.world with network } }

/-- Does a step, and reports it. -/
def step (stage : Stage) (step : Step) : StepReport × Stage :=
  let (result, stage) := Play.perform step.action (stage.prepare step.script)
  let standings := stage.look
  -- Only what looks different from the end of the step before is reported.
  let changed := standings.filter fun entry => !stage.standings.contains entry
  let network := stage.world.network
  ({ result, sent := network.sent, unused := network.script.length, standings := changed,
     events := network.events },
    { stage with standings })

/-- Does steps in order. -/
def steps (stage : Stage) : List Step → List StepReport
  | [] => []
  | step :: rest =>
    let (report, stage) := stage.step step
    report :: stage.steps rest

end Stage

/-- Runs a scenario from the beginning. -/
def runScenario (steps : List Step) : List StepReport := ({} : Stage).steps steps

end DocWire
